import NodeTrial.Dialogue
import NodeTrial.FileTree.Error
import NodeTrial.Json.Value
import NodeTrial.Launch
import NodeTrial.Tool

namespace NodeTrial

structure NetworkFailure where
  message : String
  deriving DecidableEq, Repr

/-- What a run asks of its surroundings. -/
inductive Request
  | tool (invocation : Invocation)
  /-- Fetch an address and tell the status. -/
  | status (url : String)
  | call (url method : String) (params : Json)
  | startNode (launch : Launch)
  | stopNode
  | nodeRunning
  | isFile (path : String)
  /-- Create a directory and what is missing above it. -/
  | createDirectories (path : String)
  | writeFile (path text : String)
  | moveFile (source target : String)
  | pause (time : Nat)
  /-- Tell the date and the time, in words. -/
  | time
  | platform
  | tell (line : String)

def Request.Answer : Request → Type
  | tool _ => ToolOutput
  | status _ => Except NetworkFailure Nat
  | call .. => Except NetworkFailure Json
  | startNode _ => Except StartFailure Nat
  | stopNode => Unit
  | nodeRunning => Bool
  | isFile _ => Bool
  | createDirectories _ => Except FileError Unit
  | writeFile .. => Except FileError Unit
  | moveFile .. => Except FileError Unit
  | pause _ => Unit
  | time => String
  | platform => String
  | tell _ => Unit

abbrev Trial := Dialogue Request Request.Answer

namespace Trial

def request (q : Request) : Trial q.Answer := Dialogue.question q

def tool (i : Invocation) : Trial ToolOutput := request (.tool i)

def status (url : String) : Trial (Except NetworkFailure Nat) := request (.status url)

def call (url method : String) (params : Json) : Trial (Except NetworkFailure Json) :=
  request (.call url method params)

def startNode (l : Launch) : Trial (Except StartFailure Nat) := request (.startNode l)

def stopNode : Trial Unit := request .stopNode

def nodeRunning : Trial Bool := request .nodeRunning

def isFile (path : String) : Trial Bool := request (.isFile path)

def createDirectories (path : String) : Trial (Except FileError Unit) :=
  request (.createDirectories path)

def writeFile (path text : String) : Trial (Except FileError Unit) :=
  request (.writeFile path text)

def moveFile (source target : String) : Trial (Except FileError Unit) :=
  request (.moveFile source target)

def pause (time : Nat) : Trial Unit := request (.pause time)

def time : Trial String := request .time

def platform : Trial String := request .platform

def tell (line : String) : Trial Unit := request (.tell line)

end Trial

end NodeTrial
