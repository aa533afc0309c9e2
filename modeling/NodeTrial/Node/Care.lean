import NodeTrial.Dialogue
import NodeTrial.FileTree.Text

namespace NodeTrial

/-- The number by which a machine knows a process. -/
abbrev Pid := Nat

inductive MachineCall
  /-- Create a directory and what is missing above it. -/
  | createDirectories (path : String)
  /-- Open an empty file, its old content cut off, and tell its identity. -/
  | createFile (path : String)
  | readText (path : String)
  | removeFile (path : String)
  /-- Start a child that writes to an open file, and tell its number. -/
  | spawn (program : String) (args : List String) (directory : String) (output : Nat)
  /-- Tell whether a child has exited, and reap it if so. For a child that was started here and has not
  been reaped the system never fails to tell, so there is no answer for a failure. -/
  | hasExited (child : Pid)
  | terminate (child : Pid)
  /-- Wait until a child has exited, but no longer than some milliseconds; tell whether it has, and
  reap it if so. -/
  | awaitExit (child : Pid) (time : Nat)
  | kill (child : Pid)
  | reap (child : Pid)
  /-- Let some milliseconds pass. -/
  | sleep (time : Nat)

def MachineCall.Answer : MachineCall → Type
  | createDirectories _ => Except FileError Unit
  | createFile _ => Except FileError Nat
  | readText _ => Except ReadFault String
  | removeFile _ => Except FileError Unit
  | spawn .. => Except FileError Pid
  | hasExited _ => Bool
  | terminate _ => Unit
  | awaitExit .. => Bool
  | kill _ => Unit
  | reap _ => Unit
  | sleep _ => Unit

abbrev Care := Dialogue MachineCall MachineCall.Answer

namespace Care

def ask (c : MachineCall) : Care c.Answer := Dialogue.question c

def createDirectories (path : String) : Care (Except FileError Unit) :=
  ask (.createDirectories path)

def createFile (path : String) : Care (Except FileError Nat) := ask (.createFile path)

def readText (path : String) : Care (Except ReadFault String) := ask (.readText path)

def removeFile (path : String) : Care (Except FileError Unit) := ask (.removeFile path)

def spawn (program : String) (args : List String) (directory : String) (output : Nat) :
    Care (Except FileError Pid) :=
  ask (.spawn program args directory output)

def hasExited (child : Pid) : Care Bool := ask (.hasExited child)

def terminate (child : Pid) : Care Unit := ask (.terminate child)

def awaitExit (child : Pid) (time : Nat) : Care Bool := ask (.awaitExit child time)

def kill (child : Pid) : Care Unit := ask (.kill child)

def reap (child : Pid) : Care Unit := ask (.reap child)

def sleep (time : Nat) : Care Unit := ask (.sleep time)

end Care

end NodeTrial
