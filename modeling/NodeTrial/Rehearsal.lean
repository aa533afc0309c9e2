import NodeTrial.FileTree.Change
import NodeTrial.Surroundings
import NodeTrial.Text.Utf8

/-!
Rehearsals: surroundings that play a script. Tools, network and node answer what was written down
beforehand, files are those of a file tree, and everything that is asked is kept.
-/

namespace NodeTrial

/-- What tools answer to the command lines that hold a pattern. -/
structure ToolRule where
  pattern : String
  /-- The answers still to come, in order; the last one is given again and again. -/
  outputs : List ToolOutput
  deriving DecidableEq, Repr

/-- What the network answers to fetches of addresses with an ending. -/
structure StatusRule where
  ending : String
  /-- The answers still to come, in order; the last one is given again and again. -/
  answers : List (Except NetworkFailure Nat)

inductive NetworkCall
  | status (url : String)
  | call (url method : String) (params : Json)

/-- A node that plays its part: it runs after a successful start and until it is stopped. -/
structure NodeScript where
  /-- How every start ends. -/
  onStart : Except StartFailure Nat
  running : Bool
  /-- The first answers to the question whether the node runs, whatever is true. -/
  firstAnswers : List Bool
  starts : Nat
  stops : Nat
  /-- How often it was asked whether the node runs. -/
  probes : Nat
  lastLaunch? : Option Launch

structure Rehearsal where
  tools : List ToolRule
  statuses : List StatusRule
  /-- The answers to calls, each given once. -/
  replies : List (Except NetworkFailure Json)
  node : NodeScript
  files : FileTree
  /-- What the time and the machine are said to be. -/
  time : String
  platform : String
  /-- The invocations so far, the last one first. -/
  invocations : List Invocation
  /-- What was asked of the network so far, the last one first. -/
  networkCalls : List NetworkCall
  /-- The lines that the operator was shown, the last one first. -/
  told : List String

namespace ToolRule

def add (pattern : String) (output : ToolOutput) : List ToolRule → List ToolRule
  | [] => [⟨pattern, [output]⟩]
  | r :: rest =>
    if r.pattern = pattern then { r with outputs := r.outputs ++ [output] } :: rest
    else r :: add pattern output rest

end ToolRule

/-- Takes the next of some answers; the last one stays. -/
def takeAnswer {α : Type} : List α → Option (α × List α)
  | [] => none
  | [a] => some (a, [a])
  | a :: b :: rest => some (a, b :: rest)

namespace Rehearsal

/-- The answer to a command line by the first rule whose pattern occurs in it, and the rules that
are left. -/
def answerTool (i : Invocation) : List ToolRule → ToolOutput × List ToolRule
  | [] => (.notFound i.program, [])
  | r :: rest =>
    if Text.contains i.display r.pattern then
      match takeAnswer r.outputs with
      | some (o, outputs) => (o, { r with outputs } :: rest)
      | none => (.notFound i.program, r :: rest)
    else
      let (o, rest) := answerTool i rest
      (o, r :: rest)

def refused : NetworkFailure := ⟨"connection refused"⟩

/-- The answer to a fetch by the first rule whose ending the address has, and the rules that are
left. -/
def answerStatus (url : String) : List StatusRule → Except NetworkFailure Nat × List StatusRule
  | [] => (.error refused, [])
  | r :: rest =>
    if Text.endsWith url r.ending then
      match takeAnswer r.answers with
      | some (a, answers) => (a, { r with answers } :: rest)
      | none => (.error refused, r :: rest)
    else
      let (a, rest) := answerStatus url rest
      (a, r :: rest)

def answer : (q : Request) → StateM Rehearsal q.Answer
  | .tool i => fun h =>
    let (o, tools) := answerTool i h.tools
    (o, { h with tools, invocations := i :: h.invocations })
  | .status url => fun h =>
    let (a, statuses) := answerStatus url h.statuses
    (a, { h with statuses, networkCalls := .status url :: h.networkCalls })
  | .call url method params => fun h =>
    let h := { h with networkCalls := .call url method params :: h.networkCalls }
    match h.replies with
    | [] => (.error refused, h)
    | reply :: replies => (reply, { h with replies })
  | .startNode l => fun h =>
    let running := match h.node.onStart with
      | .ok _ => true
      | .error _ => false
    (h.node.onStart,
      { h with node :=
          { h.node with running, starts := h.node.starts + 1, lastLaunch? := some l } })
  | .stopNode => fun h =>
    ((), { h with node := { h.node with running := false, stops := h.node.stops + 1 } })
  | .nodeRunning => fun h =>
    let node := { h.node with probes := h.node.probes + 1 }
    match node.firstAnswers with
    | [] => (node.running, { h with node })
    | a :: firstAnswers => (a, { h with node := { node with firstAnswers } })
  | .isFile path => fun h => (h.files.isFile [] path, h)
  | .createDirectories path => fun h =>
    let (files, result) := h.files.createDirectories [] path
    (result, { h with files })
  | .writeFile path text => fun h =>
    let (files, written) := h.files.write [] path (Utf8.encode text.toList) .ample
    (written, { h with files })
  | .moveFile source target => fun h =>
    match h.files.move [] source target with
    | .error e => (.error e, h)
    | .ok files => (.ok (), { h with files })
  | .pause _ => fun h => ((), h)
  | .time => fun h => (h.time, h)
  | .platform => fun h => (h.platform, h)
  | .tell line => fun h => ((), { h with told := line :: h.told })

def perform {α : Type} (h : Rehearsal) (t : Trial α) : α × Rehearsal := (t.run answer).run h

end Rehearsal

end NodeTrial
