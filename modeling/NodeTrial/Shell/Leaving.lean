import NodeTrial.Shell.Expansion
import NodeTrial.Shell.Utility

namespace NodeTrial.Shell

namespace Running

def childEnvironment (e : Environment) : Environment :=
  { e with
    bindings := e.bindings.filter fun (name, _) => e.exported.contains name
    functions := []
    traps := e.traps.filter fun (_, action) => action.isEmpty
    exitOnFailure := false
    refusesAbsent := false
    traces := false
    lastJob := none }

def subshellEnvironment (e : Environment) : Environment :=
  { e with traps := e.traps.filter fun (_, action) => action.isEmpty }

def enterSubshell (r : Running) : Running :=
  (r.push (.leaveSubshell r.process.environment)).mapEnvironment subshellEnvironment

/-- The beginning of messages about a line of the script. -/
def here (r : Running) (line : Nat) : String :=
  r.process.environment.name ++ ": " ++ toString line ++ ": "

def restore (values : List (String × Option String)) (e : Environment) : Environment :=
  values.foldl (fun e (name, value) =>
    match value with
    | some v => e.set name v
    | none => { e with bindings := e.bindings.filter (·.1 != name) }) e

def leave (e : Environment) : Frame → Environment
  | .leaveRedirections saved => { e with descriptors := saved }
  | .leaveAssignments values exported => { restore values e with exported }
  | .leaveCall arguments values => restore values { e with arguments }
  | _ => e

def unwind (stops : Frame → Bool) : List Frame → Environment → List Frame × Environment
  | [], e => ([], e)
  | f :: rest, e => if stops f then (f :: rest, e) else unwind stops rest (leave e f)

def isSubshellEnd : Frame → Bool
  | .leaveSubshell _ => true
  | .leaveProgram _ => true
  | _ => false

def isProgramEnd : Frame → Bool
  | .leaveProgram _ => true
  | _ => false

def isCallEnd : Frame → Bool
  | .leaveCall .. => true
  | f => isSubshellEnd f

def isLoop : Frame → Bool
  | .again .. => true
  | .each .. => true
  | .tested .. => true
  | f => isSubshellEnd f

def unwound (r : Running) (stops : Frame → Bool) : Running :=
  let (frames, environment) := unwind stops r.process.frames r.process.environment
  { r with process := { r.process with frames, environment } }

def exit (r : Running) (status : Nat) : Running := (r.unwound isSubshellEnd).finish (status % 256)

def returnWith (r : Running) (status : Nat) : Running :=
  (r.unwound isCallEnd).finish (status % 256)

/-- Leaves some loops; the last of them goes on if asked. -/
def leaveLoops (goesOn : Bool) : (count : Nat) → Running → Running
  | 0, r => r.finish 0
  | count + 1, r =>
    if r.process.frames.any fun f => isLoop f && !isSubshellEnd f then
      let r := r.unwound isLoop
      match r.process.frames with
      | f :: rest =>
        if isSubshellEnd f then r.finish 0
        else if count = 0 && goesOn then r.finish 0
        else leaveLoops goesOn count { r with process := { r.process with frames := rest } }
      | [] => r.finish 0
    else r.finish 0

/-- Whether a command that fails now is part of a condition. -/
def inCondition (r : Running) : Bool :=
  (r.process.frames.takeWhile fun f => !isProgramEnd f).any fun
    | .onSuccess _ => true
    | .onFailure _ => true
    | .negate => true
    | .choose .. => true
    | .tested .. => true
    | _ => false

/-- Ends the shell if a command failed and the shell was told to. -/
def checkFailure (r : Running) : Running :=
  let e := r.process.environment
  if e.exitOnFailure && e.status != 0 && !r.inCondition then r.exit e.status else r

/-- The environment of the shell itself, given the frames of the subshells that it is in. -/
def mainEnvironment (frames : List Frame) (e : Environment) : Environment :=
  frames.foldl (fun e f =>
    match f with
    | .leaveSubshell saved => saved
    | _ => e) e

/-- A signal comes to a shell with the given environment; `ended` is what a deadly one leaves. -/
def strike (r : Running) (s : Signal) (e : Environment) (ended : Running) : Running :=
  match s, e.traps.lookup (.signal s) with
  | .kill, _ => ended
  | .stop, _ => r.act .halt
  | _, some "" => r
  | _, some _ => { r with process := { r.process with pending := r.process.pending ++ [s] } }
  | s, none =>
    match s.effect with
    | .none => r
    | .stops => r.act .halt
    | .ends => ended

def deliver (r : Running) (s : Signal) : Running :=
  let e := r.process.frames.foldl (fun e f =>
    match f with
    | .leaveSubshell saved => saved
    | .leaveProgram saved => saved
    | _ => e) r.process.environment
  let r := match s, r.process.activity with
    | .goOn, .halt => r.act .goOn
    | _, _ => r
  r.strike s e (r.act (.ended (.signal s)))

/-- The shell sends a signal to itself. A program that was started from a shell ends alone, and the
shell takes note of that. -/
def raise (r : Running) (s : Signal) : Running :=
  let own := r.process.frames.takeWhile fun f => !isProgramEnd f
  let ended := match r.process.frames.drop own.length with
    | .leaveProgram saved :: rest =>
      let r := { r with process := { r.process with frames := rest, environment := saved } }
      (r.writeText 2 s.obituary).finish (128 + s.number) |>.checkFailure
    | _ => r.act (.ended (.signal s))
  r.strike s (mainEnvironment own r.process.environment) ended

end Running

end NodeTrial.Shell
