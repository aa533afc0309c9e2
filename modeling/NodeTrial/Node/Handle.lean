import NodeTrial.Launch
import NodeTrial.Node.Care
import NodeTrial.Path
import NodeTrial.Text.Lines

/-!
Handles on a node: a child process together with its log. Stopping a handle ends the child, by force
if need be, and removes the log. A handle that has been stopped never touches a process again, but
each further stop removes what is at the path of the log.
-/

namespace NodeTrial

inductive HandleState
  | running
  | stopped
  deriving DecidableEq, Repr

structure NodeHandle where
  /-- The child, until it is stopped. -/
  child? : Option Pid
  /-- The number that is shown; a start that failed has none. -/
  pid? : Option Pid
  logPath : String
  /-- The time between asking the node to end and killing it. -/
  stopGrace : Nat
  state : HandleState
  deriving DecidableEq, Repr

namespace NodeHandle

/-- How many lines of the log the failure of a start shows. -/
def excerptLines : Nat := 5

inductive SpawnError
  | logDirectory (path : String) (cause : FileError)
  | logFile (path : String) (cause : FileError)
  | program (path : String) (cause : FileError)
  deriving DecidableEq, Repr

def SpawnError.message : SpawnError → String
  | logDirectory path cause => "create log dir " ++ path ++ ": " ++ cause.message
  | logFile path cause => "create log file " ++ path ++ ": " ++ cause.message
  | program path cause => "spawn " ++ path ++ ": " ++ cause.message

def prepareLog (path : String) : Care (Except SpawnError Unit) :=
  match Path.parent? path with
  | none => pure (.ok ())
  | some directory => do
    let r ← Care.createDirectories directory
    pure (r.mapError (.logDirectory directory))

def spawnChild (l : Launch) : Care (Except SpawnError Pid) := do
  match ← prepareLog l.logPath with
  | .error e => pure (.error e)
  | .ok () =>
    match ← Care.createFile l.logPath with
    | .error e => pure (.error (.logFile l.logPath e))
    | .ok log =>
      let r ← Care.spawn l.program l.args l.directory log
      pure (r.mapError (.program l.program))

/-- Removes the log. That it cannot be removed is passed over. -/
def removeLog (path : String) : Care Unit := do
  let _ ← Care.removeFile path
  pure ()

def fresh (l : Launch) (child : Pid) : NodeHandle :=
  { child? := some child
    pid? := some child
    logPath := l.logPath
    stopGrace := l.stopGrace
    state := .running }

/-- Starts a node without waiting. If that fails no log is left. -/
def spawn (l : Launch) : Care (Except StartFailure NodeHandle) := do
  match ← spawnChild l with
  | .ok child => pure (.ok (fresh l child))
  | .error e =>
    removeLog l.logPath
    pure (.error ⟨e.message, ""⟩)

/-- Whether the node is alive. The handle notes when it is not. -/
def isAlive (h : NodeHandle) : Care (Bool × NodeHandle) :=
  match h.child? with
  | none => pure (false, h)
  | some child => do
    if ← Care.hasExited child then pure (false, { h with state := .stopped })
    else pure (true, h)

/-- Ends a child: it is asked to, and killed if it is still there after the grace period. -/
def endChild (grace : Nat) (child : Pid) : Care Unit := do
  if ← Care.hasExited child then pure ()
  else
    Care.terminate child
    if ← Care.awaitExit child grace then pure ()
    else
      Care.kill child
      Care.reap child

/-- Ends the node, unless it was stopped before, and removes the log. -/
def stop (h : NodeHandle) : Care NodeHandle :=
  match h.child? with
  | none => do
    removeLog h.logPath
    pure h
  | some child => do
    endChild h.stopGrace child
    removeLog h.logPath
    pure { h with child? := none, state := .stopped }

def drop (h : NodeHandle) : Care Unit := do
  let _ ← h.stop
  pure ()

/-- The first lines of a log, or nothing if it cannot be read as text. -/
def excerpt : Except ReadFault String → String
  | .ok text => Text.firstLines text excerptLines
  | .error _ => ""

def diedEarly (log : Except ReadFault String) : StartFailure :=
  ⟨"Process exited during startup", excerpt log⟩

/-- Looks whether the node is alive after its start. If not, it is stopped, and the failure shows
the first lines of the log. -/
def confirm (h : NodeHandle) : Care (Except StartFailure Unit × NodeHandle) := do
  let (alive, h) ← h.isAlive
  if alive then pure (.ok (), h)
  else
    let log ← Care.readText h.logPath
    let h ← h.stop
    pure (.error (diedEarly log), { h with pid? := none })

def settle (time : Nat) : Care Unit :=
  if time = 0 then pure () else Care.sleep time

def start (l : Launch) : Care (Except StartFailure NodeHandle) := do
  match ← spawn l with
  | .error e => pure (.error e)
  | .ok h =>
    settle l.settle
    match ← h.confirm with
    | (.ok (), h) => pure (.ok h)
    | (.error e, h) =>
      h.drop
      pure (.error e)

end NodeHandle

end NodeTrial
