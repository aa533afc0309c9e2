import NodeTrial.CommandLine.Options
import NodeTrial.Config.Loading
import NodeTrial.Interruption
import NodeTrial.Machine.Session
import NodeTrial.Run

namespace NodeTrial.CommandLine

structure Ending where
  exitCode : Nat
  stdout : String
  stderr : String
  machine : Machine

/-- Why nothing is run, or why a run has no report. -/
inductive Failure
  | root (path : String) (cause : FileError)
  | config (cause : LoadError)
  | patterns (cause : ConfigFault)
  | report (cause : Report.StoreError)

def Failure.message : Failure → String
  | root path cause => "resolve project root " ++ path ++ ": " ++ cause.message
  | config cause => cause.fullMessage
  | patterns cause => cause.message
  | report cause => cause.fullMessage

def failureCode : Nat := 1

/-- The exit code of a call whose arguments have no meaning. -/
def misuseCode : Nat := 2

def resolveRoot (m : Machine) (o : Options) : Except Failure String :=
  let path := o.root?.getD "."
  match m.files.find m.directory path with
  | .ok (place, _) => .ok ("/" ++ "/".intercalate place)
  | .error e => .error (.root path e)

def effectiveConfig (m : Machine) (o : Options) (root : String) : Except Failure Config :=
  let path := o.config?.getD (Path.join root Config.fileName)
  match Config.load m.files m.directory path with
  | .error e => .error (.config e)
  | .ok c => .ok { c with reportPath := o.report?.getD c.reportPath }

def toolLimits (c : Config) : Machine.ToolLimits := ⟨c.toolTimeout * 1000, c.outputLimit⟩

def shownText (m : Machine) : String := String.join (m.shown.reverse.map (· ++ "\n"))

def failed (m : Machine) (f : Failure) : Ending :=
  { exitCode := failureCode, stdout := shownText m, stderr := f.message ++ "\n", machine := m }

/-- The thread of a run with a setting; however it ends, no node is left. -/
def thread (s : Setting) : Thread (Except Report.StoreError RunResult) :=
  NodeSlot.guarded (Run.all s).thread

def exitCode : Except Report.StoreError RunResult → Nat
  | .error _ => failureCode
  | .ok r => r.exitCode

def completed (m : Machine) (r : Except Report.StoreError RunResult) : Ending :=
  { exitCode := exitCode r
    stdout := shownText m
    stderr := match r with
      | .error e => (Failure.report e).message ++ "\n"
      | .ok _ => ""
    machine := m }

def interrupted (m : Machine) (i : Interruption) (code : Nat) : Ending :=
  { exitCode := code, stdout := shownText m, stderr := i.message ++ "\n", machine := m }

/-- A run with a setting. If a signal comes meanwhile it is `i`; the watcher then ends the node while
the run goes on, and the call ends with whichever of the two is done first. -/
def perform (m : Machine) (i : Interruption) (s : Setting) : Ending :=
  let limits := toolLimits s.config
  match Machine.WithSlot.performUntilHeldUp limits ⟨m, none⟩ (thread s) with
  | (.ok r, w) => completed w.machine r
  | (.error left, w) =>
    match Machine.WithSlot.performBeside limits w left i.watcher with
    | (.inl r, w) => completed w.machine r
    | (.inr code, w) => interrupted w.machine i code

def runOptions (m : Machine) (i : Interruption) (o : Options) : Ending :=
  match resolveRoot m o with
  | .error f => failed m f
  | .ok root =>
    match effectiveConfig m o root with
    | .error f => failed m f
    | .ok c =>
      if o.printConfig then { exitCode := 0, stdout := c.toToml, stderr := "", machine := m }
      else
        match Setting.of root c true with
        | .error fault => failed m (.patterns fault)
        | .ok s => perform m i s

/-- A call of the program. If the machine has an appointment for a signal, the signal is `i`. -/
def call (m : Machine) (i : Interruption) (args : List String) : Ending :=
  match read args with
  | .run o => runOptions m i o
  | .help => { exitCode := 0, stdout := helpText, stderr := "", machine := m }
  | .version => { exitCode := 0, stdout := versionText, stderr := "", machine := m }
  | .misuse => { exitCode := misuseCode, stdout := "", stderr := "", machine := m }

end NodeTrial.CommandLine
