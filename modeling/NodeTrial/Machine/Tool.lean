import NodeTrial.Capture
import NodeTrial.Machine.Basic
import NodeTrial.Tool

namespace NodeTrial.Machine

structure ToolLimits where
  /-- In milliseconds. -/
  time : Nat
  /-- The bytes of each output stream that are kept. -/
  output : Nat
  deriving DecidableEq, Repr

def keptText (limits : ToolLimits) (c : Child) (channel : Nat) : String :=
  (Capture.drain limits.output (c.process.keptPieces channel)).text

def exitCode? (c : Child) : Option Int :=
  match c.process.activity with
  | .ended (.code n) => some (Int.ofNat n)
  | _ => none

/-- What a child that ended, or was killed because its time was over, gave back. -/
def outputOf (limits : ToolLimits) (c : Child) (timedOut : Bool) : ToolOutput :=
  .ofRun (exitCode? c) (keptText limits c 1) (keptText limits c 2) timedOut

/-- The time in milliseconds after which jobs that a tool has left behind are no longer waited
for. -/
def patience : Nat := 100000

/-- Whether the jobs of a child have ended, so that nothing can be written any more. -/
def isQuiet (pid : Nat) (m : Machine) : Bool :=
  match m.child? pid with
  | some c => c.process.jobs.all Shell.Job.hasEnded
  | none => true

/-- Runs a tool to its end, or until its time is over or the program is held up. Its output is
complete when the jobs that it left behind have ended too. -/
def runTool (limits : ToolLimits) (i : Invocation) (m : Machine) : ToolOutput × Machine :=
  match m.prepare i.program i.args i.directory? with
  | .error .notFound => (.notFound i.program, m)
  | .error e => (.notStarted ("spawn command: " ++ e.message), m)
  | .ok (image, place) =>
    let (pid, m) := m.addChild place image [.nothing, .kept [], .kept []] [(0, 0), (1, 1), (2, 2)]
    let m := m.waitFor (fun m => !m.isRunning pid || m.isHeldUp) (m.allowance limits.time)
    let timedOut := m.isRunning pid
    let m := (((m.kill pid).collect pid).2).waitFor (isQuiet pid) patience
    match m.child? pid with
    | some c => (outputOf limits c timedOut, m)
    | none => (.notFound i.program, m)

end NodeTrial.Machine
