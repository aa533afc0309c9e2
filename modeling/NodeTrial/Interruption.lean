import NodeTrial.Node.Slot

namespace NodeTrial

inductive Interruption
  | interrupt
  | terminate
  | hangup
  deriving DecidableEq, Repr

namespace Interruption

def name : Interruption → String
  | interrupt => "SIGINT"
  | terminate => "SIGTERM"
  | hangup => "SIGHUP"

/-- The exit code of a run that the signal ended: 128 and the number of the signal. -/
def exitCode : Interruption → Nat
  | interrupt => 130
  | terminate => 143
  | hangup => 129

/-- The message of a run that was interrupted, with an empty line before it. -/
def message (i : Interruption) : String := "\nInterrupted (" ++ i.name ++ "); node stopped."

/-- The thread of the watcher once the signal has come: it ends the node, and then tells the exit
code with which the program ends at once. -/
def watcher (i : Interruption) : Thread Nat := do
  NodeSlot.teardown
  pure i.exitCode

end Interruption

end NodeTrial
