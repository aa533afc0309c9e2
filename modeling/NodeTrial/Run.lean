import NodeTrial.Phase.Environment
import NodeTrial.Phase.Integration
import NodeTrial.Phase.Runtime
import NodeTrial.Report.Facts
import NodeTrial.Report.Storage

/-!
A whole run: the phases of checks in their order, then the end of the node, and then the report. A
check that fails does not end a run; only a report that cannot be stored does.
-/

namespace NodeTrial

structure RunResult where
  records : List Record
  tally : Tally
  reportPath : String
  deriving DecidableEq, Repr

def RunResult.exitCode (r : RunResult) : Nat := r.tally.exitCode

namespace Run

def checks (s : Setting) (st : Standing) : Trial Standing := do
  let st ← Phase.Environment.run s st
  let st ← Phase.Build.run s st
  let st ← Phase.Runtime.run s st
  Phase.Integration.run s st

def verdict (t : Tally) : String :=
  if t.allPassed then "All executed checks passed." else toString t.failed ++ " check(s) failed."

def summary (t : Tally) (reportPath : String) : List String :=
  ["",
    "Total: " ++ toString t.total ++ "  Passed: " ++ toString t.passed ++ "  Failed: "
      ++ toString t.failed ++ "  Skipped: " ++ toString t.skipped,
    verdict t,
    "Report: " ++ reportPath]

def tellAll (s : Setting) : List String → Trial Unit
  | [] => pure ()
  | line :: rest => do
    s.tell line
    tellAll s rest

def report (s : Setting) (l : Ledger) : Trial (Except Report.StoreError RunResult) := do
  let facts ← Report.collect s.root s.config
  let path := s.path s.config.reportPath
  match ← Report.store path (Report.render l.records l.tally facts) with
  | .error e => pure (.error e)
  | .ok () =>
    tellAll s (summary l.tally path)
    pure (.ok { records := l.records, tally := l.tally, reportPath := path })

def allFrom (s : Setting) (st : Standing) : Trial (Except Report.StoreError RunResult) := do
  let st ← checks s st
  s.announce .reporting
  let st ← st.stopNode
  report s st.ledger

def all (s : Setting) : Trial (Except Report.StoreError RunResult) := allFrom s .initial

end Run

end NodeTrial
