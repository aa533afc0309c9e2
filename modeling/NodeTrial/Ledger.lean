import NodeTrial.Outcome
import NodeTrial.Text.Blank

namespace NodeTrial

structure Record where
  /-- Its place among all checks, from one on. -/
  index : Nat
  name : String
  outcome : Outcome
  cause? : Option Cause
  detail? : Option String
  deriving DecidableEq, Repr

/-- How many checks there were, and how many of each outcome. -/
structure Tally where
  total : Nat
  passed : Nat
  failed : Nat
  skipped : Nat
  deriving DecidableEq, Repr

namespace Tally

def empty : Tally := ⟨0, 0, 0, 0⟩

def add (t : Tally) : Outcome → Tally
  | .pass => { t with total := t.total + 1, passed := t.passed + 1 }
  | .fail => { t with total := t.total + 1, failed := t.failed + 1 }
  | .skip => { t with total := t.total + 1, skipped := t.skipped + 1 }

def ofRecords (rs : List Record) : Tally := rs.foldl (fun t r => t.add r.outcome) empty

def allPassed (t : Tally) : Bool := t.failed == 0

/-- The exit code of a completed run: 0 if no check failed, else 1. -/
def exitCode (t : Tally) : Nat := if t.allPassed then 0 else 1

end Tally

structure Ledger where
  records : List Record
  tally : Tally
  deriving DecidableEq, Repr

namespace Ledger

def empty : Ledger := ⟨[], .empty⟩

/-- The check that is recorded next under a name. A blank detail is no detail. -/
def next (l : Ledger) (name : String) (outcome : Outcome) (cause? : Option Cause)
    (detail : String) : Record :=
  { index := l.records.length + 1
    name, outcome, cause?
    detail? := if Text.blank detail then none else some detail }

def record (l : Ledger) (name : String) (outcome : Outcome) (cause? : Option Cause)
    (detail : String) : Ledger :=
  { records := l.records ++ [l.next name outcome cause? detail]
    tally := l.tally.add outcome }

def pass (l : Ledger) (name detail : String) : Ledger := l.record name .pass none detail

def fail (l : Ledger) (name : String) (cause : Cause) (detail : String) : Ledger :=
  l.record name .fail (some cause) detail

def skip (l : Ledger) (name : String) (cause : Cause) (detail : String) : Ledger :=
  l.record name .skip (some cause) detail

def enter (l : Ledger) (name : String) (f : Finding) : Ledger :=
  l.record name f.outcome f.cause? f.detail

/-- The outcome of the check recorded last under a name. -/
def lastOutcome? (l : Ledger) (name : String) : Option Outcome :=
  (l.records.reverse.find? (·.name == name)).map (·.outcome)

end Ledger

/-- The line that the operator sees when a check is recorded. -/
def Record.line (r : Record) : String :=
  match r.detail? with
  | some detail => "  " ++ r.outcome.marker ++ " " ++ r.name ++ ": " ++ detail
  | none => "  " ++ r.outcome.marker ++ " " ++ r.name

end NodeTrial
