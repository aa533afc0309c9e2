import NodeTrial.Ledger

namespace NodeTrial.Report

/-- How many checks failed and how many were skipped for one cause. -/
structure CauseCount where
  cause : Cause
  failed : Nat
  skipped : Nat
  deriving DecidableEq, Repr

def CauseCount.add (e : CauseCount) : Outcome → CauseCount
  | .pass => e
  | .fail => { e with failed := e.failed + 1 }
  | .skip => { e with skipped := e.skipped + 1 }

/-- Counts a check under its cause, in a list sorted by cause. -/
def countCause (c : Cause) (o : Outcome) : List CauseCount → List CauseCount
  | [] => [CauseCount.add ⟨c, 0, 0⟩ o]
  | e :: rest =>
    if e.cause = c then e.add o :: rest
    else if c.rank < e.cause.rank then CauseCount.add ⟨c, 0, 0⟩ o :: e :: rest
    else e :: countCause c o rest

/-- Counts a check, unless it passed or has no cause. -/
def countRecord (es : List CauseCount) (r : Record) : List CauseCount :=
  match r.outcome, r.cause? with
  | .pass, _ => es
  | _, none => es
  | o, some c => countCause c o es

def breakdown (rs : List Record) : List CauseCount := rs.foldl countRecord []

end NodeTrial.Report
