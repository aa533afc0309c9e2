namespace NodeTrial

inductive Sample
  | first
  | second
  deriving DecidableEq, Repr

def Sample.label : Sample → String
  | first => "first"
  | second => "second"

inductive Progress
  | changed (before after : Nat)
  | unchanged (height : Nat)
  | missing (sample : Sample)
  deriving DecidableEq, Repr

namespace Progress

/-- Judges two samples, each of which may be missing. -/
def ofSamples : Option Nat → Option Nat → Progress
  | none, _ => .missing .first
  | some _, none => .missing .second
  | some before, some after => if before = after then .unchanged before else .changed before after

def isProgress : Progress → Bool
  | .changed .. => true
  | _ => false

def isRegression : Progress → Bool
  | .changed before after => after < before
  | _ => false

def detail : Progress → String
  | .changed before after =>
    let heights := s!"{before} -> {after}"
    if after < before then "Block height changed " ++ heights ++ " (decreased)"
    else "Block height " ++ heights
  | .unchanged height => s!"No new blocks produced (height stuck at {height})"
  | .missing sample => "Could not read block height (" ++ sample.label ++ " sample)"

end Progress

end NodeTrial
