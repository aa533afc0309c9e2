import NodeTrial.Number.Hexadecimal
import NodeTrial.Text.Lines

namespace NodeTrial.Text

/-- A set of code points: sorted ranges that do not overlap, both ends included. -/
structure RangeTable where
  ranges : Array (Nat × Nat)
  deriving DecidableEq

namespace RangeTable

def range? (item : List Char) : Option (Nat × Nat) :=
  match pieces '-' item with
  | [single] => if single.isEmpty then none else (Hexadecimal.value? single).map fun n => (n, n)
  | [first, last] => do some (← Hexadecimal.value? first, ← Hexadecimal.value? last)
  | _ => none

/-- The table of a written form, which may go over several lines. -/
def ofText (s : String) : RangeTable :=
  ⟨((pieces ' ' (s.toList.map fun c => if c = '\n' then ' ' else c)).filterMap range?).toArray⟩

/-- Whether the ranges from index `low` up to but not including `high` hold a code point. The fuel
bounds the number of halvings. -/
def search (t : RangeTable) (n : Nat) : (fuel low high : Nat) → Bool
  | 0, _, _ => false
  | fuel + 1, low, high =>
    if high ≤ low then false
    else
      let mid := (low + high) / 2
      match t.ranges[mid]? with
      | none => false
      | some (first, last) =>
        if n < first then t.search n fuel low mid
        else if last < n then t.search n fuel (mid + 1) high
        else true

def holds (t : RangeTable) (c : Char) : Bool :=
  t.search c.toNat (t.ranges.size + 1) 0 t.ranges.size

end RangeTable

end NodeTrial.Text
