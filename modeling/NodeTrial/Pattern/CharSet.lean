import NodeTrial.Pattern.CaseFolding

namespace NodeTrial.Pattern

inductive CharSet
  | none
  | range (first last : Nat)
  | table (t : Text.RangeTable)
  | union (a b : CharSet)
  | inter (a b : CharSet)
  | diff (a b : CharSet)
  | complement (a : CharSet)
  /-- The characters that some member is, but for case. -/
  | fold (a : CharSet)
  /-- The same, looking at the case of ASCII letters alone. -/
  | foldAscii (a : CharSet)
  deriving DecidableEq

namespace CharSet

def single (c : Char) : CharSet := range c.toNat c.toNat

def all : CharSet := complement none

def ofList : List CharSet → CharSet
  | [] => none
  | [s] => s
  | s :: rest => union s (ofList rest)

def symmetricDiff (a b : CharSet) : CharSet := union (diff a b) (diff b a)

def holds : CharSet → Char → Bool
  | none, _ => false
  | range first last, c => first ≤ c.toNat && c.toNat ≤ last
  | table t, c => t.holds c
  | union a b, c => a.holds c || b.holds c
  | inter a b, c => a.holds c && b.holds c
  | diff a b, c => a.holds c && !b.holds c
  | complement a, c => !a.holds c
  | fold a, c => (caseVariants c).any a.holds
  | foldAscii a, c => (asciiCaseVariants c).any a.holds

/-- Sorted ranges that neither overlap nor touch. -/
abbrev Ranges := List (Nat × Nat)

/-- Puts a range in front of ranges that begin no earlier, joining what overlaps or touches. -/
def joinFront (r : Nat × Nat) : Ranges → Ranges
  | [] => [r]
  | s :: rest => if s.1 ≤ r.2 + 1 then joinFront (r.1, max r.2 s.2) rest else r :: s :: rest

def normalRanges (rs : List (Nat × Nat)) : Ranges :=
  (rs.mergeSort fun a b => a.1 ≤ b.1).foldr joinFront []

def gaps (start : Nat) : Ranges → Ranges
  | [] => if start ≤ 0x10FFFF then [(start, 0x10FFFF)] else []
  | (first, last) :: rest =>
    if start < first then (start, first - 1) :: gaps (last + 1) rest else gaps (last + 1) rest

def complementRanges (rs : Ranges) : Ranges := gaps 0 (normalRanges ((0xD800, 0xDFFF) :: rs))

def interRanges (a b : Ranges) : Ranges :=
  normalRanges (a.flatMap fun r => b.filterMap fun s =>
    if max r.1 s.1 ≤ min r.2 s.2 then some (max r.1 s.1, min r.2 s.2) else Option.none)

/-- The part of a range that a run of foldings maps, mapped forwards and backwards. -/
def foldRange (r : Nat × Nat) (run : FoldRun) : List (Nat × Nat) :=
  let length := run.last - run.first
  let common (first : Nat) : Option (Nat × Nat) :=
    if max r.1 first ≤ min r.2 (first + length) then
      some (max r.1 first - first, min r.2 (first + length) - first)
    else Option.none
  let forwards := (common run.first).map fun p => (run.target + p.1, run.target + p.2)
  let backwards := (common run.target).map fun p => (run.first + p.1, run.first + p.2)
  forwards.toList ++ backwards.toList

/-- Ranges with the characters that differ from a member by one step of folding. -/
def foldOnce (rs : Ranges) : Ranges :=
  normalRanges (rs ++ rs.flatMap fun r => foldRuns.flatMap (foldRange r))

def foldAsciiOnce (rs : Ranges) : Ranges :=
  normalRanges (rs ++ rs.flatMap (foldRange · ⟨65, 90, 97⟩))

def ranges : CharSet → Ranges
  | none => []
  | range first last => [(first, last)]
  | table t => t.ranges.toList
  | union a b => normalRanges (a.ranges ++ b.ranges)
  | inter a b => interRanges a.ranges b.ranges
  | diff a b => interRanges a.ranges (complementRanges b.ranges)
  | complement a => complementRanges a.ranges
  | fold a => foldOnce (foldOnce a.ranges)
  | foldAscii a => foldAsciiOnce a.ranges

def isAscii (s : CharSet) : Bool := s.ranges.all (·.2 < 128)

end CharSet

end NodeTrial.Pattern
