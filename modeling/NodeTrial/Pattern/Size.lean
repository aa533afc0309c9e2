import NodeTrial.Pattern.Syntax

/-!
How much room a pattern takes. Patterns are laid out as the states of an automaton over bytes, in
which every repetition is written out, and patterns that take too much room are refused.
-/

namespace NodeTrial.Pattern

/-- A row of byte ranges that the characters of a range begin and end with. -/
abbrev ByteRanges := List (Nat × Nat)

def codeBytes (n : Nat) : List Nat :=
  if n < 0x80 then [n]
  else if n < 0x800 then [0xC0 + n / 64, 0x80 + n % 64]
  else if n < 0x10000 then [0xE0 + n / 4096, 0x80 + n / 64 % 64, 0x80 + n % 64]
  else [0xF0 + n / 262144, 0x80 + n / 4096 % 64, 0x80 + n / 64 % 64, 0x80 + n % 64]

/-- Where a range has to be cut so that the bytes of its characters form a product of byte ranges:
the first code point of the second part. -/
def cut? (first last : Nat) : Option Nat :=
  let byLength := [0x80, 0x800, 0x10000].find? fun n => first < n && n ≤ last
  match byLength with
  | some n => some n
  | none =>
    if last < 0x80 then none
    else
      [64, 4096, 262144].findSome? fun m =>
        if first / m = last / m then none
        else if first % m ≠ 0 then some ((first / m + 1) * m)
        else if last % m ≠ m - 1 then some (last / m * m)
        else none

/-- The rows of byte ranges of the characters in a range. The fuel bounds the number of cuts. -/
def byteRanges : (fuel first last : Nat) → List ByteRanges
  | 0, _, _ => []
  | fuel + 1, first, last =>
    match cut? first last with
    | some n => byteRanges fuel first (n - 1) ++ byteRanges fuel n last
    | none => [(codeBytes first).zip (codeBytes last)]

def commonFront : ByteRanges → ByteRanges → Nat
  | a :: as, b :: bs => if a = b then commonFront as bs + 1 else 0
  | _, _ => 0

/-- The number of states for rows that share their fronts with the row before. -/
def sharedStates (before : ByteRanges) : List ByteRanges → Nat
  | [] => 0
  | row :: rest => row.length - commonFront before row + sharedStates row rest

def stateRoom : Nat := 32

def CharSet.room (s : CharSet) : Nat :=
  match s.ranges with
  | [(a, b)] =>
    if a = b then (codeBytes a).length * stateRoom
    else if b < 128 then 2 * stateRoom + 8
    else many [(a, b)]
  | rs => if rs.all (·.2 < 128) then 2 * stateRoom + 8 * rs.length else many rs
where
  /-- The room of ranges beyond ASCII. -/
  many (rs : List (Nat × Nat)) : Nat :=
    let rows := rs.flatMap fun r => byteRanges 64 r.1 r.2
    2 * stateRoom + stateRoom * sharedStates [] rows + 4 * rows.length

def onlyEmpty : Pattern → Bool
  | .empty => true
  | .one _ => false
  | .look _ => true
  | .seq p q => p.onlyEmpty && q.onlyEmpty
  | .alt p q => p.onlyEmpty && q.onlyEmpty
  | .group p => p.onlyEmpty
  | .many p _ most? => p.onlyEmpty || most? == some 0

/-- The room of `least` copies and of the further ones that may follow, for a room of one copy. -/
def repeatRoom (one least : Nat) (most? : Option Nat) : Nat :=
  match most? with
  | none => one * max least 1 + stateRoom + 8
  | some most =>
    if most = 0 then stateRoom
    else one * least + (one + stateRoom + 8) * (most - least)

/-- The room that a pattern takes, where `set` gives the room of a set. -/
def room (set : CharSet → Nat) : Pattern → Nat
  | .empty => stateRoom
  | .one s => set s
  | .look _ => stateRoom
  | .seq p q => p.room set + q.room set
  | .alt p q => p.room set + q.room set + 2 * stateRoom + 8
  | .group p => p.room set + 2 * stateRoom
  | .many p least most? =>
    if p.onlyEmpty then repeatRoom (p.room set) (min least 1) (some 1)
    else repeatRoom (p.room set) least most?

/-- More room than any of the usual sets takes. -/
def ampleRoom : CharSet → Nat
  | .range first last => if first = last then 4 * stateRoom else 65536
  | _ => 65536

def maxRoom : Nat := 10 * Nat.pow 2 20

/-- Whether a pattern is small enough. The exact room of its sets is looked at only where ample room
for each of them would be too much. -/
def fits (p : Pattern) : Bool := p.room ampleRoom ≤ maxRoom || p.room CharSet.room ≤ maxRoom

end NodeTrial.Pattern
