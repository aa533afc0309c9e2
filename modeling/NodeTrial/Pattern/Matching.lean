import NodeTrial.Pattern.Syntax

/-!
Matching: from a set of places in a text, where a pattern can take one. A pattern matches a text if
it takes some place of the text anywhere.
-/

namespace NodeTrial.Pattern

/-- A place in a text: how many characters stand before it, the last one of them, and the characters
after it. -/
structure Place where
  index : Nat
  before? : Option Char
  after : List Char

/-- The places of a text from a given one on, behind those of `acc`, which holds the last one
first. -/
def placesFrom (acc : List Place) (index : Nat) (before? : Option Char) : List Char → List Place
  | [] => (⟨index, before?, []⟩ :: acc).reverse
  | c :: rest => placesFrom (⟨index, before?, c :: rest⟩ :: acc) (index + 1) (some c) rest

def places (cs : List Char) : List Place := placesFrom [] 0 none cs

/-- The place after the next character, if that is in the set. -/
def Place.advance? (s : CharSet) (p : Place) : Option Place :=
  match p.after with
  | c :: rest => if s.holds c then some ⟨p.index + 1, some c, rest⟩ else none
  | [] => none

def Look.holds (l : Look) (p : Place) : Bool :=
  let before := p.before?
  let next := p.after.head?
  let within (word : CharSet) (c : Option Char) : Bool := c.any word.holds
  match l with
  | .textStart => before.isNone
  | .textEnd => next.isNone
  | .lineStart false => before.isNone || before == some '\n'
  | .lineStart true =>
    before.isNone || before == some '\n' || (before == some '\r' && next != some '\n')
  | .lineEnd false => next.isNone || next == some '\n'
  | .lineEnd true =>
    next.isNone || next == some '\r' || (next == some '\n' && before != some '\r')
  | .wordBoundary w => within w before != within w next
  | .notWordBoundary w => within w before == within w next
  | .wordStart w => !within w before && within w next
  | .wordEnd w => within w before && !within w next
  | .wordStartHalf w => !within w before
  | .wordEndHalf w => !within w next

/-- The places of two lists in the order of the text, each once, behind those of `acc`, which holds
the last one first. -/
def mergeAfter (acc : List Place) : List Place → List Place → List Place
  | [], qs => acc.reverseAux qs
  | ps, [] => acc.reverseAux ps
  | p :: ps, q :: qs =>
    if p.index < q.index then mergeAfter (p :: acc) ps (q :: qs)
    else if q.index < p.index then mergeAfter (q :: acc) (p :: ps) qs
    else mergeAfter (p :: acc) ps qs

/-- The places of two lists in the order of the text, each once. -/
def mergePlaces (ps qs : List Place) : List Place := mergeAfter [] ps qs

/-- The places of the first list that are not in the second, behind those of `acc`, which holds the
last one first. -/
def newAfter (acc : List Place) : List Place → List Place → List Place
  | [], _ => acc.reverse
  | ps, [] => acc.reverseAux ps
  | p :: ps, q :: qs =>
    if p.index < q.index then newAfter (p :: acc) ps (q :: qs)
    else if q.index < p.index then newAfter acc (p :: ps) qs
    else newAfter acc ps qs

/-- The places of the first list that are not in the second. -/
def newPlaces (ps qs : List Place) : List Place := newAfter [] ps qs

def stepTimes (step : List Place → List Place) : (n : Nat) → List Place → List Place
  | 0, ps => ps
  | n + 1, ps => if ps.isEmpty then [] else stepTimes step n (step ps)

/-- The places after at most `n` steps from `frontier`, with those seen already. A step from a place
seen before leads to nothing new. -/
def stepUpTo (step : List Place → List Place) : (n : Nat) → (seen frontier : List Place) →
    List Place
  | 0, seen, _ => seen
  | n + 1, seen, frontier =>
    let found := newPlaces (step frontier) seen
    if found.isEmpty then seen else stepUpTo step n (mergePlaces seen found) found

/-- Where a pattern can take the places of a list, in a text of `size` characters. -/
def ends (size : Nat) : Pattern → List Place → List Place
  | .empty, ps => ps
  | .one s, ps => ps.filterMap (Place.advance? s)
  | .look l, ps => ps.filter l.holds
  | .seq p q, ps => q.ends size (p.ends size ps)
  | .alt p q, ps => mergePlaces (p.ends size ps) (q.ends size ps)
  | .group p, ps => p.ends size ps
  | .many p least most?, ps =>
    let start := stepTimes (p.ends size) least ps
    let more := match most? with
      | some most => most - least
      | none => size + 1
    stepUpTo (p.ends size) more start start

def occursIn (p : Pattern) (text : String) : Bool :=
  let cs := text.toList
  !(p.ends cs.length (places cs)).isEmpty

end NodeTrial.Pattern
