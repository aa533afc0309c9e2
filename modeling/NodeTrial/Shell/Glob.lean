namespace NodeTrial.Shell

/-- A character of a pattern, which may be protected by quotes. -/
structure GlobChar where
  char : Char
  isProtected : Bool
  deriving DecidableEq, Repr

namespace Glob

/-- The members of a set up to its closing bracket, and what follows that. -/
def setMembers : (first : Bool) → (acc : List GlobChar) → List GlobChar →
    Option (List GlobChar × List GlobChar)
  | _, _, [] => none
  | first, acc, g :: gs =>
    if g.char = ']' && !g.isProtected && !first then some (acc.reverse, gs)
    else setMembers false (g :: acc) gs

/-- Whether a character is one of the members of a set, among them ranges. -/
def isMember (c : Char) : List GlobChar → Bool
  | [] => false
  | a :: ⟨'-', false⟩ :: b :: rest => (a.char ≤ c && c ≤ b.char) || isMember c rest
  | a :: rest => a.char = c || isMember c rest

def matchesFrom : (fuel : Nat) → List GlobChar → List Char → Bool
  | 0, _, _ => false
  | _ + 1, [], cs => cs.isEmpty
  | fuel + 1, g :: gs, cs =>
    if g.isProtected then
      match cs with
      | c :: rest => c = g.char && matchesFrom fuel gs rest
      | [] => false
    else if g.char = '*' then
      matchesFrom fuel gs cs ||
        match cs with
        | _ :: rest => matchesFrom fuel (g :: gs) rest
        | [] => false
    else if g.char = '?' then
      match cs with
      | _ :: rest => matchesFrom fuel gs rest
      | [] => false
    else if g.char = '[' then
      let (negated, members) := match gs with
        | ⟨'!', false⟩ :: rest => (true, rest)
        | ⟨'^', false⟩ :: rest => (true, rest)
        | _ => (false, gs)
      match setMembers true [] members, cs with
      | some (set, after), c :: rest => isMember c set != negated && matchesFrom fuel after rest
      | some _, [] => false
      | none, c :: rest => c = '[' && matchesFrom fuel gs rest
      | none, [] => false
    else
      match cs with
      | c :: rest => c = g.char && matchesFrom fuel gs rest
      | [] => false

def matchesText (pattern : List GlobChar) (cs : List Char) : Bool :=
  matchesFrom (pattern.length + cs.length + 1) pattern cs

def isPattern (pattern : List GlobChar) : Bool :=
  pattern.any fun g => !g.isProtected && (g.char = '*' || g.char = '?' || g.char = '[')

/-- The length of the shortest or longest front of a text that a pattern matches. -/
def frontMatch? (pattern : List GlobChar) (longest : Bool) (cs : List Char) : Option Nat :=
  let lengths := List.range (cs.length + 1)
  (if longest then lengths.reverse else lengths).find? fun n => matchesText pattern (cs.take n)

/-- The place at which the shortest or longest back of a text begins that a pattern matches. -/
def backMatch? (pattern : List GlobChar) (longest : Bool) (cs : List Char) : Option Nat :=
  let places := List.range (cs.length + 1)
  (if longest then places else places.reverse).find? fun n => matchesText pattern (cs.drop n)

end Glob

end NodeTrial.Shell
