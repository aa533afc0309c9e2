import NodeTrial.Pattern.CharSet

namespace NodeTrial

namespace Pattern

inductive Look
  | textStart
  | textEnd
  /-- The start of a line; with `returns` a carriage return ends a line too. -/
  | lineStart (returns : Bool)
  | lineEnd (returns : Bool)
  /-- The boundaries of words, whose characters are those of the set. -/
  | wordBoundary (word : CharSet)
  | notWordBoundary (word : CharSet)
  | wordStart (word : CharSet)
  | wordEnd (word : CharSet)
  | wordStartHalf (word : CharSet)
  | wordEndHalf (word : CharSet)
  deriving DecidableEq

end Pattern

inductive Pattern
  /-- Matches the empty text. -/
  | empty
  /-- Matches one character. -/
  | one (s : Pattern.CharSet)
  /-- Matches the empty text where the condition holds. -/
  | look (l : Pattern.Look)
  | seq (p q : Pattern)
  | alt (p q : Pattern)
  /-- Matches what the pattern inside matches, as a group of its own. -/
  | group (p : Pattern)
  /-- Matches a number of times, from `least` up to `most?` or without bound. -/
  | many (p : Pattern) (least : Nat) (most? : Option Nat)
  deriving DecidableEq

namespace Pattern

def seqOf : List Pattern → Pattern
  | [] => empty
  | [p] => p
  | p :: rest => seq p (seqOf rest)

def altOf : List Pattern → Pattern
  | [] => empty
  | [p] => p
  | p :: rest => alt p (altOf rest)

end Pattern

end NodeTrial
