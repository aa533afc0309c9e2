namespace NodeTrial.Shell

/-- What an expansion does with the value of a parameter. `orEmpty` says that an empty value counts
as an absent one. -/
inductive Change
  | plain
  | length
  | default (orEmpty : Bool) (word : String)
  | assign (orEmpty : Bool) (word : String)
  | alternative (orEmpty : Bool) (word : String)
  | require (orEmpty : Bool) (word : String)
  /-- Cut a match of a pattern off the front. -/
  | dropFront (longest : Bool) (pattern : String)
  /-- Cut a match of a pattern off the back. -/
  | dropBack (longest : Bool) (pattern : String)
  deriving DecidableEq, Repr

/-- A part of a word. What stands in quotes is not split and not taken as a pattern. -/
inductive Part
  | bare (text : String)
  | quoted (text : String)
  | parameter (name : String) (change : Change) (inQuotes : Bool)
  /-- The output of a script. -/
  | command (source : String) (inQuotes : Bool)
  | arithmetic (source : String) (inQuotes : Bool)
  /-- What an expansion gave that has been carried out. -/
  | result (text : String) (inQuotes : Bool)
  deriving DecidableEq, Repr

abbrev Word := List Part

inductive RedirectionKind
  | read
  | write
  | append
  | readWrite
  /-- To what another descriptor means, or nowhere. -/
  | duplicate
  /-- From a text in the script itself. -/
  | text
  deriving DecidableEq, Repr

structure Redirection where
  descriptor : Nat
  kind : RedirectionKind
  target : Word
  deriving DecidableEq, Repr

inductive Command
  | empty
  | simple (line : Nat) (assignments : List (String × Word)) (words : List Word)
    (redirections : List Redirection)
  | sequence (first second : Command)
  | both (first second : Command)
  | either (first second : Command)
  | negation (inner : Command)
  /-- The output of the first is the input of the second. -/
  | pipe (first second : Command)
  | background (inner : Command)
  | branch (condition yes no : Command)
  /-- A loop that goes on while its condition has the given truth. -/
  | loop (truth : Bool) (condition body : Command)
  /-- A loop over words, or over the arguments. -/
  | forEach (name : String) (words : Option (List Word)) (body : Command)
  /-- A choice by patterns; the arms are those of `arms`. -/
  | choice (subject : Word) (arms : Command)
  | arm (patterns : List Word) (body next : Command)
  | group (inner : Command) (redirections : List Redirection)
  | subshell (inner : Command) (redirections : List Redirection)
  | function (name : String) (body : Command)
  /-- A part of the script that is none, and why. -/
  | malformed (line : Nat) (fault : String)
  deriving Repr, Inhabited

end NodeTrial.Shell
