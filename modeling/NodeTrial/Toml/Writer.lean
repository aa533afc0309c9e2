import NodeTrial.Number.Hexadecimal
import NodeTrial.Text.Lines
import NodeTrial.Toml.Text

/-!
Writing TOML. A string is written in the first of the four forms that shows it without escapes, the
plain one first, and only if there is none with escapes; an array of several items has each on a
line of its own.
-/

namespace NodeTrial.Toml

def longestRun (c : Char) (cs : List Char) : Nat :=
  (cs.foldl (fun (best, run) d =>
    if d = c then (max best (run + 1), run + 1) else (best, 0)) (0, 0)).1

/-- What decides how a text is written. -/
structure Shape where
  apostrophes : Nat
  quotes : Nat
  /-- Whether it holds control characters other than tabs and line feeds. -/
  hasControl : Bool
  hasBackslash : Bool
  hasLineFeed : Bool

def Shape.ofText (cs : List Char) : Shape :=
  { apostrophes := longestRun '\'' cs
    quotes := longestRun '"' cs
    hasControl := cs.any fun c => isControl c && c != '\n'
    hasBackslash := cs.any (· = '\\')
    hasLineFeed := cs.any (· = '\n') }

inductive Form
  | basic
  | literal
  | multiBasic
  | multiLiteral
  deriving DecidableEq, Repr

def Shape.form (s : Shape) : Form :=
  if !s.hasControl && !s.hasBackslash && s.quotes = 0 && !s.hasLineFeed then .basic
  else if !s.hasControl && s.apostrophes = 0 && !s.hasLineFeed then .literal
  else if !s.hasControl && !s.hasBackslash && s.quotes ≤ 2 then .multiBasic
  else if !s.hasControl && s.apostrophes ≤ 2 then .multiLiteral
  else if s.hasLineFeed then .multiBasic
  else .basic

def escapeCode (c : Char) : List Char :=
  let ds := (Hexadecimal.write c.toNat).map Char.toUpper
  '\\' :: 'u' :: List.replicate (4 - ds.length) '0' ++ ds

def escapeChar (multi : Bool) (c : Char) : List Char :=
  if c = '\x08' then ['\\', 'b']
  else if c = '\t' then ['\\', 't']
  else if c = '\n' then (if multi then ['\n'] else ['\\', 'n'])
  else if c = '\x0c' then ['\\', 'f']
  else if c = '\r' then ['\\', 'r']
  else if c = '\\' then ['\\', '\\']
  else if isControl c then escapeCode c
  else [c]

/-- Writes the characters of a string with escapes. Runs of up to `allowed` double quotes stand as
they are, and `run` counts those just written. -/
def escapeText (multi : Bool) (allowed : Nat) : (run : Nat) → List Char → List Char
  | _, [] => []
  | run, c :: rest =>
    if c = '"' then
      if run < allowed then '"' :: escapeText multi allowed (run + 1) rest
      else '\\' :: '"' :: escapeText multi allowed 0 rest
    else escapeChar multi c ++ escapeText multi allowed 0 rest

/-- The line feed after opening triple quotes, for a text that has line feeds itself. -/
def opening (s : Shape) : List Char := if s.hasLineFeed then ['\n'] else []

def writeText (text : String) : List Char :=
  let cs := text.toList
  let s := Shape.ofText cs
  match s.form with
  | .basic => '"' :: escapeText false 0 0 cs ++ ['"']
  | .literal => '\'' :: cs ++ ['\'']
  | .multiBasic => "\"\"\"".toList ++ opening s ++ escapeText true 2 0 cs ++ "\"\"\"".toList
  | .multiLiteral => "'''".toList ++ opening s ++ cs ++ "'''".toList

def writeTexts : List String → List Char
  | [] => ['[', ']']
  | [text] => '[' :: writeText text ++ [']']
  | texts =>
    '[' :: '\n' :: texts.flatMap (fun t => "    ".toList ++ writeText t ++ [',', '\n']) ++ [']']

inductive Setting
  | text (value : String)
  | number (value : Nat)
  | texts (values : List String)

def Setting.write : Setting → List Char
  | .text s => writeText s
  | .number n => Nat.toDigits 10 n
  | .texts values => writeTexts values

def writePair (pair : String × Setting) : List Char :=
  pair.1.toList ++ " = ".toList ++ pair.2.write ++ ['\n']

/-- A table with its header, set off from what stands before it by an empty line. -/
def writeTable (table : String × List (String × Setting)) : List Char :=
  '\n' :: '[' :: table.1.toList ++ [']', '\n'] ++ table.2.flatMap writePair

/-- A document: its own entries, then its tables. -/
def writeDocument (pairs : List (String × Setting))
    (tables : List (String × List (String × Setting))) : String :=
  String.ofList (pairs.flatMap writePair ++ tables.flatMap writeTable)

end NodeTrial.Toml
