import NodeTrial.Shell.Arithmetic
import NodeTrial.Shell.Glob
import NodeTrial.Shell.Process

/-!
Expansion: the texts that words stand for when a command is carried out. The scripts whose output
belongs into a word have been run before, so that only parameters, arithmetic and patterns are left.
-/

namespace NodeTrial.Shell

/-- A piece of an expanded word. -/
inductive Atom
  | char (c : GlobChar)
  /-- A blank at which the word is split, unless it is kept whole. -/
  | blank (c : Char)
  /-- A sign that ends a word, be it empty, unless the word is kept whole. -/
  | mark (c : Char)
  /-- A place at which the word is split in any case. -/
  | stop
  /-- A sign that there is a text here, even if it is empty. -/
  | presence
  deriving DecidableEq, Repr

namespace Atom

/-- The atoms of a text. Separators in a text that is not in quotes split the word. -/
def ofResult (separators : List Char) (inQuotes : Bool) (text : String) : List Atom :=
  text.toList.map fun c =>
    if inQuotes || !separators.contains c then .char ⟨c, inQuotes⟩
    else if isBlank c then .blank c
    else .mark c

def ofArguments (separators : List Char) (inQuotes : Bool) : List String → List Atom
  | [] => []
  | [a] => .presence :: ofResult separators inQuotes a
  | a :: rest =>
    .presence :: ofResult separators inQuotes a ++ .stop :: ofArguments separators inQuotes rest

def glued : List Atom → List GlobChar
  | [] => []
  | .char c :: rest => c :: glued rest
  | .blank c :: rest => ⟨c, false⟩ :: glued rest
  | .mark c :: rest => ⟨c, false⟩ :: glued rest
  | .stop :: rest => ⟨' ', false⟩ :: glued rest
  | .presence :: rest => glued rest

/-- The words into which atoms are split. `present` says whether the word that is collected is one
even if it has no characters, and `ended` whether a blank has ended the last one. -/
def split (present ended : Bool) (word : List GlobChar) : List Atom → List (List GlobChar)
  | [] => if present then [word.reverse] else []
  | .char c :: rest => split true false (c :: word) rest
  | .presence :: rest => split true false word rest
  | .blank _ :: rest =>
    if present then word.reverse :: split false true [] rest else split false ended [] rest
  | .mark _ :: rest =>
    if !present && ended then split false false [] rest
    else word.reverse :: split false false [] rest
  | .stop :: rest => (if present then [word.reverse] else []) ++ split false false [] rest

end Atom

def GlobChar.text (cs : List GlobChar) : String := String.ofList (cs.map (·.char))

/-- An expansion: it may set variables, and it may fail with a message. -/
abbrev Expand := StateT Environment (Except String)

namespace Expand

/-- The arguments in one text, between them the first of the separators. -/
def joinedArguments (e : Environment) : String :=
  String.intercalate (String.ofList (e.separators.take 1)) e.arguments

def parameter? (pid : Nat) (e : Environment) (name : String) : Option String :=
  match name with
  | "0" => some e.name
  | "#" => some (toString e.arguments.length)
  | "?" => some (toString e.status)
  | "$" => some (toString pid)
  | "-" => some ((if e.exitOnFailure then "e" else "") ++ if e.refusesAbsent then "u" else "")
  | "!" => e.lastJob.map toString
  | "*" => if e.arguments.isEmpty then none else some (joinedArguments e)
  | "@" => if e.arguments.isEmpty then none else some (joinedArguments e)
  | name =>
    match name.toNat? with
    | some (n + 1) => e.arguments[n]?
    | some 0 => some e.name
    | none => e.get? name

/-- Whether a parameter is always there, although it may have no value. -/
def isAlwaysThere (name : String) : Bool := name = "*" || name = "@" || name = "!"

/-- The parts of a text that stands inside an expansion without quotes; blanks split it. -/
def unquotedParts : (fuel : Nat) → List Char → Except String Word
  | 0, _ => .ok []
  | _ + 1, [] => .ok []
  | fuel + 1, c :: cs =>
    if isBlank c then do .ok (.result c.toString false :: (← unquotedParts fuel cs))
    else if endsWord c then do .ok (.bare c.toString :: (← unquotedParts fuel cs))
    else do
      let (parts, rest) ← readWord (c :: cs)
      .ok (parts ++ (← unquotedParts fuel rest))

/-- The characters of a text without the quotes that stand in it. -/
def withoutQuotes : List Char → List Char
  | [] => []
  | '\\' :: c :: cs => '\\' :: c :: withoutQuotes cs
  | c :: cs => if c = '"' then withoutQuotes cs else c :: withoutQuotes cs

def innerParts (inQuotes : Bool) (text : String) : Word :=
  let found := if inQuotes then
      let quoted := withoutQuotes text.toList ++ ['"']
      (readQuoted (text.length + 2) [] [] quoted).map fun (parts, _) => parts.reverse
    else unquotedParts (text.length + 1) text.toList
  match found with
  | .ok parts => parts
  | .error _ => [.quoted text]

/-- The text without the front or the back that a pattern matches. -/
def cut (back longest : Bool) (pattern : List GlobChar) (text : String) : String :=
  let cs := text.toList
  if back then
    match Glob.backMatch? pattern longest cs with
    | some n => String.ofList (cs.take n)
    | none => text
  else
    match Glob.frontMatch? pattern longest cs with
    | some n => String.ofList (cs.drop n)
    | none => text

def isAbsent (orEmpty : Bool) : Option String → Bool
  | none => true
  | some v => orEmpty && v.isEmpty

def arithmetic (source : String) : Expand Int := do
  let e ← get
  match (Arithmetic.evaluateText source).run e.bindings with
  | .ok (n, bindings) =>
    set { e with bindings }
    pure n
  | .error message => throw message

/-- The atoms of a word; `depth` bounds how deep expansions stand inside each other. -/
def atoms (pid : Nat) : (depth : Nat) → Word → Expand (List Atom)
  | _, [] => pure []
  | 0, _ :: _ => throw "expansion too deep"
  | depth + 1, part :: rest => do
    let separators := (← get).separators
    let here ← match part with
      | .bare text => pure (text.toList.map fun c => Atom.char ⟨c, false⟩)
      | .quoted text => pure (.presence :: text.toList.map fun c => Atom.char ⟨c, true⟩)
      | .result text inQuotes =>
        pure ((if inQuotes then [.presence] else []) ++ Atom.ofResult separators inQuotes text)
      | .command _ _ => pure []
      | .arithmetic source inQuotes => do
        let cs ← atoms pid depth (innerParts true source)
        let n ← arithmetic (GlobChar.text (Atom.glued cs))
        pure (Atom.ofResult separators inQuotes (toString n))
      | .parameter name change inQuotes => do
        let e ← get
        let value := parameter? pid e name
        let word text := atoms pid depth (innerParts inQuotes text)
        let needed : Expand String :=
          match value with
          | some v => pure v
          | none =>
            if e.refusesAbsent && !isAlwaysThere name then throw (name ++ ": parameter not set")
            else pure ""
        match change with
        | .plain =>
          if name = "@" then pure (Atom.ofArguments separators inQuotes e.arguments)
          else if name = "*" && !inQuotes then
            pure (Atom.ofArguments separators false e.arguments)
          else pure (Atom.ofResult separators inQuotes (← needed))
        | .length => pure (Atom.ofResult separators inQuotes (toString (← needed).length))
        | .default orEmpty text =>
          if isAbsent orEmpty value then word text
          else pure (Atom.ofResult separators inQuotes (value.getD ""))
        | .assign orEmpty text =>
          if isAbsent orEmpty value then do
            let cs ← word text
            modify fun e => e.set name (GlobChar.text (Atom.glued cs))
            pure cs
          else pure (Atom.ofResult separators inQuotes (value.getD ""))
        | .alternative orEmpty text =>
          if isAbsent orEmpty value then pure [] else word text
        | .require orEmpty text =>
          if isAbsent orEmpty value then do
            let cs ← word text
            let message := GlobChar.text (Atom.glued cs)
            throw (name ++ ": " ++
              if !message.isEmpty then message
              else if orEmpty then "parameter not set or null"
              else "parameter not set")
          else pure (Atom.ofResult separators inQuotes (value.getD ""))
        | .dropFront longest pattern => do
          let cs ← atoms pid depth (innerParts false pattern)
          pure (Atom.ofResult separators inQuotes (cut false longest (Atom.glued cs) (← needed)))
        | .dropBack longest pattern => do
          let cs ← atoms pid depth (innerParts false pattern)
          pure (Atom.ofResult separators inQuotes (cut true longest (Atom.glued cs) (← needed)))
    pure (here ++ (← atoms pid (depth + 1) rest))
termination_by depth w => (depth, w.length)

def maxDepth : Nat := 16

def whole (pid : Nat) (w : Word) : Expand (List GlobChar) := do
  pure (Atom.glued (← atoms pid maxDepth w))

def text (pid : Nat) (w : Word) : Expand String := do
  pure (GlobChar.text (← whole pid w))

def isQuotedArguments (w : Word) : Bool :=
  w.all fun
    | .quoted t => t.isEmpty
    | .parameter "@" .plain true => true
    | _ => false

/-- The words into which a word is split, as patterns. -/
def fields (pid : Nat) (w : Word) : Expand (List (List GlobChar)) := do
  if isQuotedArguments w && (← get).arguments.isEmpty
      && w.any (fun | .parameter .. => true | _ => false) then pure []
  else pure (Atom.split false false [] (← atoms pid maxDepth w))

end Expand

namespace Glob

def patternParts (pattern : List GlobChar) : List (List GlobChar) :=
  pattern.foldr (fun g acc =>
    if g.char = '/' then [] :: acc
    else match acc with
      | [] => [[g]]
      | part :: rest => (g :: part) :: rest) [[]]

/-- Whether a name in a directory is meant by a part of a pattern. Names that begin with a dot are
meant only by parts that do. -/
def meansName (part : List GlobChar) (name : String) : Bool :=
  (!name.startsWith "." || (part.head?.map (·.char)) = some '.') && matchesText part name.toList

/-- The paths that the parts of a pattern mean from a directory on; `front` is the path so far. -/
def pathsFrom (t : FileTree) (front : String) (here : Place) : List (List GlobChar) → List String
  | [] => [front]
  | part :: rest =>
    let go (name : String) (place : Place) :=
      let path := front ++ name
      if rest.isEmpty then [path] else pathsFrom t (path ++ "/") place rest
    if part.isEmpty then (if rest.isEmpty then [front] else pathsFrom t (front ++ "/") here rest)
    else if isPattern part then
      ((t.names here).filter (meansName part)).flatMap fun name => go name (here ++ [name])
    else
      let name := GlobChar.text part
      match t.walk here [name] with
      | .ok (.present place _) => go name place
      | _ => []

/-- The paths that a pattern means; the pattern itself if there are none or it has no signs. -/
def paths (t : FileTree) (here : Place) (pattern : List GlobChar) : List String :=
  if isPattern pattern then
    let found := match patternParts pattern with
      | [] :: rest => pathsFrom t "/" [] rest
      | parts => pathsFrom t "" here parts
    if found.isEmpty then [GlobChar.text pattern] else found
  else [GlobChar.text pattern]

end Glob

end NodeTrial.Shell
