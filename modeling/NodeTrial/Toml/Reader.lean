import NodeTrial.Toml.Outline
import NodeTrial.Toml.Scalar
import NodeTrial.Toml.Text

namespace NodeTrial.Toml

/-- A reader gives what it read and the characters that follow. -/
abbrev Read (α : Type) := List Char → Option (α × List Char)

def skipGap (cs : List Char) : List Char := cs.dropWhile isGap

/-- Passes over white space, line feeds and comments. A comment holds no control characters, and a
carriage return stands only before a line feed. -/
def skipVoid (inComment : Bool) : List Char → Option (List Char)
  | [] => some []
  | c :: rest =>
    if c = '\n' then skipVoid false rest
    else if c = '\r' then
      if rest.head? = some '\n' then skipVoid false rest else none
    else if inComment then
      if isControl c then none else skipVoid true rest
    else if isGap c then skipVoid false rest
    else if c = '#' then skipVoid true rest
    else some (c :: rest)

/-- Passes over the end of a line: white space, perhaps a comment, and a line feed or the end. -/
def endLine (cs : List Char) : Option (List Char) :=
  match skipGap cs with
  | [] => some []
  | '\n' :: rest => some rest
  | '\r' :: '\n' :: rest => some rest
  | '#' :: rest =>
    let comment := rest.takeWhile fun c => c ≠ '\n' && c ≠ '\r'
    if comment.any isControl then none
    else
      match rest.drop comment.length with
      | [] => some []
      | '\n' :: rest => some rest
      | '\r' :: '\n' :: rest => some rest
      | _ => none
  | _ => none

def isBare (c : Char) : Bool := c.isAlphanum || c = '_' || c = '-'

def readSimpleKey : Read String
  | '"' :: rest => readBasic 0 [] rest
  | '\'' :: rest => readLiteral [] rest
  | cs =>
    match cs.takeWhile isBare with
    | [] => none
    | key => some (String.ofList key, cs.drop key.length)

/-- Reads a key with dots between its parts, at most as many as there is fuel. -/
def readKey : (fuel : Nat) → Read (List String)
  | 0, _ => none
  | fuel + 1, cs => do
    let (key, rest) ← readSimpleKey (skipGap cs)
    match skipGap rest with
    | '.' :: rest => (readKey fuel rest).map fun (keys, rest) => (key :: keys, rest)
    | rest => some ([key], rest)

/-- Splits a key with dots into the parts before the last one and the last one. -/
def splitKey (keys : List String) : Option (List String × String) :=
  keys.getLast?.map fun key => (keys.dropLast, key)

def readPair (fuel : Nat) (value : Read Value) : Read ((List String × String) × Value) :=
  fun cs => do
    let (keys, rest) ← readKey fuel cs
    match rest with
    | '=' :: rest => do
      let (v, rest) ← value (skipGap rest)
      some ((← splitKey keys, v), rest)
    | _ => none

/-- Reads array items up to the closing bracket; `acc` holds the items so far, last one first. -/
def readItems (item : Read Value) : (fuel : Nat) → (acc : List Value) → Read (List Value)
  | 0, _, _ => none
  | fuel + 1, acc, cs => do
    match ← skipVoid false cs with
    | ']' :: rest => some (acc.reverse, rest)
    | cs => do
      let (v, rest) ← item cs
      match ← skipVoid false rest with
      | ',' :: rest => readItems item fuel (v :: acc) rest
      | ']' :: rest => some ((v :: acc).reverse, rest)
      | _ => none

def readEntries (item : Read Value) : (fuel : Nat) → (acc : Parts) → Read Parts
  | 0, _, _ => none
  | fuel + 1, acc, cs => do
    match ← skipVoid false cs with
    | '}' :: rest => some (acc, rest)
    | cs => do
      let (((keys, key), v), rest) ← readPair fuel item cs
      let acc ← Part.addDotted key v keys acc
      match ← skipVoid false rest with
      | ',' :: rest => readEntries item fuel acc rest
      | '}' :: rest => some (acc, rest)
      | _ => none

/-- Reads a value, with arrays and inline tables nested at most `depth` deep. The fuel bounds the
items of each of them. -/
def readValue (fuel : Nat) : (depth : Nat) → Read Value
  | 0, cs =>
    match cs with
    | '"' :: _ | '\'' :: _ => (readText cs).map fun (s, rest) => (.string s, rest)
    | _ => readScalar cs
  | depth + 1, cs =>
    match cs with
    | '[' :: rest => (readItems (readValue fuel depth) fuel [] rest).map
        fun (items, rest) => (.array items, rest)
    | '{' :: rest => (readEntries (readValue fuel depth) fuel [] rest).map
        fun (ps, rest) => (.table (Part.entries ps), rest)
    | cs => readValue fuel 0 cs

def maxDepth : Nat := 80

def readHeader (fuel : Nat) (cs : List Char) : Option ((List String × String) × List Char) := do
  let (keys, rest) ← readKey fuel cs
  match rest with
  | ']' :: rest => some (← splitKey keys, rest)
  | _ => none

/-- Reads the lines of a document; `header` is the path of the table that entries go to. -/
def readLines (size : Nat) : (fuel : Nat) → (header : List String) → Parts → List Char →
    Option Parts
  | 0, _, _, _ => none
  | fuel + 1, header, ps, cs => do
    match ← skipVoid false cs with
    | [] => some ps
    | '[' :: '[' :: rest => do
      let ((keys, key), rest) ← readHeader size rest
      match rest with
      | ']' :: rest =>
        let ps ← Part.descend (Part.openItem key) keys ps
        readLines size fuel (keys ++ [key]) ps (← endLine rest)
      | _ => none
    | '[' :: rest => do
      let ((keys, key), rest) ← readHeader size rest
      let ps ← Part.descend (Part.openTable key) keys ps
      readLines size fuel (keys ++ [key]) ps (← endLine rest)
    | cs => do
      let (((keys, key), v), rest) ← readPair size (readValue size maxDepth) cs
      let ps ← Part.descend (Part.addDotted key v keys) header ps
      readLines size fuel header ps (← endLine rest)

/-- The entries of a document. A byte order mark at its start is passed over. -/
def ofText? (text : String) : Option (List (String × Value)) :=
  let cs := match text.toList with
    | '\uFEFF' :: rest => rest
    | cs => cs
  (readLines (cs.length + 1) (cs.length + 1) [] [] cs).map Part.entries

end NodeTrial.Toml
