import NodeTrial.Number.Hexadecimal

namespace NodeTrial.Toml

def isGap (c : Char) : Bool := c = ' ' || c = '\t'

/-- Characters that a string cannot hold as they are. -/
def isControl (c : Char) : Bool := (c.toNat < 32 && c != '\t') || c.toNat == 127

def scalarValue? (n : Nat) : Option Char :=
  if h : n.isValidChar then some (Char.ofNatAux n h) else none

/-- Reads an escape after its backslash: the character, and how many characters of the escape
follow. -/
def escape? : List Char → Option (Char × Nat)
  | 'b' :: _ => some ('\x08', 1)
  | 't' :: _ => some ('\t', 1)
  | 'n' :: _ => some ('\n', 1)
  | 'f' :: _ => some ('\x0c', 1)
  | 'r' :: _ => some ('\r', 1)
  | 'e' :: _ => some ('\x1b', 1)
  | '"' :: _ => some ('"', 1)
  | '\\' :: _ => some ('\\', 1)
  | 'x' :: cs => code 2 cs
  | 'u' :: cs => code 4 cs
  | 'U' :: cs => code 8 cs
  | _ => none
where
  /-- The character named by a number of hexadecimal digits. -/
  code (n : Nat) (cs : List Char) : Option (Char × Nat) :=
    if (cs.take n).length = n then
      ((Hexadecimal.value? (cs.take n)).bind scalarValue?).map (·, n + 1)
    else none

def readBasic (skip : Nat) (acc : List Char) : List Char → Option (String × List Char)
  | [] => none
  | c :: rest =>
    match skip with
    | skip + 1 => readBasic skip acc rest
    | 0 =>
      if c = '"' then some (String.ofList acc.reverse, rest)
      else if c = '\\' then
        match escape? rest with
        | some (x, n) => readBasic n (x :: acc) rest
        | none => none
      else if isControl c then none
      else readBasic 0 (c :: acc) rest

def readLiteral (acc : List Char) : List Char → Option (String × List Char)
  | [] => none
  | c :: rest =>
    if c = '\'' then some (String.ofList acc.reverse, rest)
    else if isControl c then none
    else readLiteral (c :: acc) rest

/-- How many of the quotes at the front belong to the text when three more close it: at most two. -/
def quotesKept (quote : Char) (cs : List Char) : Option Nat :=
  let n := (cs.takeWhile (· = quote)).length
  if n < 3 then none else some (min (n - 3) 2)

/-- Whether nothing but white space stands before the next line feed. -/
def lineIsOver (cs : List Char) : Bool :=
  match cs.dropWhile isGap with
  | '\n' :: _ => true
  | '\r' :: '\n' :: _ => true
  | _ => false

/-- What a reader of a string over several lines does with the next characters. -/
inductive Skip
  | nothing
  /-- Pass over the rest of an escape. -/
  | count (n : Nat)
  /-- Pass over white space after a backslash at the end of a line. -/
  | space

/-- Reads a string between triple double quotes. A backslash at the end of a line swallows the white
space up to the next character. -/
def readMultiBasic (skip : Skip) (acc : List Char) : List Char → Option (String × List Char)
  | [] => none
  | c :: rest =>
    match skip with
    | .count (n + 1) => readMultiBasic (.count n) acc rest
    | skip =>
      if (match skip with | .space => true | _ => false) && (isGap c || c = '\n') then
        readMultiBasic .space acc rest
      else if c = '\r' then
        if rest.head? = some '\n' then
          match skip with
          | .space => readMultiBasic .space acc rest
          | _ => readMultiBasic .nothing (c :: acc) rest
        else none
      else if c = '"' then
        match quotesKept '"' (c :: rest) with
        | some n =>
          some (String.ofList (List.replicate n '"' ++ acc).reverse, rest.drop (n + 2))
        | none => readMultiBasic .nothing (c :: acc) rest
      else if c = '\\' then
        if lineIsOver rest then readMultiBasic .space acc rest
        else
          match escape? rest with
          | some (x, n) => readMultiBasic (.count n) (x :: acc) rest
          | none => none
      else if isControl c && c != '\n' then none
      else readMultiBasic .nothing (c :: acc) rest

def readMultiLiteral (acc : List Char) : List Char → Option (String × List Char)
  | [] => none
  | c :: rest =>
    if c = '\'' then
      match quotesKept '\'' (c :: rest) with
      | some n =>
        some (String.ofList (List.replicate n '\'' ++ acc).reverse, rest.drop (n + 2))
      | none => readMultiLiteral (c :: acc) rest
    else if c = '\r' then
      if rest.head? = some '\n' then readMultiLiteral (c :: acc) rest else none
    else if isControl c && c != '\n' then none
    else readMultiLiteral (c :: acc) rest

/-- Drops the line feed right after opening triple quotes. -/
def dropFirstLine : List Char → List Char
  | '\n' :: rest => rest
  | '\r' :: '\n' :: rest => rest
  | cs => cs

def readText : List Char → Option (String × List Char)
  | '"' :: '"' :: '"' :: rest => readMultiBasic .nothing [] (dropFirstLine rest)
  | '"' :: rest => readBasic 0 [] rest
  | '\'' :: '\'' :: '\'' :: rest => readMultiLiteral [] (dropFirstLine rest)
  | '\'' :: rest => readLiteral [] rest
  | _ => none

end NodeTrial.Toml
