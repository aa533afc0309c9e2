import NodeTrial.Json.Value
import NodeTrial.Number.Hexadecimal

/-!
Reading JSON. A reader takes the characters before it and hands back a value with the characters
after that value, or nothing if no value stands there. Arrays and objects may be nested 127 deep.
-/

namespace NodeTrial.Json

def isSpace (c : Char) : Bool := c = ' ' || c = '\n' || c = '\t' || c = '\r'

def skipSpace (cs : List Char) : List Char := cs.dropWhile isSpace

def unit? (a b c d : Char) : Option Nat := Hexadecimal.value? [a, b, c, d]

/-- The character of a pair of surrogate units. -/
def surrogatePair? (high low : Nat) : Option Char :=
  if 0xD800 ≤ high ∧ high ≤ 0xDBFF ∧ 0xDC00 ≤ low ∧ low ≤ 0xDFFF then
    some (Char.ofNat (0x10000 + (high - 0xD800) * 0x400 + (low - 0xDC00)))
  else none

/-- Reads the rest of a string after its opening quote; `acc` holds the characters so far, the last
one first. -/
def readString (acc : List Char) : List Char → Option (String × List Char)
  | [] => none
  | '"' :: rest => some (String.ofList acc.reverse, rest)
  | '\\' :: '"' :: rest => readString ('"' :: acc) rest
  | '\\' :: '\\' :: rest => readString ('\\' :: acc) rest
  | '\\' :: '/' :: rest => readString ('/' :: acc) rest
  | '\\' :: 'b' :: rest => readString ('\x08' :: acc) rest
  | '\\' :: 'f' :: rest => readString ('\x0c' :: acc) rest
  | '\\' :: 'n' :: rest => readString ('\n' :: acc) rest
  | '\\' :: 'r' :: rest => readString ('\r' :: acc) rest
  | '\\' :: 't' :: rest => readString ('\t' :: acc) rest
  | '\\' :: 'u' :: a :: b :: c :: d :: rest =>
    match unit? a b c d with
    | none => none
    | some u =>
      if 0xD800 ≤ u ∧ u ≤ 0xDFFF then
        match rest with
        | '\\' :: 'u' :: e :: f :: g :: h :: rest =>
          match (unit? e f g h).bind (surrogatePair? u) with
          | some x => readString (x :: acc) rest
          | none => none
        | _ => none
      else readString (Char.ofNat u :: acc) rest
  | c :: rest => if c.toNat < 32 || c = '\\' then none else readString (c :: acc) rest

def spanDigits (cs : List Char) : List Nat × List Char :=
  ((cs.takeWhile Char.isDigit).map fun c => c.toNat - 48, cs.dropWhile Char.isDigit)

/-- The largest significand that is kept: digits that would lead beyond it are not used. -/
def maxSignificand : Nat := Nat.pow 2 64 - 1

/-- Takes digits into a significand as long as it stays within `limit`; the answer is the
significand and the number of digits left over. -/
def takeDigits (limit : Nat) : (significand : Nat) → List Nat → Nat × Nat
  | s, [] => (s, 0)
  | s, d :: ds =>
    if limit < s * 10 + d then (s, ds.length + 1) else takeDigits limit (s * 10 + d) ds

/-- The number that a fraction or an exponent makes of a significand and a scale. -/
def scaled (negative : Bool) (significand : Nat) (scale : Int) : Option JsonNumber :=
  (Binary64.ofDecimal significand scale).map fun x =>
    .binary (if negative then x.neg else x)

/-- Reads an exponent after its letter and applies it. An exponent beyond 32 bits makes zero of a
zero significand or of a negative exponent, and is an error otherwise. -/
def readExponent (negative : Bool) (significand : Nat) (scale : Int) (cs : List Char) :
    Option (JsonNumber × List Char) :=
  let (down, cs) := match cs with
    | '+' :: rest => (false, rest)
    | '-' :: rest => (true, rest)
    | _ => (false, cs)
  match spanDigits cs with
  | ([], _) => none
  | (ds, rest) =>
    let (e, left) := takeDigits (Nat.pow 2 31 - 1) 0 ds
    if left ≠ 0 then
      if significand ≠ 0 ∧ !down then none
      else some (.binary (Binary64.zero negative), rest)
    else
      (scaled negative significand (if down then scale - e else scale + e)).map (·, rest)

/-- Reads what may follow the digits of a number: an exponent or nothing. -/
def readScale (negative : Bool) (significand : Nat) (scale : Int) (cs : List Char) :
    Option (JsonNumber × List Char) :=
  match cs with
  | 'e' :: rest => readExponent negative significand scale rest
  | 'E' :: rest => readExponent negative significand scale rest
  | _ => (scaled negative significand scale).map (·, cs)

/-- Reads a fraction after its point. Digits beyond the largest significand are ignored. -/
def readFraction (negative : Bool) (significand : Nat) (scale : Int) (cs : List Char) :
    Option (JsonNumber × List Char) :=
  match spanDigits cs with
  | ([], _) => none
  | (ds, rest) =>
    let (s, left) := takeDigits maxSignificand significand ds
    readScale negative s (scale - ((ds.length - left : Nat) : Int)) rest

/-- The number that an integer without fraction and exponent is. A negative zero and an integer
below `-2 ^ 63` are binary numbers. -/
def integer (negative : Bool) (n : Nat) : Option JsonNumber :=
  if !negative then some (.natural n)
  else if n = 0 ∨ Nat.pow 2 63 < n then (Binary64.ofNat n).map fun x => .binary x.neg
  else some (.negative (-(n : Int)))

def readMagnitude (negative : Bool) (cs : List Char) : Option (JsonNumber × List Char) :=
  match spanDigits cs with
  | ([], _) => none
  | (0 :: _ :: _, _) => none
  | (ds, rest) =>
    let (s, left) := takeDigits maxSignificand 0 ds
    match rest with
    | '.' :: rest => readFraction negative s left rest
    | 'e' :: rest => readExponent negative s left rest
    | 'E' :: rest => readExponent negative s left rest
    | _ => if left = 0 then (integer negative s).map (·, rest) else
      (scaled negative s left).map (·, rest)

def readNumber : List Char → Option (JsonNumber × List Char)
  | '-' :: rest => readMagnitude true rest
  | cs => readMagnitude false cs

abbrev Read (α : Type) := List Char → Option (α × List Char)

/-- Reads array items after one has begun, up to the closing bracket; `acc` holds the items so far,
the last one first. The fuel bounds the number of items. -/
def readItems (item : Read Json) : (fuel : Nat) → (acc : List Json) → Read (List Json)
  | 0, _, _ => none
  | fuel + 1, acc, cs => do
    let (v, rest) ← item (skipSpace cs)
    match skipSpace rest with
    | ',' :: rest => readItems item fuel (v :: acc) rest
    | ']' :: rest => some ((v :: acc).reverse, rest)
    | _ => none

def readMember (item : Read Json) : Read (String × Json) := fun cs =>
  match skipSpace cs with
  | '"' :: rest => do
    let (name, rest) ← readString [] rest
    match skipSpace rest with
    | ':' :: rest => do
      let (v, rest) ← item (skipSpace rest)
      some ((name, v), rest)
    | _ => none
  | _ => none

/-- Reads object members up to the closing brace. Of members of one name the last is kept. -/
def readMembers (item : Read Json) :
    (fuel : Nat) → (acc : List (String × Json)) → Read (List (String × Json))
  | 0, _, _ => none
  | fuel + 1, acc, cs => do
    let ((name, v), rest) ← readMember item cs
    match skipSpace rest with
    | ',' :: rest => readMembers item fuel (insertMember name v acc) rest
    | '}' :: rest => some (insertMember name v acc, rest)
    | _ => none

def readWord (word : String) (v : Json) : Read Json := fun cs =>
  if word.toList.isPrefixOf cs then some (v, cs.drop word.length) else none

/-- Reads a value that begins at the first character, with arrays and objects nested at most `depth`
deep. The fuel bounds the number of items in each of them. -/
def readValue (fuel : Nat) : (depth : Nat) → Read Json
  | 0, cs =>
    match cs with
    | '"' :: rest => (readString [] rest).map fun (s, r) => (.string s, r)
    | 'n' :: _ => readWord "null" .null cs
    | 't' :: _ => readWord "true" (.bool true) cs
    | 'f' :: _ => readWord "false" (.bool false) cs
    | _ => (readNumber cs).map fun (n, r) => (.number n, r)
  | depth + 1, cs =>
    match cs with
    | '[' :: rest =>
      match skipSpace rest with
      | ']' :: rest => some (.array [], rest)
      | rest => (readItems (readValue fuel depth) fuel [] rest).map
          fun (items, r) => (.array items, r)
    | '{' :: rest =>
      match skipSpace rest with
      | '}' :: rest => some (.object [], rest)
      | rest => (readMembers (readValue fuel depth) fuel [] rest).map
          fun (members, r) => (.object members, r)
    | cs => readValue fuel 0 cs

def maxDepth : Nat := 127

/-- Reads the value at the front of a text, after white space. No container has more items than the
text has characters, which is the fuel. -/
def readFront (cs : List Char) : Option (Json × List Char) :=
  readValue cs.length maxDepth (skipSpace cs)

/-- Reads a text that is one value and nothing else but white space. -/
def read? (cs : List Char) : Option Json :=
  match readFront cs with
  | some (v, rest) => if (skipSpace rest).isEmpty then some v else none
  | none => none

def ofText? (s : String) : Option Json := read? s.toList

end NodeTrial.Json
