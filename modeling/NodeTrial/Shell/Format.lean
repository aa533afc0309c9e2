import NodeTrial.Shell.Arithmetic

namespace NodeTrial.Shell.Format

def octalDigit? (c : Char) : Option Nat := if '0' ≤ c ∧ c ≤ '7' then some (c.toNat - 48) else none

/-- The value of at most `limit` octal digits at the front, and the rest. -/
def octal : (limit value : Nat) → List Char → Nat × List Char
  | 0, value, cs => (value, cs)
  | _ + 1, value, [] => (value, [])
  | limit + 1, value, c :: cs =>
    match octalDigit? c with
    | some d => octal limit (value * 8 + d) cs
    | none => (value, c :: cs)

def bytesOf (c : Char) : List UInt8 := String.utf8EncodeChar c

def sign? : Char → Option UInt8
  | 'e' => some 27
  | 'a' => some 7
  | 'b' => some 8
  | 't' => some 9
  | 'n' => some 10
  | 'v' => some 11
  | 'f' => some 12
  | 'r' => some 13
  | '\\' => some 92
  | _ => none

/-- What follows a backslash: its bytes and the rest. A sign without a meaning stands for itself
with its backslash. -/
def escape : List Char → List UInt8 × List Char
  | [] => ([92], [])
  | c :: cs =>
    if (octalDigit? c).isSome then
      let (n, rest) := octal 3 0 (c :: cs)
      ([UInt8.ofNat n], rest)
    else
      match sign? c with
      | some b => ([b], cs)
      | none => ([92], c :: cs)

/-- A text with all that stands behind backslashes, and whether it asks to end the output there. -/
def escapedText : (fuel : Nat) → List Char → List UInt8 × Bool
  | 0, _ => ([], false)
  | _ + 1, [] => ([], false)
  | _ + 1, '\\' :: 'c' :: _ => ([], true)
  | fuel + 1, '\\' :: '0' :: cs =>
    let (n, rest) := octal 3 0 cs
    let (bytes, stop) := escapedText fuel rest
    (UInt8.ofNat n :: bytes, stop)
  | fuel + 1, '\\' :: cs =>
    let (front, rest) := escape cs
    let (bytes, stop) := escapedText fuel rest
    (front ++ bytes, stop)
  | fuel + 1, c :: cs =>
    let (bytes, stop) := escapedText fuel cs
    (bytesOf c ++ bytes, stop)

structure Slot where
  left : Bool
  zero : Bool
  plus : Bool
  blank : Bool
  alternative : Bool
  width : Nat
  precision? : Option Nat

/-- The value of an argument as a number, and what is said of one that is none. -/
def number (argument : String) : Int × Option String :=
  match argument.toList with
  | [] => (0, none)
  | ['\''] => (0, none)
  | ['"'] => (0, none)
  | '\'' :: c :: _ => (c.toNat, none)
  | '"' :: c :: _ => (c.toNat, none)
  | cs =>
    match signedFront? cs with
    | none => (0, some (argument ++ ": expected numeric value"))
    | some (n, rest) =>
      if maxInteger < n then (maxInteger, some (argument ++ ": Numerical result out of range"))
      else if n < minInteger then
        (minInteger, some (argument ++ ": Numerical result out of range"))
      else (n, if rest.isEmpty then none else some (argument ++ ": not completely converted"))

def pad (s : Slot) (bytes : List UInt8) : List UInt8 :=
  let blanks := List.replicate (s.width - bytes.length) 32
  if s.left then bytes ++ blanks else blanks ++ bytes

def padNumber (s : Slot) (sign digits : String) : List UInt8 :=
  let digits := match s.precision? with
    | some n => String.ofList (List.replicate (n - digits.length) '0') ++ digits
    | none =>
      if s.zero && !s.left then
        String.ofList (List.replicate (s.width - sign.length - digits.length) '0') ++ digits
      else digits
  pad s (sign ++ digits).toUTF8.toList

/-- A number that counts as one without a sign in 64 bits. -/
def unsigned (n : Int) : Nat := (n % (Nat.pow 2 64 : Int)).toNat

def isNumeric (conversion : Char) : Bool := "diuxXo".toList.contains conversion

/-- A slot filled with an argument; none if the conversion is unknown. -/
def fill? (s : Slot) (conversion : Char) (argument : String) : Option (List UInt8) :=
  let text (cs : List Char) := cs.flatMap bytesOf
  let cut (bytes : List UInt8) := match s.precision? with
    | some n => bytes.take n
    | none => bytes
  let n := (number argument).1
  match conversion with
  | 's' => some (pad s (cut (text argument.toList)))
  | 'b' => some (pad s (cut (escapedText (argument.length + 1) argument.toList).1))
  | 'c' => some (pad s ((text argument.toList).take 1))
  | 'd' | 'i' =>
    let sign := if n < 0 then "-" else if s.plus then "+" else if s.blank then " " else ""
    some (padNumber s sign (toString n.natAbs))
  | 'u' => some (padNumber s "" (toString (unsigned n)))
  | 'x' => some (padNumber s (if s.alternative then "0x" else "")
      (String.ofList (Nat.toDigits 16 (unsigned n))))
  | 'X' => some (padNumber s (if s.alternative then "0X" else "")
      (String.ofList (Nat.toDigits 16 (unsigned n))).toUpper)
  | 'o' => some (padNumber s "" (String.ofList (Nat.toDigits 8 (unsigned n))))
  | _ => none

def decimal (cs : List Char) : Nat × List Char :=
  let ds := cs.takeWhile Char.isDigit
  (((String.ofList ds).toNat?).getD 0, cs.drop ds.length)

def isFlag (c : Char) : Bool := c = '-' || c = '0' || c = '+' || c = ' ' || c = '#'

/-- The slot at the front with its conversion, the arguments that are left, and the rest. -/
def slot? (arguments : List String) (cs : List Char) :
    Option (Slot × Char × List String × List Char) :=
  let flags := cs.takeWhile isFlag
  let rest := cs.drop flags.length
  let (width, arguments, rest) := match rest with
    | '*' :: rest => ((number (arguments.head?.getD "")).1.toNat, arguments.drop 1, rest)
    | _ =>
      let (n, rest) := decimal rest
      (n, arguments, rest)
  let (precision?, rest) := match rest with
    | '.' :: rest =>
      let (n, rest) := decimal rest
      (some n, rest)
    | _ => (none, rest)
  match rest with
  | c :: rest =>
    some ({ left := flags.contains '-', zero := flags.contains '0', plus := flags.contains '+',
            blank := flags.contains ' ', alternative := flags.contains '#', width, precision? },
      c, arguments, rest)
  | [] => none

structure Formatted where
  bytes : List UInt8
  /-- The arguments that are left. -/
  arguments : List String
  /-- What is said of arguments. -/
  warnings : List String
  /-- What is said of the format, if formatting had to end there. -/
  fault : Option String
  /-- Whether the output was asked to end there. -/
  stop : Bool

def pass : (fuel : Nat) → List String → List Char → Formatted
  | 0, arguments, _ => ⟨[], arguments, [], none, true⟩
  | _ + 1, arguments, [] => ⟨[], arguments, [], none, false⟩
  | _ + 1, arguments, '\\' :: 'c' :: _ => ⟨[], arguments, [], none, true⟩
  | fuel + 1, arguments, '\\' :: cs =>
    let (front, rest) := escape cs
    let p := pass fuel arguments rest
    { p with bytes := front ++ p.bytes }
  | fuel + 1, arguments, '%' :: '%' :: cs =>
    let p := pass fuel arguments cs
    { p with bytes := 37 :: p.bytes }
  | fuel + 1, arguments, '%' :: cs =>
    match slot? arguments cs with
    | none => ⟨[], arguments, [], some "missing format character", true⟩
    | some (s, conversion, arguments, rest) =>
      let argument := arguments.head?.getD ""
      match fill? s conversion argument with
      | none =>
        let sign := String.ofList (cs.take (cs.length - rest.length))
        ⟨[], arguments, [], some ("%" ++ sign ++ ": invalid directive"), true⟩
      | some bytes =>
        let warning := if isNumeric conversion then (number argument).2 else none
        let stops := conversion = 'b' &&
          (escapedText (argument.length + 1) argument.toList).2
        if stops then ⟨bytes, [], [], none, true⟩
        else
          let p := pass fuel (arguments.drop 1) rest
          { p with bytes := bytes ++ p.bytes, warnings := warning.toList ++ p.warnings }
  | fuel + 1, arguments, c :: cs =>
    let p := pass fuel arguments cs
    { p with bytes := bytesOf c ++ p.bytes }

/-- A format filled with arguments again and again until they are used up. -/
def filled (format : String) : (fuel : Nat) → List String → Formatted
  | 0, arguments => ⟨[], arguments, [], none, true⟩
  | fuel + 1, arguments =>
    let p := pass (format.length + 1) arguments format.toList
    if p.stop || p.arguments.isEmpty || p.arguments.length = arguments.length then p
    else
      let next := filled format fuel p.arguments
      { next with bytes := p.bytes ++ next.bytes, warnings := p.warnings ++ next.warnings }

def printf (format : String) (arguments : List String) : Formatted :=
  filled format (arguments.length + 1) arguments

end NodeTrial.Shell.Format
