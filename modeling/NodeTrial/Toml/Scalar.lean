import NodeTrial.Number.Hexadecimal
import NodeTrial.Toml.Value

namespace NodeTrial.Toml

/-- A row of digits, with single underscores between digits, without the underscores; none if it is
anything else. -/
def digitRow (isDigit : Char → Bool) : List Char → Option (List Char)
  | [] => none
  | [c] => if isDigit c then some [c] else none
  | c :: '_' :: rest => if isDigit c then (digitRow isDigit rest).map (c :: ·) else none
  | c :: rest => if isDigit c then (digitRow isDigit rest).map (c :: ·) else none

def rowValue (base : Nat) (ds : List Char) : Nat :=
  ds.foldl (fun n c => n * base + (Hexadecimal.digit? c).getD 0) 0

/-- A row of decimal digits that does not begin with a zero, unless it is the zero alone. -/
def decimalRow (cs : List Char) : Option (List Char) :=
  match digitRow Char.isDigit cs with
  | some ('0' :: _ :: _) => none
  | row => row

def splitSign : List Char → Bool × List Char
  | '-' :: rest => (true, rest)
  | '+' :: rest => (false, rest)
  | cs => (false, cs)

/-- An integer in one of the bases with a mark in front, which take no sign. -/
def markedInteger? : List Char → Option Int
  | '0' :: 'x' :: rest =>
    (digitRow (fun c => (Hexadecimal.digit? c).isSome) rest).map fun ds => (rowValue 16 ds : Int)
  | '0' :: 'o' :: rest =>
    (digitRow (fun c => '0' ≤ c && c ≤ '7') rest).map fun ds => (rowValue 8 ds : Int)
  | '0' :: 'b' :: rest =>
    (digitRow (fun c => c = '0' || c = '1') rest).map fun ds => (rowValue 2 ds : Int)
  | _ => none

def integer? (cs : List Char) : Option Int :=
  match markedInteger? cs with
  | some i => some i
  | none =>
    let (negative, body) := splitSign cs
    (decimalRow body).map fun ds =>
      if negative then -(rowValue 10 ds : Int) else (rowValue 10 ds : Int)

/-- The number `± digits · 10 ^ scale`. Scales far outside the range of the format are decided
without computing a power. -/
def Real.ofDecimal (negative : Bool) (digits : Nat) (scale : Int) : Real :=
  let lead : Int := (Nat.toDigits 10 digits).length + scale
  if digits = 0 ∨ lead < -400 then .finite (.zero negative)
  else if 400 < lead then .tooLarge
  else
    let x := if 0 ≤ scale then Binary64.ofQuotient negative (digits * Nat.pow 10 scale.toNat) 1
      else Binary64.ofQuotient negative digits (Nat.pow 10 (-scale).toNat)
    match x with
    | some x => .finite x
    | none => .tooLarge

/-- Splits at the first character that satisfies a test, which is dropped; none if there is none. -/
def splitFirst? (p : Char → Bool) (cs : List Char) : List Char × Option (List Char) :=
  match cs.dropWhile (!p ·) with
  | [] => (cs, none)
  | _ :: rest => (cs.takeWhile (!p ·), some rest)

def exponent? (cs : List Char) : Option Int :=
  let (negative, body) := splitSign cs
  (digitRow Char.isDigit body).map fun ds =>
    if negative then -(rowValue 10 ds : Int) else (rowValue 10 ds : Int)

/-- A floating-point number: a whole part with a fraction, an exponent, or both. -/
def decimal? (negative : Bool) (cs : List Char) : Option Real := do
  let (mantissa, power) := splitFirst? (fun c => c = 'e' || c = 'E') cs
  let (whole, fraction) := splitFirst? (· = '.') mantissa
  let whole ← decimalRow whole
  let fraction ← match fraction with
    | none => if power.isNone then none else some []
    | some f => digitRow Char.isDigit f
  let power ← match power with
    | none => some 0
    | some p => exponent? p
  some (.ofDecimal negative (rowValue 10 (whole ++ fraction)) (power - fraction.length))

def real? (cs : List Char) : Option Real :=
  let (negative, body) := splitSign cs
  if body = "inf".toList then some .infinite
  else if body = "nan".toList then some .nan
  else decimal? negative body

def fixedDigits (n : Nat) (cs : List Char) : Option (Nat × List Char) :=
  let ds := cs.take n
  if ds.length = n && ds.all Char.isDigit then some (rowValue 10 ds, cs.drop n) else none

def expect (c : Char) : List Char → Option (List Char)
  | d :: rest => if c = d then some rest else none
  | [] => none

def isLeapYear (year : Nat) : Bool := (year % 4 == 0 && year % 100 != 0) || year % 400 == 0

def daysIn (year month : Nat) : Nat :=
  if month = 2 then (if isLeapYear year then 29 else 28)
  else if month = 4 ∨ month = 6 ∨ month = 9 ∨ month = 11 then 30
  else 31

def date? (cs : List Char) : Option (List Char) := do
  let (year, cs) ← fixedDigits 4 cs
  let (month, cs) ← fixedDigits 2 (← expect '-' cs)
  let (day, cs) ← fixedDigits 2 (← expect '-' cs)
  if 1 ≤ month ∧ month ≤ 12 ∧ 1 ≤ day ∧ day ≤ daysIn year month then some cs else none

def secondFraction? : List Char → Option (List Char)
  | '.' :: rest =>
    match rest with
    | c :: _ => if c.isDigit then some (rest.dropWhile Char.isDigit) else none
    | [] => none
  | cs => some cs

/-- Reads a time and gives what follows it. The seconds may be left out. -/
def time? (cs : List Char) : Option (List Char) := do
  let (hour, cs) ← fixedDigits 2 cs
  let (minute, cs) ← fixedDigits 2 (← expect ':' cs)
  if 23 < hour ∨ 59 < minute then none
  else
    match cs with
    | ':' :: rest => do
      let (second, cs) ← fixedDigits 2 rest
      if 60 < second then none else secondFraction? cs
    | _ => some cs

/-- Whether the characters are an offset from universal time, or nothing. -/
def isOffset : List Char → Bool
  | [] => true
  | ['Z'] | ['z'] => true
  | c :: rest =>
    (c = '+' || c = '-') &&
      match fixedDigits 2 rest with
      | some (hour, ':' :: rest) =>
        match fixedDigits 2 rest with
        | some (minute, []) => hour ≤ 23 && minute ≤ 59
        | _ => false
      | _ => false

/-- Whether the characters are a date, a time, or a date with a time. -/
def isMoment (cs : List Char) : Bool :=
  match date? cs with
  | some [] => true
  | some (c :: rest) =>
    (c = 'T' || c = 't' || c = ' ') &&
      match time? rest with
      | some rest => isOffset rest
      | none => false
  | none => time? cs == some []

def scalar? (cs : List Char) : Option Value :=
  if cs = "true".toList then some (.bool true)
  else if cs = "false".toList then some (.bool false)
  else
    match integer? cs with
    | some i => some (.integer i)
    | none =>
      match real? cs with
      | some r => some (.real r)
      | none => if isMoment cs then some (.moment (String.ofList cs)) else none

def endsScalar (c : Char) : Bool :=
  c = ' ' || c = '\t' || c = '\n' || c = '\r' || c = '#' || c = ',' || c = '=' ||
    c = '[' || c = ']' || c = '{' || c = '}'

/-- Reads an unquoted value. A blank between a date and a time belongs to the value. -/
def readScalar (cs : List Char) : Option (Value × List Char) :=
  let word := cs.takeWhile (!endsScalar ·)
  let rest := cs.dropWhile (!endsScalar ·)
  match date? word, rest with
  | some [], ' ' :: d :: more =>
    if d.isDigit then
      let time := (d :: more).takeWhile (!endsScalar ·)
      (scalar? (word ++ ' ' :: time)).map (·, (d :: more).dropWhile (!endsScalar ·))
    else (scalar? word).map (·, rest)
  | _, _ => (scalar? word).map (·, rest)

end NodeTrial.Toml
