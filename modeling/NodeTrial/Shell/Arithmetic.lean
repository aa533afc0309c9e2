import NodeTrial.Number.Hexadecimal
import NodeTrial.Shell.Token

namespace NodeTrial.Shell

/-- The unsigned integer at the front as it is written: decimal, hexadecimal or octal; and the
rest. -/
def integerFront? (cs : List Char) : Option (Nat × List Char) :=
  let hexadecimal (ds : List Char) := ds.takeWhile fun c => (Hexadecimal.digit? c).isSome
  let octalDigits := cs.takeWhile fun c => '0' ≤ c ∧ c ≤ '7'
  match cs with
  | '0' :: x :: ds =>
    if (x = 'x' || x = 'X') && !(hexadecimal ds).isEmpty then
      (Hexadecimal.value? (hexadecimal ds)).map fun n => (n, ds.drop (hexadecimal ds).length)
    else
      some (octalDigits.foldl (fun n c => n * 8 + (c.toNat - 48)) 0, cs.drop octalDigits.length)
  | c :: _ =>
    if c.isDigit then
      let ds := cs.takeWhile Char.isDigit
      ((String.ofList ds).toNat?).map fun n => (n, cs.drop ds.length)
    else none
  | [] => none

def isBlank (c : Char) : Bool := c = ' ' || c = '\t' || c = '\n'

def skipBlanks (cs : List Char) : List Char := cs.dropWhile isBlank

def minInteger : Int := -(Nat.pow 2 63 : Int)

def maxInteger : Int := (Nat.pow 2 63 : Int) - 1

/-- The integer at the front of a text with its sign, after blanks, and the rest. -/
def signedFront? (cs : List Char) : Option (Int × List Char) :=
  match skipBlanks cs with
  | '-' :: ds => (integerFront? ds).map fun (n, rest) => (-(Int.ofNat n), rest)
  | '+' :: ds => (integerFront? ds).map fun (n, rest) => (Int.ofNat n, rest)
  | ds => (integerFront? ds).map fun (n, rest) => (Int.ofNat n, rest)

/-- The integer that a text is in decimal digits, with blanks around it. -/
def decimalOf? (text : String) : Option Int :=
  let cs := skipBlanks (skipBlanks text.toList).reverse |>.reverse
  let digits? (ds : List Char) : Option Int :=
    if !ds.isEmpty && ds.all Char.isDigit then ((String.ofList ds).toNat?).map Int.ofNat else none
  match cs with
  | '-' :: ds => (digits? ds).map (- ·)
  | '+' :: ds => digits? ds
  | ds => digits? ds

inductive Arithmetic
  | number (n : Int)
  | variable (name : String)
  | unary (sign : Char) (a : Arithmetic)
  | binary (sign : String) (a b : Arithmetic)
  | choice (condition yes no : Arithmetic)
  /-- The variable takes the value, combined by the sign with the value that it had. -/
  | assign (name sign : String) (a : Arithmetic)
  deriving Repr

namespace Arithmetic

/-- The binary operators, from those that bind least to those that bind most. -/
def levels : List (List String) :=
  [["||"], ["&&"], ["|"], ["^"], ["&"], ["==", "!="], ["<=", ">=", "<", ">"], ["<<", ">>"],
    ["+", "-"], ["*", "/", "%"]]

/-- The signs that assign, longer ones before those that end them. -/
def assignments : List (String × String) :=
  [("<<=", "<<"), (">>=", ">>"), ("+=", "+"), ("-=", "-"), ("*=", "*"), ("/=", "/"), ("%=", "%"),
    ("&=", "&"), ("^=", "^"), ("|=", "|"), ("=", "")]

/-- The operator of a level at the front. A sign that goes on as another operator is none of it. -/
def operatorAt? (level : List String) (cs : List Char) : Option (String × List Char) :=
  match level.find? fun sign => sign.toList.isPrefixOf cs with
  | none => none
  | some sign =>
    let rest := cs.drop sign.length
    let longer := (sign = "|" && rest.head? = some '|') || (sign = "&" && rest.head? = some '&')
      || (sign = "<" && rest.head? = some '<') || (sign = ">" && rest.head? = some '>')
    if longer then none else some (sign, rest)

/-- The assignment at the front: the name, the sign of the operator, and the rest. -/
def assignmentAt? (cs : List Char) : Option (String × String × List Char) :=
  let name := cs.takeWhile isNameChar
  match name with
  | [] => none
  | c :: _ =>
    if c.isDigit then none
    else
      let rest := skipBlanks (cs.drop name.length)
      match assignments.find? fun (sign, _) => sign.toList.isPrefixOf rest with
      | some (sign, operator) =>
        let after := rest.drop sign.length
        if sign = "=" && after.head? = some '=' then none
        else some (String.ofList name, operator, after)
      | none => none

/-- A reader of expressions, with the words for a fault. -/
abbrev Read := List Char → Except String (Arithmetic × List Char)

mutual

/-- Reads an assignment or a choice or what stands in it. -/
def whole : (fuel : Nat) → Read
  | 0, _ => .error "expecting primary"
  | fuel + 1, cs => do
    let cs := skipBlanks cs
    match assignmentAt? cs with
    | some (name, sign, rest) =>
      let (a, rest) ← whole fuel rest
      .ok (.assign name sign a, rest)
    | none =>
      let (a, rest) ← expression fuel levels cs
      match skipBlanks rest with
      | '?' :: rest =>
        let (yes, rest) ← whole fuel rest
        match skipBlanks rest with
        | ':' :: rest =>
          let (no, rest) ← whole fuel rest
          .ok (.choice a yes no, rest)
        | _ => .error "expecting ':'"
      | rest => .ok (a, rest)

def expression : (fuel : Nat) → List (List String) → Read
  | 0, _, _ => .error "expecting primary"
  | fuel + 1, [], cs => operand fuel cs
  | fuel + 1, level :: higher, cs => do
    let (a, rest) ← expression fuel higher cs
    more fuel level higher a rest

def more : (fuel : Nat) → List String → List (List String) → Arithmetic → Read
  | 0, _, _, _, _ => .error "expecting primary"
  | fuel + 1, level, higher, a, cs =>
    match operatorAt? level (skipBlanks cs) with
    | none => .ok (a, skipBlanks cs)
    | some (sign, rest) => do
      let (b, rest) ← expression fuel higher rest
      more fuel level higher (.binary sign a b) rest

def operand : (fuel : Nat) → Read
  | 0, _ => .error "expecting primary"
  | fuel + 1, cs =>
    match skipBlanks cs with
    | '(' :: rest => do
      let (a, rest) ← whole fuel rest
      match skipBlanks rest with
      | ')' :: rest => .ok (a, rest)
      | _ => .error "expecting ')'"
    | [] => .error "expecting primary"
    | c :: rest =>
      if "-+!~".toList.contains c then do
        let (a, rest) ← operand fuel rest
        .ok (.unary c a, rest)
      else
        match integerFront? (c :: rest) with
        | some (n, rest) => .ok (.number (min n maxInteger), rest)
        | none =>
          let name := (c :: rest).takeWhile isNameChar
          if name.isEmpty then .error "expecting primary"
          else .ok (.variable (String.ofList name), (c :: rest).drop name.length)

end

/-- The expression that a text is; the empty one is zero. -/
def ofText (source : String) : Except String Arithmetic :=
  let cs := skipBlanks source.toList
  if cs.isEmpty then .ok (.number 0)
  else do
    match ← whole (20 * (cs.length + 2)) cs with
    | (a, []) => .ok a
    | _ => .error "expecting EOF"

def truth (b : Bool) : Int := if b then 1 else 0

/-- Applies a binary operator; none for a division by zero. -/
def combined? (sign : String) (a b : Int) : Option Int :=
  let word (n : Int) : Int64 := Int64.ofInt n
  match sign with
  | "|" => some (word a ||| word b).toInt
  | "^" => some (word a ^^^ word b).toInt
  | "&" => some (word a &&& word b).toInt
  | "==" => some (truth (a == b))
  | "!=" => some (truth (a != b))
  | "<=" => some (truth (a ≤ b))
  | ">=" => some (truth (b ≤ a))
  | "<" => some (truth (a < b))
  | ">" => some (truth (b < a))
  | "<<" => some (word a <<< word b).toInt
  | ">>" => some (word a >>> word b).toInt
  | "+" => some (word a + word b).toInt
  | "-" => some (word a - word b).toInt
  | "*" => some (word a * word b).toInt
  | "/" => if b = 0 then none else some (word a / word b).toInt
  | "%" => if b = 0 then none else some (word a % word b).toInt
  | _ => none

/-- An evaluation, which may set variables, with the words for a fault. -/
abbrev Evaluate := StateT (List (String × String)) (Except String)

/-- The value of a variable; an absent or empty one counts as zero. -/
def valueOf (name : String) : Evaluate Int := do
  match (← get).lookup name with
  | none => pure 0
  | some text =>
    if (skipBlanks text.toList).isEmpty then pure 0
    else
      match signedFront? text.toList with
      | some (n, rest) =>
        if (skipBlanks rest).isEmpty then pure n else throw ("Illegal number: " ++ text)
      | none => throw ("Illegal number: " ++ text)

/-- The result of a binary operator; `source` is the text of the whole expression. -/
def combine (source sign : String) (a b : Int) : Evaluate Int :=
  match combined? sign a b with
  | some n => pure n
  | none => throw ("arithmetic expression: division by zero: \"" ++ source ++ "\"")

def evaluate (source : String) : Arithmetic → Evaluate Int
  | .number n => pure n
  | .variable name => valueOf name
  | .unary sign a => do
    let n ← a.evaluate source
    pure (match sign with
      | '-' => (-(Int64.ofInt n)).toInt
      | '!' => truth (n == 0)
      | '~' => -n - 1
      | _ => n)
  | .binary "||" a b => do
    if (← a.evaluate source) != 0 then pure 1 else pure (truth ((← b.evaluate source) != 0))
  | .binary "&&" a b => do
    if (← a.evaluate source) == 0 then pure 0 else pure (truth ((← b.evaluate source) != 0))
  | .binary sign a b => do
    let m ← a.evaluate source
    let n ← b.evaluate source
    combine source sign m n
  | .choice condition yes no => do
    if (← condition.evaluate source) != 0 then yes.evaluate source else no.evaluate source
  | .assign name sign a => do
    let n ← a.evaluate source
    let n ← if sign.isEmpty then pure n else do combine source sign (← valueOf name) n
    modify fun bindings => (name, toString n) :: bindings.filter (·.1 != name)
    pure n

/-- The value of a text as an expression, with the whole message for a fault. -/
def evaluateText (source : String) : Evaluate Int :=
  match ofText source with
  | .ok a => a.evaluate source
  | .error words => throw ("arithmetic expression: " ++ words ++ ": \"" ++ source ++ "\"")

end Arithmetic

end NodeTrial.Shell
