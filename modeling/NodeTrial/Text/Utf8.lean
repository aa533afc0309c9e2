/-!
Texts as bytes. Writing gives every character its UTF-8 form. Reading is a state machine over the
bytes that replaces what is not UTF-8: each longest run of bytes that begins a character but does
not complete one, and each other byte that begins none, becomes one replacement character.
-/

namespace NodeTrial.Utf8

def encode (cs : List Char) : List UInt8 := cs.flatMap String.utf8EncodeChar

def replacement : Char := '\uFFFD'

/-- Where a reader stands: between characters, or inside one of which `value` has been read. There
the next byte has to lie between `low` and `high`, and `more` bytes follow that one. -/
inductive State
  | between
  | inside (value : Nat) (low high : Nat) (more : Nat)
  deriving DecidableEq, Repr

/-- Reads a byte between two characters: what it gives and where the reader stands then. -/
def begin (b : Nat) : List Char × State :=
  if b < 0x80 then ([Char.ofNat b], .between)
  else if b < 0xC2 then ([replacement], .between)
  else if b < 0xE0 then ([], .inside (b - 0xC0) 0x80 0xBF 0)
  else if b = 0xE0 then ([], .inside 0 0xA0 0xBF 1)
  else if b = 0xED then ([], .inside 0xD 0x80 0x9F 1)
  else if b < 0xF0 then ([], .inside (b - 0xE0) 0x80 0xBF 1)
  else if b = 0xF0 then ([], .inside 0 0x90 0xBF 2)
  else if b < 0xF4 then ([], .inside (b - 0xF0) 0x80 0xBF 2)
  else if b = 0xF4 then ([], .inside 4 0x80 0x8F 2)
  else ([replacement], .between)

/-- Reads one byte. A byte that does not go on with a character ends it as a replacement, and is
then read as the first byte of another. -/
def step : State → UInt8 → List Char × State
  | .between, b => begin b.toNat
  | .inside value low high more, b =>
    let n := b.toNat
    if low ≤ n ∧ n ≤ high then
      let value := value * 64 + (n - 0x80)
      match more with
      | 0 => ([Char.ofNat value], .between)
      | more + 1 => ([], .inside value 0x80 0xBF more)
    else
      let (cs, s) := begin n
      (replacement :: cs, s)

/-- What the end of the bytes gives: a character that was cut short becomes a replacement. -/
def flush : State → List Char
  | .between => []
  | .inside .. => [replacement]

/-- Reads bytes from a state on; `acc` holds the characters so far, the last one first. -/
def decodeFrom (acc : List Char) (s : State) : List UInt8 → List Char
  | [] => ((flush s) ++ acc).reverse
  | b :: bs =>
    let (cs, s) := step s b
    decodeFrom (cs.reverse ++ acc) s bs

/-- The text of some bytes, with replacements for what is not UTF-8. -/
def decodeLossy (bs : List UInt8) : List Char := decodeFrom [] .between bs

/-- The text of some bytes, if they are the UTF-8 form of one. -/
def decode? (bs : List UInt8) : Option (List Char) :=
  let cs := decodeLossy bs
  if encode cs = bs then some cs else none

end NodeTrial.Utf8
