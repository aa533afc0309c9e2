import NodeTrial.Number.Binary64

namespace NodeTrial.Toml

/-- A floating-point value. -/
inductive Real
  | finite (value : Binary64)
  | infinite
  | nan
  /-- A decimal beyond the largest number. -/
  | tooLarge
  deriving DecidableEq, Repr

/-- A TOML value. Integers are unbounded here; what reads them sets their range. -/
inductive Value
  | string (text : String)
  | integer (value : Int)
  | real (value : Real)
  | bool (value : Bool)
  /-- A date, a time or both, as written. -/
  | moment (text : String)
  | array (items : List Value)
  | table (entries : List (String × Value))
  deriving Repr

namespace Value

def entry? (key : String) : List (String × Value) → Option Value
  | [] => none
  | (other, v) :: rest => if key = other then some v else entry? key rest

/-- Whether an integer fits into 128 bits, with or without a sign. -/
def fits (i : Int) : Bool := -(Nat.pow 2 127 : Int) ≤ i && i < (Nat.pow 2 128 : Int)

mutual

/-- Whether every number in a value can be represented. -/
def representable : Value → Bool
  | .integer i => fits i
  | .real .tooLarge => false
  | .array items => itemsRepresentable items
  | .table entries => entriesRepresentable entries
  | _ => true

def itemsRepresentable : List Value → Bool
  | [] => true
  | v :: rest => representable v && itemsRepresentable rest

def entriesRepresentable : List (String × Value) → Bool
  | [] => true
  | (_, v) :: rest => representable v && entriesRepresentable rest

end

end Value

end NodeTrial.Toml
