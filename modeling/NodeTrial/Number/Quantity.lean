import NodeTrial.Number.Hexadecimal
import NodeTrial.Text.Blank

namespace NodeTrial.Quantity

/-- A numeral without the mark that announces hexadecimal digits. -/
def dropMark : List Char → List Char
  | '0' :: 'x' :: rest => rest
  | '0' :: 'X' :: rest => rest
  | cs => cs

def limit : Nat := Nat.pow 2 64

def read? (text : String) : Option Nat :=
  match dropMark (Text.trim text.toList) with
  | [] => none
  | cs => (Hexadecimal.value? cs).filter (· < limit)

end NodeTrial.Quantity
