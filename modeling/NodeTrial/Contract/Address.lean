import NodeTrial.Contract.Document

namespace NodeTrial.Contract

def addressNames : List String := ["contract", "address", "contract_address"]

/-- The address in a document: the only member with one of the names, or the only item of an array.
It has to be a text. -/
def addressOf? : Json → Option String
  | .object ms =>
    match ms.filter (addressNames.contains ·.1) with
    | [(_, .string s)] => some s
    | _ => none
  | .array [.string s] => some s
  | _ => none

def minAddressLength : Nat := 20

/-- Whether the line may end here: nothing but white space follows up to the end of the line. -/
def lineEnds (cs : List Char) : Bool :=
  let gap := cs.takeWhile Text.isBlank
  gap.length = cs.length || gap.contains '\n'

/-- The address behind the word `Contract`, if both stand at the start of the characters with only
white space before, between and after them. -/
def addressHere? (cs : List Char) : Option String :=
  let rest := Text.trimStart cs
  if "Contract".toList.isPrefixOf rest then
    let rest := rest.drop 8
    let body := Text.trimStart rest
    let address := body.takeWhile Char.isAlphanum
    if body.length < rest.length && minAddressLength ≤ address.length
        && lineEnds (body.drop address.length) then
      some (String.ofList address)
    else none
  else none

/-- The address on the first line that holds one; `fresh` tells whether the characters begin a
line. -/
def addressOnLine? (fresh : Bool) : List Char → Option String
  | [] => none
  | c :: cs =>
    match (if fresh then addressHere? (c :: cs) else none) with
    | some a => some a
    | none => addressOnLine? (c = '\n') cs

/-- The address in the output of the tool. An output with a document is judged by that alone. -/
def instantiatedAddress? (output : String) : Option String :=
  match document? output with
  | some v => (addressOf? v).filter fun a => !Text.blank a
  | none => addressOnLine? true output.toList

end NodeTrial.Contract
