import NodeTrial.Number.Binary64

namespace NodeTrial

/-- A JSON number: a natural number below `2 ^ 64`, a negative integer from `-2 ^ 63` on, or a
binary number for everything else. -/
inductive JsonNumber
  | natural (value : Nat)
  | negative (value : Int)
  | binary (value : Binary64)
  deriving DecidableEq, Repr

inductive Json
  | null
  | bool (value : Bool)
  | number (value : JsonNumber)
  | string (value : String)
  | array (items : List Json)
  | object (members : List (String × Json))
  deriving Repr

namespace Json

/-- Adds a member, in the place of one of the same name if there is one, else in the order of
names. -/
def insertMember (name : String) (value : Json) : List (String × Json) → List (String × Json)
  | [] => [(name, value)]
  | (other, old) :: rest =>
    if name = other then (name, value) :: rest
    else if name < other then (name, value) :: (other, old) :: rest
    else (other, old) :: insertMember name value rest

def member? (name : String) : List (String × Json) → Option Json
  | [] => none
  | (other, value) :: rest => if name = other then some value else member? name rest

def get? (name : String) : Json → Option Json
  | .object members => member? name members
  | _ => none

def text? : Json → Option String
  | .string s => some s
  | _ => none

def isObject : Json → Bool
  | .object _ => true
  | _ => false

end Json

end NodeTrial
