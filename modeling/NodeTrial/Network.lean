import NodeTrial.Number.Quantity
import NodeTrial.Surroundings

namespace NodeTrial

namespace NetworkFailure

def unansweredStatus (url : String) : NetworkFailure := ⟨"GET " ++ url⟩

def unansweredCall (url method : String) : NetworkFailure := ⟨"send " ++ method ++ " to " ++ url⟩

end NetworkFailure

def isSuccessStatus (status : Nat) : Bool := 200 ≤ status && status < 300

/-- The method by which a node tells the header of its best block. -/
def headerMethod : String := "chain_getHeader"

/-- The height in a header, which is an object that holds it as a quantity, or an array of that
quantity alone. -/
def heightOfHeader? : Json → Option Nat
  | .object members => ((Json.member? "number" members).bind Json.text?).bind Quantity.read?
  | .array [item] => (Json.text? item).bind Quantity.read?
  | _ => none

namespace Trial

def isHealthy (url : String) : Trial (Except NetworkFailure Bool) := do
  let answer ← status url
  pure (answer.map isSuccessStatus)

def isReachable (url : String) : Trial Bool := do
  match ← status url with
  | .ok _ => pure true
  | .error _ => pure false

def blockHeight? (url : String) : Trial (Option Nat) := do
  match ← call url headerMethod (.array []) with
  | .ok header => pure (heightOfHeader? header)
  | .error _ => pure none

end Trial

end NodeTrial
