import NodeTrial.Contract.Document
import NodeTrial.Json.Printer
import NodeTrial.Text.Lines

/-!
The output of a contract call: what the call returned, and whether it reports success. An output
without a decodable document is judged by its text alone.
-/

namespace NodeTrial.Contract

/-- A decoded call. Members that are absent or null are none. -/
structure Call where
  reverted? : Option Bool
  data? : Option Json
  status? : Option String

namespace Call

def optionalBool : Option Json → Option (Option Bool)
  | none | some .null => some none
  | some (.bool b) => some (some b)
  | some _ => none

def optionalText : Option Json → Option (Option String)
  | none | some .null => some none
  | some (.string s) => some (some s)
  | some _ => none

def optionalValue : Option Json → Option Json
  | none | some .null => none
  | some v => some v

def ofParts? (reverted data status : Option Json) : Option Call := do
  some { reverted? := ← optionalBool reverted
         data? := optionalValue data
         status? := ← optionalText status }

/-- Decodes a call from an object, or from an array with its members in order; an array may be cut
short but not be longer. -/
def ofJson? : Json → Option Call
  | .object ms =>
    ofParts? (Json.member? "reverted" ms) (Json.member? "data" ms) (Json.member? "status" ms)
  | .array items =>
    if items.length ≤ 3 then ofParts? items[0]? items[1]? items[2]? else none
  | _ => none

def ofOutput? (output : String) : Option Call := (document? output).bind ofJson?

def successMarkers : List String := ["Ok", "success"]

/-- The variant at the top of returned data: a text itself, the identifier that an object names, or
the key of an object with one member, unless the value there names an identifier. -/
def variant? : Json → Option String
  | .string s => some s
  | .object ms =>
    match (Json.member? "ident" ms).bind Json.text? with
    | some ident => some ident
    | none =>
      match ms with
      | [(key, inner)] => some (((inner.get? "ident").bind Json.text?).getD key)
      | _ => none
  | _ => none

/-- Whether a decoded call is a success: it was not reverted, and the variant of its data, or its
status if the data has none, reports success. -/
def succeeded (c : Call) : Bool :=
  if c.reverted? = some true then false
  else
    match ((c.data?.bind variant?).or c.status?) with
    | some word => successMarkers.contains word
    | none => false

end Call

def callSucceeded (output : String) : Bool :=
  match Call.ofOutput? output with
  | some call => call.succeeded
  | none => Call.successMarkers.any (Text.contains output)

/-- What a call returned: the compact form of its data, or else the trimmed output. -/
def returnedValue (output : String) : String :=
  match (Call.ofOutput? output).bind Call.data? with
  | some data => data.compact
  | none => Text.trimmed output

def returnsToken (output token : String) : Bool := Text.contains (returnedValue output) token

end NodeTrial.Contract
