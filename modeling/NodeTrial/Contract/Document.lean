import NodeTrial.Json.Reader
import NodeTrial.Text.Blank

namespace NodeTrial.Contract

/-- The first object that begins at some brace of the text. -/
def firstObject? : List Char → Option Json
  | [] => none
  | c :: cs =>
    if c = '{' then
      match Json.readFront (c :: cs) with
      | some (.object members, _) => some (.object members)
      | _ => firstObject? cs
    else firstObject? cs

/-- The document of an output: what the whole output is, white space around it aside, or else its
first object. -/
def document? (output : String) : Option Json :=
  let cs := Text.trim output.toList
  match Json.read? cs with
  | some v => some v
  | none => firstObject? cs

end NodeTrial.Contract
