import NodeTrial.FileTree.Lookup
import NodeTrial.Text.Utf8

namespace NodeTrial

inductive ReadFault
  | file (cause : FileError)
  /-- The bytes are not UTF-8. -/
  | encoding
  deriving DecidableEq, Repr

def ReadFault.message : ReadFault → String
  | file cause => cause.message
  | encoding => "stream did not contain valid UTF-8"

def FileTree.readText (t : FileTree) (here : Place) (path : String) : Except ReadFault String :=
  match t.read here path with
  | .error e => .error (.file e)
  | .ok bytes =>
    match Utf8.decode? bytes with
    | some cs => .ok (String.ofList cs)
    | none => .error .encoding

end NodeTrial
