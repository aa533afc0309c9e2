import NodeTrial.Config.Check
import NodeTrial.Config.Document
import NodeTrial.FileTree.Text

namespace NodeTrial

inductive LoadError
  | unreadable (path : String) (cause : ReadFault)
  /-- The text is no document, or does not describe a configuration. -/
  | malformed (path : String)
  | refused (fault : ConfigFault)
  deriving DecidableEq, Repr

namespace LoadError

def message : LoadError → String
  | unreadable path _ => "read " ++ path
  | malformed path => "parse " ++ path
  | refused fault => fault.message

/-- What went wrong, with the cause where it is known. -/
def fullMessage : LoadError → String
  | unreadable path cause => "read " ++ path ++ ": " ++ cause.message
  | malformed path => "parse " ++ path
  | refused fault => fault.message

end LoadError

namespace Config

def accepted (c : Config) : Except LoadError Config :=
  match c.check with
  | .ok _ => .ok c
  | .error fault => .error (.refused fault)

def isThere (t : FileTree) (here : Place) (path : String) : Bool :=
  match t.find here path with
  | .ok _ => true
  | .error _ => false

def load (t : FileTree) (here : Place) (path : String) : Except LoadError Config :=
  if isThere t here path then
    match t.readText here path with
    | .error cause => .error (.unreadable path cause)
    | .ok text =>
      match ofToml? text with
      | none => .error (.malformed path)
      | some c => c.accepted
  else Config.default.accepted

end Config

end NodeTrial
