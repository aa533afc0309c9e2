import NodeTrial.Pattern.Matching
import NodeTrial.Pattern.Reader
import NodeTrial.Pattern.Size

namespace NodeTrial.Pattern

/-- The pattern of a written form, if it is one and takes no more room than patterns may. -/
def ofText? (text : String) : Option Pattern := (ofChars? text.toList).filter fits

def anyOccursIn (ps : List Pattern) (text : String) : Bool := ps.any (·.occursIn text)

def ofTexts (texts : List String) : Except String (List Pattern) :=
  texts.mapM fun t =>
    match ofText? t with
    | some p => .ok p
    | none => .error t

end NodeTrial.Pattern
