import NodeTrial.Text.RangeTable

namespace NodeTrial.Pattern

/-- A property: its names, in the loose form in which names are compared, and the code points that
have it, in the written form of range tables. -/
structure Property where
  names : List String
  ranges : String

/-- The loose form of a name: letters in lower case, without blanks, underscores, hyphens and
characters beyond ASCII, and without the word `is` in front. -/
def looseName (cs : List Char) : List Char :=
  let squeeze (cs : List Char) : List Char :=
    (cs.filter fun c => c ≠ ' ' && c ≠ '_' && c ≠ '-' && c.toNat < 128).map Char.toLower
  match cs with
  | i :: s :: rest =>
    if (i = 'i' || i = 'I') && (s = 's' || s = 'S') then
      let rest := squeeze rest
      if rest = ['c'] then "isc".toList else rest
    else squeeze cs
  | _ => squeeze cs

def findProperty? (properties : List Property) (name : List Char) : Option Property :=
  properties.find? fun p => p.names.any (·.toList = name)

def Property.table (p : Property) : Text.RangeTable := .ofText p.ranges

end NodeTrial.Pattern
