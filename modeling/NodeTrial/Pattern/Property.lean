import NodeTrial.Pattern.CharSet
import NodeTrial.Pattern.Property.Binary
import NodeTrial.Pattern.Property.Categories
import NodeTrial.Pattern.Property.Scripts

namespace NodeTrial.Pattern

/-- The set of a general category that is neither a group nor computed from others. -/
def plainCategory? (name : List Char) : Option CharSet :=
  (findProperty? generalCategories name).map fun p => .table p.table

def unassigned : CharSet :=
  .complement (.ofList (generalCategories.map fun p => .table p.table))

def category? (name : List Char) : Option CharSet :=
  if name = "any".toList then some .all
  else if name = "ascii".toList then some (.range 0 127)
  else if name = "assigned".toList then some (.complement unassigned)
  else if name = "cn".toList ∨ name = "unassigned".toList then some unassigned
  else
    match categoryGroups.find? fun g => g.1.any (·.toList = name) with
    | some (_, parts) =>
      some (.ofList (parts.filterMap fun part =>
        if part = "cn" then some unassigned else plainCategory? part.toList))
    | none => plainCategory? name

def script? (name : List Char) : Option CharSet :=
  (findProperty? scripts name).map fun p => .table p.table

/-- The set that a single name stands for: a binary property, a general category or a script. Three
short names are never those of binary properties. -/
def namedSet? (name : List Char) : Option CharSet :=
  let name := looseName name
  let binary := if name = "cf".toList ∨ name = "sc".toList ∨ name = "lc".toList then none
    else findProperty? binaryProperties name
  match binary with
  | some p => some (.table p.table)
  | none => (category? name).or (script? name)

def valueSet? (property value : List Char) : Option CharSet :=
  let property := looseName property
  let value := looseName value
  if property = "gc".toList ∨ property = "generalcategory".toList then category? value
  else if property = "sc".toList ∨ property = "script".toList then script? value
  else if property = "scx".toList ∨ property = "scriptextensions".toList then script? value
  else none

end NodeTrial.Pattern
