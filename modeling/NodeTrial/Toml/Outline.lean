import NodeTrial.Toml.Value

/-!
The tables of a TOML document while it is read. A table remembers how it came about, because that
decides which later headers and dotted keys may add to it: a table with a header of its own is
defined once, and a dotted key adds only to tables that dotted keys made.
-/

namespace NodeTrial.Toml

/-- How a table came about. -/
inductive Origin
  /-- It has a header. -/
  | header
  /-- A header of a table below it named it. -/
  | path
  /-- A dotted key named it. -/
  | dotted
  deriving DecidableEq, Repr

inductive Part
  | value (v : Value)
  | table (origin : Origin) (parts : List (String × Part))
  /-- The tables of an array of tables. -/
  | tables (items : List (List (String × Part)))

abbrev Parts := List (String × Part)

namespace Part

/-- Changes the part of a key, or adds one at the end. -/
def alter (key : String) (f : Option Part → Option Part) : Parts → Option Parts
  | [] => (f none).map fun p => [(key, p)]
  | (other, p) :: rest =>
    if other = key then (f (some p)).map fun p => (other, p) :: rest
    else (alter key f rest).map ((other, p) :: ·)

def alterLast (f : Parts → Option Parts) : List Parts → Option (List Parts)
  | [] => none
  | [ps] => (f ps).map fun ps => [ps]
  | ps :: rest => (alterLast f rest).map (ps :: ·)

/-- Changes the table that a header path leads to; tables that are missing on the way are made, and
an array of tables is entered at its last table. -/
def descend (f : Parts → Option Parts) : List String → Parts → Option Parts
  | [] => f
  | key :: keys => alter key fun
    | none => (descend f keys []).map (.table .path)
    | some (.table origin ps) => (descend f keys ps).map (.table origin)
    | some (.tables items) => (alterLast (descend f keys) items).map .tables
    | some (.value _) => none

/-- Adds an entry that must not be there yet. -/
def addNew (key : String) (p : Part) : Parts → Option Parts :=
  alter key fun
    | none => some p
    | some _ => none

def addDotted (key : String) (v : Value) : List String → Parts → Option Parts
  | [] => addNew key (.value v)
  | k :: keys => alter k fun
    | none => (addDotted key v keys []).map (.table .dotted)
    | some (.table origin ps) =>
      if origin = .header ∨ (keys.isEmpty ∧ origin = .path) then none
      else (addDotted key v keys ps).map (.table origin)
    | some (.tables items) =>
      if keys.isEmpty then none else (alterLast (addDotted key v keys) items).map .tables
    | some (.value _) => none

def openTable (key : String) : Parts → Option Parts :=
  alter key fun
    | none => some (.table .header [])
    | some (.table .path ps) => some (.table .header ps)
    | some _ => none

def openItem (key : String) : Parts → Option Parts :=
  alter key fun
    | none => some (.tables [[]])
    | some (.tables items) => some (.tables (items ++ [[]]))
    | some _ => none

mutual

/-- The value that a part stands for when the document is read. -/
def toValue : Part → Value
  | .value v => v
  | .table _ ps => .table (entries ps)
  | .tables items => .array (itemValues items)

def entries : List (String × Part) → List (String × Value)
  | [] => []
  | (key, p) :: rest => (key, toValue p) :: entries rest

def itemValues : List (List (String × Part)) → List Value
  | [] => []
  | ps :: rest => .table (entries ps) :: itemValues rest

end

end Part

end NodeTrial.Toml
