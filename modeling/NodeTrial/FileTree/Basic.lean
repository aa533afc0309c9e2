/-!
File trees: directories and files at places below one root. A file keeps its identity when it is
moved, so that a process that has opened it goes on writing to the same file.
-/

namespace NodeTrial

structure File where
  id : Nat
  content : List UInt8
  executable : Bool
  deriving DecidableEq, Repr

/-- What is at a place of a tree. -/
inductive Entry
  | directory
  | file (f : File)
  deriving DecidableEq, Repr

namespace Entry

def isDirectory : Entry → Bool
  | directory => true
  | file _ => false

def isFile : Entry → Bool
  | directory => false
  | file _ => true

end Entry

/-- The names on the way from the root to an entry. -/
abbrev Place := List String

/-- A tree of files. The root is a directory that is not listed. -/
structure FileTree where
  /-- The entries with their places, each place at most once. -/
  entries : List (Place × Entry)
  /-- The identity of the next new file. -/
  fresh : Nat
  deriving DecidableEq, Repr

namespace FileTree

def empty : FileTree := ⟨[], 0⟩

def entry? (t : FileTree) (p : Place) : Option Entry :=
  if p.isEmpty then some .directory else t.entries.lookup p

def erase (t : FileTree) (p : Place) : FileTree :=
  { t with entries := t.entries.filter (·.1 != p) }

def put (t : FileTree) (p : Place) (e : Entry) : FileTree :=
  { t with entries := (p, e) :: (t.erase p).entries }

def putNew (t : FileTree) (p : Place) (content : List UInt8) (executable : Bool) : FileTree :=
  { t.put p (.file ⟨t.fresh, content, executable⟩) with fresh := t.fresh + 1 }

def fileOf? (t : FileTree) (id : Nat) : Option (Place × File) :=
  t.entries.findSome? fun
    | (p, .file f) => if f.id = id then some (p, f) else none
    | (_, .directory) => none

/-- Changes the content of the file of an identity, if it is still in the tree. -/
def changeContent (t : FileTree) (id : Nat) (change : List UInt8 → List UInt8) : FileTree :=
  match t.fileOf? id with
  | some (p, f) => t.put p (.file { f with content := change f.content })
  | none => t

def holdsNothing (t : FileTree) (p : Place) : Bool :=
  !t.entries.any fun (q, _) => p.isPrefixOf q && q != p

def names (t : FileTree) (p : Place) : List String :=
  let below := t.entries.filterMap fun (q, _) =>
    if q.length = p.length + 1 && p.isPrefixOf q then q.getLast? else none
  below.mergeSort fun a b => !(b < a)

/-- Everything below a place as paths from there, directories with a slash at the end, in the order
of texts. -/
def listing (t : FileTree) (p : Place) : List String :=
  let below := t.entries.filterMap fun (q, e) =>
    if p.isPrefixOf q && q != p then
      let path := "/".intercalate (q.drop p.length)
      some (if e.isDirectory then path ++ "/" else path)
    else none
  below.mergeSort fun a b => !(b < a)

end FileTree

end NodeTrial
