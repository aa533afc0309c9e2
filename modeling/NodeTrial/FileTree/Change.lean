import NodeTrial.FileTree.Lookup

/-!
Changes of a file tree. Each either succeeds or leaves the tree as it is, except that directories
which were created on the way to a failure stay, and so does what was written of a file before the
disk took no more.
-/

namespace NodeTrial

/-- How much of a content a disk takes. -/
inductive Room
  | ample
  /-- The disk takes so many bytes and refuses the next one. -/
  | upTo (size : Nat) (cause : FileError)
  deriving DecidableEq, Repr

namespace Room

def taken : Room → List UInt8 → List UInt8
  | ample, content => content
  | upTo size _, content => content.take size

def answer : Room → List UInt8 → Except FileError Unit
  | ample, _ => .ok ()
  | upTo size cause, content => if content.length ≤ size then .ok () else .error cause

end Room

namespace FileTree

def makeDirectoryAt (t : FileTree) (here : Place) (parts : List String) :
    Except FileError FileTree :=
  match t.walk here parts with
  | .error e => .error e
  | .ok (.present _ _) => .error .exists
  | .ok (.free place) => .ok (t.put place .directory)

def makeDirectory (t : FileTree) (here : Place) (path : String) : Except FileError FileTree :=
  match t.resolve here path with
  | .error e => .error e
  | .ok (.present _ _) => .error .exists
  | .ok (.free place) => .ok (t.put place .directory)

def isDirectoryAt (t : FileTree) (here : Place) (parts : List String) : Bool :=
  match t.walk here parts with
  | .ok (.present _ e) => e.isDirectory
  | _ => false

/-- Creates a directory; that it is already there is no failure. -/
def ensureDirectoryAt (t : FileTree) (here : Place) (parts : List String) :
    Except FileError FileTree :=
  match t.makeDirectoryAt here parts with
  | .ok t => .ok t
  | .error e => if e = .exists ∧ t.isDirectoryAt here parts then .ok t else .error e

/-- Creates a directory and what is missing above it. The parts come last one first. -/
def createDirectoriesAt (t : FileTree) (here : Place) :
    List String → FileTree × Except FileError Unit
  | [] => (t, .ok ())
  | last :: before =>
    match t.ensureDirectoryAt here (last :: before).reverse with
    | .ok t => (t, .ok ())
    | .error .notFound =>
      match t.createDirectoriesAt here before with
      | (t, .error e) => (t, .error e)
      | (t, .ok ()) =>
        match t.ensureDirectoryAt here (last :: before).reverse with
        | .ok t => (t, .ok ())
        | .error e => (t, .error e)
    | .error e => (t, .error e)

/-- Creates a directory and what is missing above it. The empty path asks for nothing. -/
def createDirectories (t : FileTree) (here : Place) (path : String) :
    FileTree × Except FileError Unit :=
  if path.toList.contains '\x00' then (t, .error .nulInPath)
  else if pathBytesBound ≤ path.utf8ByteSize then (t, .error .nameTooLong)
  else t.createDirectoriesAt (origin here path) ((Path.parts path).filter (· != ".")).reverse

/-- Opens a file for writing, its old content cut off if asked. A file that is missing is created.
The answer holds its identity. -/
def openForWriting (t : FileTree) (here : Place) (path : String) (truncate : Bool) :
    Except FileError (FileTree × Nat) :=
  match t.resolve here path with
  | .error e => .error e
  | .ok target =>
    if Path.endsInSlash path then .error .isDirectory
    else
      match target with
      | .present _ .directory => .error .isDirectory
      | .present place (.file f) =>
        .ok (if truncate then t.put place (.file { f with content := [] }) else t, f.id)
      | .free place => .ok (t.putNew place [] false, t.fresh)

/-- Opens a file anew and gives it a content. -/
def overwrite (t : FileTree) (here : Place) (path : String) (content : List UInt8) :
    Except FileError FileTree :=
  match t.openForWriting here path true with
  | .error e => .error e
  | .ok (t, id) => .ok (t.changeContent id fun _ => content)

/-- Writes a file as far as the disk takes it. A file that was opened stays, whatever of the content
could be written to it. -/
def write (t : FileTree) (here : Place) (path : String) (content : List UInt8) (room : Room) :
    FileTree × Except FileError Unit :=
  match t.overwrite here path (room.taken content) with
  | .error e => (t, .error e)
  | .ok t => (t, room.answer content)

def removeFile (t : FileTree) (here : Place) (path : String) : Except FileError FileTree :=
  match t.find here path with
  | .error e => .error e
  | .ok (_, .directory) => .error .isDirectory
  | .ok (place, .file _) => .ok (t.erase place)

def removeDirectory (t : FileTree) (here : Place) (path : String) : Except FileError FileTree :=
  match t.find here path with
  | .error e => .error e
  | .ok (_, .file _) => .error .notDirectory
  | .ok (place, .directory) =>
    if !Path.endsInName path then .error .invalidArgument
    else if t.holdsNothing place then .ok (t.erase place) else .error .notEmpty

/-- The place to which a place below `source` moves when `source` becomes `target`. -/
def transplant (source target place : Place) : Place :=
  if source.isPrefixOf place then target ++ place.drop source.length else place

/-- Moves an entry with all below it to a place that nothing else takes. -/
def relocate (t : FileTree) (source target : Place) : FileTree :=
  { t with entries := t.entries.map fun (p, e) => (transplant source target p, e) }

def moveFileTo (t : FileTree) (source : Place) : Target → Except FileError FileTree
  | .present _ .directory => .error .isDirectory
  | .present place (.file _) =>
    .ok (if place = source then t else (t.erase place).relocate source place)
  | .free place => .ok (t.relocate source place)

def moveDirectoryTo (t : FileTree) (source : Place) (target : Target) :
    Except FileError FileTree :=
  let place := match target with
    | .present place _ => place
    | .free place => place
  if place = source then .ok t
  else if source.isPrefixOf place then .error .invalidArgument
  else
    match target with
    | .present _ (.file _) => .error .notDirectory
    | .present place .directory =>
      if t.holdsNothing place then .ok ((t.erase place).relocate source place)
      else .error .notEmpty
    | .free place => .ok (t.relocate source place)

/-- Moves an entry to a path, in the place of a file or an empty directory that is there. -/
def move (t : FileTree) (here : Place) (source target : String) : Except FileError FileTree :=
  match t.find here source, t.resolve here target with
  | .error e, _ => .error e
  | _, .error e => .error e
  | .ok (place, .file _), .ok destination =>
    if !Path.endsInName target then .error .busy
    else if Path.endsInSlash target then .error .notDirectory
    else t.moveFileTo place destination
  | .ok (place, .directory), .ok destination =>
    if !Path.endsInName target || !Path.endsInName source then .error .busy
    else t.moveDirectoryTo place destination

end FileTree

end NodeTrial
