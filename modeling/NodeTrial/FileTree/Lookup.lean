import NodeTrial.FileTree.Basic
import NodeTrial.FileTree.Error
import NodeTrial.Path
import NodeTrial.Text.Lines

/-!
Where a path leads in a file tree. A path is followed part by part; a part of one dot stays, a part
of two dots goes up, and every part but the last has to be a directory.
-/

namespace NodeTrial

namespace Path

def parts (p : String) : List String :=
  ((Text.pieces '/' p.toList).filter (!·.isEmpty)).map String.ofList

/-- Whether a path ends in a slash and so means a directory. -/
def endsInSlash (p : String) : Bool := p.toList.getLast? = some '/'

/-- Whether the last part of a path is a name, and not one or two dots or nothing. -/
def endsInName (p : String) : Bool :=
  match (parts p).getLast? with
  | some part => part != "." && part != ".."
  | none => false

end Path

/-- Where a path leads: to an entry, or to a name that is free in a directory. -/
inductive Target
  | present (place : Place) (entry : Entry)
  | free (place : Place)
  deriving DecidableEq, Repr

namespace FileTree

def maxNameBytes : Nat := 255

/-- The least number of bytes that a path may not have. -/
def pathBytesBound : Nat := 4096

def walk (t : FileTree) (here : Place) : List String → Except FileError Target
  | [] =>
    match t.entry? here with
    | some e => .ok (.present here e)
    | none => .error .notFound
  | part :: rest =>
    match t.entry? here with
    | none => .error .notFound
    | some (.file _) => .error .notDirectory
    | some .directory =>
      if part = "." then t.walk here rest
      else if part = ".." then t.walk here.dropLast rest
      else if maxNameBytes < part.utf8ByteSize then .error .nameTooLong
      else
        match t.entry? (here ++ [part]), rest with
        | none, [] => .ok (.free (here ++ [part]))
        | none, _ :: _ => .error .notFound
        | some _, _ => t.walk (here ++ [part]) rest

/-- The place from which a path is followed, by a process that is at `here`. -/
def origin (here : Place) (path : String) : Place := if Path.isAbsolute path then [] else here

def resolve (t : FileTree) (here : Place) (path : String) : Except FileError Target :=
  if path.isEmpty then .error .notFound
  else if path.toList.contains '\x00' then .error .nulInPath
  else if pathBytesBound ≤ path.utf8ByteSize then .error .nameTooLong
  else t.walk (origin here path) (Path.parts path)

def find (t : FileTree) (here : Place) (path : String) : Except FileError (Place × Entry) :=
  match t.resolve here path with
  | .error e => .error e
  | .ok (.free _) => .error .notFound
  | .ok (.present place (.file f)) =>
    if Path.endsInSlash path then .error .notDirectory else .ok (place, .file f)
  | .ok (.present place .directory) => .ok (place, .directory)

def isFile (t : FileTree) (here : Place) (path : String) : Bool :=
  match t.find here path with
  | .ok (_, e) => e.isFile
  | .error _ => false

def isDirectory (t : FileTree) (here : Place) (path : String) : Bool :=
  match t.find here path with
  | .ok (_, e) => e.isDirectory
  | .error _ => false

def read (t : FileTree) (here : Place) (path : String) : Except FileError (List UInt8) :=
  match t.find here path with
  | .error e => .error e
  | .ok (_, .directory) => .error .isDirectory
  | .ok (_, .file f) => .ok f.content

end FileTree

end NodeTrial
