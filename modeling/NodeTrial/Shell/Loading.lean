import NodeTrial.FileTree.Lookup
import NodeTrial.Shell.Program
import NodeTrial.Text.Utf8

namespace NodeTrial.Shell

namespace Image

/-- The interpreter that the first line of a file names, with its argument. -/
def interpreter? (content : List UInt8) : Option (String × List String) :=
  match content with
  | 35 :: 33 :: rest =>
    let line := String.ofList (Utf8.decodeLossy (rest.takeWhile (· != 10)))
    let trimmed := (line.toList.dropWhile fun c => c = ' ' || c = '\t').reverse.dropWhile
      (fun c => c = ' ' || c = '\t') |>.reverse
    let path := trimmed.takeWhile fun c => c != ' ' && c != '\t'
    let argument := (trimmed.drop path.length).dropWhile fun c => c = ' ' || c = '\t'
    if path.isEmpty then none
    else
      some (String.ofList path,
        if argument.isEmpty then [] else [String.ofList argument])
  | _ => none

/-- Loads the program at a path. Interpreters may need interpreters up to a depth. -/
def ofPath (t : FileTree) (here : Place) : (depth : Nat) → (path : String) → (name : String) →
    (args : List String) → Except FileError Image
  | depth, path, name, args =>
    match t.find here path with
    | .error e => .error e
    | .ok (_, .directory) => .error .denied
    | .ok (_, .file f) =>
      if !f.executable then .error .denied
      else
        match Utility.ofImage? f.content with
        | some utility => .ok { utility, name, args }
        | none =>
          match interpreter? f.content, depth with
          | none, _ => .error .badFormat
          | some _, 0 => .error .badFormat
          | some (interpreter, argument), depth + 1 =>
            ofPath t here depth interpreter interpreter (argument ++ path :: args)

def maxDepth : Nat := 4

/-- Loads the first program of a name in some directories. A file that may not be run is passed
over, but remembered. -/
def search (t : FileTree) (here : Place) (name : String) (args : List String)
    (failure : FileError) : List String → Except FileError Image
  | [] => .error failure
  | directory :: rest =>
    match ofPath t here maxDepth (Path.join directory name) name args with
    | .ok i => .ok i
    | .error .denied => search t here name args .denied rest
    | .error .notFound => search t here name args failure rest
    | .error .notDirectory => search t here name args failure rest
    | .error e => .error e

def location? (t : FileTree) (here : Place) (directories : List String) (name : String) :
    Option String :=
  let isProgram (path : String) : Bool :=
    match t.find here path with
    | .ok (_, .file f) => f.executable
    | _ => false
  if name.isEmpty then none
  else if name.toList.contains '/' then (if isProgram name then some name else none)
  else (directories.map fun d => Path.join d name).find? isProgram

/-- Loads a program by its path, or, if the name has no slash, from the directories of programs. -/
def load (t : FileTree) (here : Place) (directories : List String) (name : String)
    (args : List String) : Except FileError Image :=
  if name.isEmpty then .error .notFound
  else if name.toList.contains '/' then ofPath t here maxDepth name name args
  else search t here name args .notFound directories

end Image

end NodeTrial.Shell
