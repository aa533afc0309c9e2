import NodeTrial.Shell.Leaving
import NodeTrial.Shell.Loading
import NodeTrial.Shell.Reader

namespace NodeTrial.Shell

namespace Running

def expand {α : Type} (r : Running) (x : Expand α) : Except String (α × Running) :=
  match x.run r.process.environment with
  | .ok (a, e) => .ok (a, r.mapEnvironment fun _ => e)
  | .error message => .error message

/-- What opening a file that cannot be opened is called. -/
def openFault (verb path : String) (e : FileError) : String :=
  let words := match e with
    | .notFound => if verb = "create" then "Directory nonexistent" else "No such file"
    | e => e.words
  "cannot " ++ verb ++ " " ++ path ++ ": " ++ words

def redirect (r : Running) (x : Redirection) : Except String Running := do
  let (target, r) ← r.expand (Expand.text r.process.pid x.target)
  let connected (c : Channel) : Running :=
    { r with process := r.process.connectNew x.descriptor c }
  let same (other : Nat) : Except String Running :=
    match r.process.environment.descriptors.lookup other with
    | some n => .ok (r.mapEnvironment fun e => e.connect x.descriptor n)
    | none => .error (toString other ++ ": Bad file descriptor")
  let writing (truncate append : Bool) : Except String Running :=
    if target = "/dev/null" then .ok (connected .nothing)
    else if target = "/dev/stdout" then same 1
    else if target = "/dev/stderr" then same 2
    else
      match r.files.openForWriting r.directory target truncate with
      | .error e => .error (openFault "create" target e)
      | .ok (files, id) =>
        .ok { process := r.process.connectNew x.descriptor (.file id 0 append), files }
  match x.kind with
  | .read =>
    if target = "/dev/null" then .ok (connected .nothing)
    else
      match r.files.find r.directory target with
      | .error e => .error (openFault "open" target e)
      | .ok (_, .directory) => .ok (connected .nothing)
      | .ok (_, .file f) => .ok (connected (.file f.id 0 false))
  | .write => writing true false
  | .append => writing false true
  | .readWrite => writing false false
  | .text => .ok (connected (.source target.toUTF8.toList))
  | .duplicate =>
    if target = "-" then .ok (r.mapEnvironment fun e => e.disconnect x.descriptor)
    else
      match target.toNat? with
      | some n => same n
      | none => .error (syntaxFault "Bad fd number")

def redirectAll (r : Running) (xs : List Redirection) : Except String Running :=
  xs.foldlM redirect r

/-- Runs a script in the process as it is; `context` begins the messages about faults in it. -/
def runSource (r : Running) (context source : String) : Running :=
  let c := match Command.ofText source with
    | .malformed line words => .malformed line (context ++ words)
    | c => c
  r.act (.carryOut c)

/-- The letters of the options in front of arguments, and the arguments. -/
def shellOptions : List String → List Char × List String
  | [] => ([], [])
  | a :: rest =>
    if a = "--" then ([], rest)
    else if a.startsWith "-" && a.length > 1 then
      let (letters, rest) := shellOptions rest
      (a.toList.drop 1 ++ letters, rest)
    else ([], a :: rest)

def startShell (r : Running) (name : String) (args : List String) : Running :=
  let (letters, args) := shellOptions args
  let become (name : String) (arguments : List String) : Running :=
    r.mapEnvironment fun e =>
      { e.set "PWD" e.directoryPath with
        name
        arguments
        exitOnFailure := letters.contains 'e'
        refusesAbsent := letters.contains 'u'
        traces := letters.contains 'x'
        status := 0 }
  if letters.contains 'c' then
    match args with
    | [] => ((become name []).complain (name ++ ": 0: -c requires an argument")).exit 2
    | [source] => (become name []).runSource "" source
    | source :: name :: arguments => (become name arguments).runSource "" source
  else
    match args with
    | [] =>
      let source := String.ofList (Utf8.decodeLossy (r.readable 0))
      (become name []).runSource "" source
    | path :: arguments =>
      match r.files.read r.directory path with
      | .error e =>
        ((become name []).complain (name ++ ": 0: " ++ openFault "open" path e)).exit 2
      | .ok bytes => (become path arguments).runSource "" (String.ofList (Utf8.decodeLossy bytes))

/-- The variables that arguments set, and the command behind them. -/
def leadingAssignments : List String → List (String × String) × List String
  | [] => ([], [])
  | a :: rest =>
    let name := a.toList.takeWhile isNameChar
    match a.toList.drop name.length with
    | '=' :: value =>
      let (assignments, rest) := leadingAssignments rest
      ((String.ofList name, String.ofList value) :: assignments, rest)
    | _ => ([], a :: rest)

/-- Becomes a program; one that only runs another becomes that up to a depth. -/
def startImage (now : Nat) : (depth : Nat) → Running → Image → Running
  | depth, r, i =>
    match i.utility, depth with
    | .sh, _ => r.startShell i.name i.args
    | .env, depth + 1 =>
      let (r, args) := if i.args.head? = some "-i" then
          (r.mapEnvironment fun e => { e with bindings := [], exported := [] }, i.args.drop 1)
        else (r, i.args)
      let (assignments, command) := leadingAssignments args
      let r := r.mapEnvironment fun e =>
        assignments.foldl (fun e (n, v) => (e.set n v).withExported n) e
      match command with
      | [] =>
        let e := r.process.environment
        (r.writeText 1 (String.join (e.bindings.reverse.map fun (n, v) =>
          n ++ "=" ++ v ++ "\n"))).finish 0
      | name :: args =>
        match Image.load r.files r.directory r.process.environment.searchPath name args with
        | .ok i => startImage now depth r i
        | .error e =>
          (r.complain ("env: '" ++ name ++ "': " ++ e.words)).finish
            (if e = .notFound then 127 else 126)
    | u, _ => u.run now i.args r

def start (r : Running) (now : Nat) (i : Image) : Running := startImage now Image.maxDepth r i

/-- The status and the wording of a command that cannot be started. -/
def startFault : FileError → Nat × String
  | .denied => (126, "Permission denied")
  | .isDirectory => (126, "Is a directory")
  | .badFormat => (126, "Exec format error")
  | _ => (127, "not found")

/-- Loads the program of a command. A file without an interpreter is a script. -/
def imageOf (r : Running) (name : String) (args : List String) : Except FileError Image :=
  match Image.load r.files r.directory r.process.environment.searchPath name args with
  | .error .badFormat => .ok { utility := .sh, name := "sh", args := name :: args }
  | result => result

def external (r : Running) (now line : Nat) (name : String) (args : List String) : Running :=
  if name.isEmpty then (r.complain (r.here line ++ ": Permission denied")).finish 127
  else
    match r.imageOf name args with
    | .error e =>
      let (status, words) := startFault e
      (r.complain (r.here line ++ name ++ ": " ++ words)).finish status
    | .ok i =>
      let r := (r.push (.leaveProgram r.process.environment)).mapEnvironment childEnvironment
      r.start now i

def replace (r : Running) (now line : Nat) (name : String) (args : List String) : Running :=
  match r.imageOf name args with
  | .error e =>
    let (status, words) := startFault e
    (r.complain (r.here line ++ "exec: " ++ name ++ ": " ++ words)).exit status
  | .ok i =>
    let e := childEnvironment r.process.environment
    let r := r.unwound isSubshellEnd
    let r := r.mapEnvironment fun _ => e
    r.start now i

end Running

end NodeTrial.Shell
