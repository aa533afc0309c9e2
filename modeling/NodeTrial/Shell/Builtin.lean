import NodeTrial.Shell.Starting

namespace NodeTrial.Shell

namespace Running

/-- A command of the shell met a fault: a message and a status. -/
def refuse (r : Running) (line : Nat) (name words : String) (status : Nat) : Running :=
  (r.complain (r.here line ++ name ++ ": " ++ words)).finish status

def abandon (r : Running) (line : Nat) (name words : String) : Running :=
  (r.complain (r.here line ++ name ++ ": " ++ words)).exit 2

/-! ## Signals and jobs -/

def killUse : String :=
  "Usage: kill [-s sigspec | -signum | -sigspec] [pid | job]... or
kill -l [exitstatus]"

/-- The signal and the processes that arguments name, or what is wrong with them. -/
def killArguments : List String → Except String (Option Signal × List String)
  | "-s" :: name :: rest =>
    if name = "0" then .ok (none, rest)
    else
      match Signal.ofText? name with
      | some s => .ok (some s, rest)
      | none => .error ("invalid signal number or name: " ++ name)
  | a :: rest =>
    if a = "--" then .ok (some .terminate, rest)
    else if a = "-0" then .ok (none, rest)
    else
      match a.toList with
      | '-' :: c :: cs =>
        match Signal.ofText? (String.ofList (c :: cs)) with
        | some s => .ok (some s, rest)
        | none =>
          if c = 's' then .error ("invalid signal number or name: " ++ String.ofList cs)
          else .error ("Illegal option -" ++ c.toString)
      | _ => .ok (some .terminate, a :: rest)
  | [] => .error killUse

/-- Sends a signal, or none, to one of the processes that the shell knows. -/
def sendTo (r : Running) (line : Nat) (s? : Option Signal) (target : String) : Running :=
  if target = toString r.process.pid then
    match s? with
    | some s => (r.finish 0).raise s
    | none => r.finish 0
  else
    match target.toNat? with
    | none => r.refuse line "kill" ("Illegal number: " ++ target) 2
    | some n =>
      match r.process.jobs.find? fun j => j.number = n && !j.hasEnded with
      | none => r.refuse line "kill" "No such process\n" 1
      | some _ =>
        match s? with
        | some s =>
          if s.effect = .ends then
            let jobs := r.process.jobs.map fun j =>
              if j.number = n then { j with activity := .ended (.signal s) } else j
            { r with process := { r.process with jobs } }.finish 0
          else r.finish 0
        | none => r.finish 0

def runKill (r : Running) (line : Nat) (args : List String) : Running :=
  match args with
  | ["-l", n] =>
    match n.toNat? with
    | none => r.refuse line "kill" ("Illegal number: " ++ n) 2
    | some n =>
      match Signal.all.find? fun s => s.number = n || s.number + 128 = n with
      | some s => (r.writeText 1 (s.name ++ "\n")).finish 0
      | none => r.refuse line "kill" "invalid signal number or exit status: " 2
  | _ =>
    match killArguments args with
    | .error words => r.refuse line "kill" words 2
    | .ok (_, []) => r.refuse line "kill" killUse 2
    | .ok (s?, targets) =>
      targets.foldl (fun r target =>
        match r.process.activity with
        | .goOn => r.sendTo line s? target
        | _ => r) (r.finish 0)

def trapEvent? (text : String) : Option TrapEvent :=
  if text = "EXIT" || text = "0" then some .exit else (Signal.ofText? text).map .signal

def runTrap (r : Running) (args : List String) : Running :=
  let (action, events) := match args with
    | [event] => ("-", [event])
    | action :: events => (action, events)
    | [] => ("-", [])
  events.foldl (fun r text =>
    match trapEvent? text with
    | none => (r.complain ("trap: " ++ text ++ ": bad trap")).finish 1
    | some event =>
      r.mapEnvironment fun e =>
        let others := e.traps.filter (·.1 != event)
        { e with traps := if action = "-" then others else (event, action) :: others })
    (r.finish 0)

def runWait (r : Running) (args : List String) : Running :=
  match args with
  | [] => r.act (.await none)
  | target :: _ =>
    match target.toNat? with
    | none => r.finish 127
    | some n =>
      if r.process.jobs.any fun j => j.number = n then r.act (.await (some n)) else r.finish 127

/-! ## Variables and options -/

def runExport (r : Running) (exports : Bool) (line : Nat) (name : String) (args : List String) :
    Running :=
  match args.find? fun a => !isName (String.ofList (a.toList.takeWhile (· != '='))) with
  | some a =>
    if a.startsWith "-" then r.finish 0
    else
      r.abandon line name
        (String.ofList (a.toList.takeWhile (· != '=')) ++ ": bad variable name")
  | none =>
    let set (e : Environment) (a : String) : Environment :=
      let e := match leadingAssignments [a] with
        | ([(name, value)], _) => e.set name value
        | _ => e
      if exports then e.withExported (String.ofList (a.toList.takeWhile (· != '='))) else e
    (r.mapEnvironment fun e => args.foldl set e).finish 0

/-- Remembers the value of a variable in the call that runs. -/
def rememberIn (name : String) (value : Option String) : List Frame → Option (List Frame)
  | [] => none
  | .leaveCall arguments values :: rest =>
    some (.leaveCall arguments (if values.any (·.1 = name) then values else (name, value) :: values)
      :: rest)
  | f :: rest => if isSubshellEnd f then none else (rememberIn name value rest).map (f :: ·)

def runLocal (r : Running) (line : Nat) (args : List String) : Running :=
  if !r.process.frames.any isCallEnd then r.abandon line "local" "not in a function"
  else
    args.foldl (fun r a =>
      let name := String.ofList (a.toList.takeWhile (· != '='))
      let e := r.process.environment
      match rememberIn name (e.get? name) r.process.frames with
      | none => r
      | some frames =>
        let environment := match leadingAssignments [a] with
          | ([(_, value)], _) => e.set name value
          | _ => e
        { r with process := { r.process with frames, environment } }) (r.finish 0)

/-- Sets options by their letters; what is wrong with them otherwise. -/
def withOptions (on : Bool) (letters : List Char) (e : Environment) : Except String Environment :=
  letters.foldlM (fun e c =>
    match c with
    | 'e' => .ok { e with exitOnFailure := on }
    | 'u' => .ok { e with refusesAbsent := on }
    | 'x' => .ok { e with traces := on }
    | c =>
      if "abCfhmnvVI".toList.contains c then .ok e else .error ("Illegal option -" ++ c.toString)) e

def optionLetters : String → List Char
  | "errexit" => ['e']
  | "nounset" => ['u']
  | "xtrace" => ['x']
  | _ => []

def runSet (r : Running) (line : Nat) (args : List String) : Running :=
  let apply (on : Bool) (letters : List Char) (rest : List String) : Running :=
    match withOptions on letters r.process.environment with
    | .error words => r.abandon line "set" words
    | .ok e =>
      (r.mapEnvironment fun _ => if rest.isEmpty then e else { e with arguments := rest }).finish 0
  match args with
  | "--" :: arguments => (r.mapEnvironment fun e => { e with arguments }).finish 0
  | "-o" :: name :: rest => apply true (optionLetters name) rest
  | "+o" :: name :: rest => apply false (optionLetters name) rest
  | a :: rest =>
    match a.toList with
    | '-' :: letters =>
      apply true letters (if rest.head? = some "--" then rest.drop 1 else rest)
    | '+' :: letters => apply false letters rest
    | _ => (r.mapEnvironment fun e => { e with arguments := args }).finish 0
  | [] => r.finish 0

def countArgument (args : List String) (fallback : Nat) : Nat :=
  match args with
  | a :: _ => (a.toNat?).getD fallback
  | [] => fallback

def runShift (r : Running) (line : Nat) (args : List String) : Running :=
  let n := countArgument args 1
  if r.process.environment.arguments.length < n then
    r.abandon line "shift" "can't shift that many"
  else (r.mapEnvironment fun e => { e with arguments := e.arguments.drop n }).finish 0

def runExit (r : Running) (line : Nat) (args : List String) : Running :=
  match args with
  | [] => r.exit r.process.environment.status
  | a :: _ =>
    match a.toNat? with
    | some n =>
      if n < Nat.pow 2 31 then r.exit n else r.abandon line "exit" ("Illegal number: " ++ a)
    | none => r.abandon line "exit" ("Illegal number: " ++ a)

/-! ## Directories, input and output -/

def runChangeDirectory (r : Running) (line : Nat) (args : List String) : Running :=
  let e := r.process.environment
  let path := match args with
    | "-" :: _ => (e.get? "OLDPWD").getD e.directoryPath
    | path :: _ => path
    | [] => (e.get? "HOME").getD e.directoryPath
  match r.files.find r.directory path with
  | .ok (place, .directory) =>
    let r := r.mapEnvironment fun e =>
      let changed := { e with directory := place }
      (changed.set "OLDPWD" e.directoryPath).set "PWD" changed.directoryPath
    (if args.head? = some "-" then r.writeText 1 (r.process.environment.directoryPath ++ "\n")
      else r).finish 0
  | _ => r.refuse line "cd" ("can't cd to " ++ path) 2

/-- The characters of a line with signs for those that a backslash protects. A line whose last
character is a backslash goes on. -/
def lineChars (raw : Bool) : List Char → List (Char × Bool)
  | [] => []
  | '\\' :: c :: cs => if raw then ('\\', false) :: lineChars raw (c :: cs)
    else (c, true) :: lineChars raw cs
  | c :: cs => (c, false) :: lineChars raw cs

/-- The names of variables with the fields of a line; the last one takes what is left. -/
def lineFields (separators : List Char) : List String → List (Char × Bool) →
    List (String × String)
  | [], _ => []
  | [name], cs =>
    let isEnd (c : Char × Bool) : Bool := !c.2 && separators.contains c.1 && isBlank c.1
    [(name, String.ofList ((cs.reverse.dropWhile isEnd).reverse.map (·.1)))]
  | name :: names, cs =>
    let isSeparator (c : Char × Bool) : Bool := !c.2 && separators.contains c.1
    let isGap (c : Char × Bool) : Bool := isSeparator c && isBlank c.1
    let field := cs.takeWhile (!isSeparator ·)
    let rest := (cs.drop field.length).dropWhile isGap
    let rest := match rest with
      | c :: more => if isSeparator c then more.dropWhile isGap else rest
      | [] => []
    (name, String.ofList (field.map (·.1))) :: lineFields separators names rest

def runRead (r : Running) (line : Nat) (args : List String) : Running :=
  let raw := args.head? = some "-r"
  let names := if raw then args.drop 1 else args
  if names.isEmpty then r.refuse line "read" "arg count" 2
  else
    let bytes := r.readable 0
    let text := bytes.takeWhile (· != 10)
    let r := r.consume 0 (text.length + 1)
    let separators := r.process.environment.separators
    let cs := (lineChars raw (Utf8.decodeLossy text)).dropWhile fun c =>
      !c.2 && separators.contains c.1 && isBlank c.1
    (r.mapEnvironment fun e =>
      (lineFields separators names cs).foldl (fun e (n, v) => e.set n v) e).finish
      (if text.length < bytes.length then 0 else 1)

def runEcho (r : Running) (line : Nat) (args : List String) : Running :=
  let (args, ending) := match args with
    | "-n" :: rest => (rest, "")
    | rest => (rest, "\n")
  let text := " ".intercalate args
  let (bytes, stop) := Format.escapedText (text.length + 1) text.toList
  let (status, r) := Utility.writeOr r (r.here line ++ "echo: echo: I/O error")
    (bytes ++ if stop then [] else ending.toUTF8.toList)
  r.finish status

/-! ## The commands by their names -/

/-- The commands that are never anything but commands of the shell. -/
def special? (r : Running) (line : Nat) (name : String) (args : List String) : Option Running :=
  let status := r.process.environment.status
  match name with
  | ":" => some (r.finish 0)
  | "exit" => some (r.runExit line args)
  | "return" => some (r.returnWith (countArgument args status))
  | "break" => some (leaveLoops false (max 1 (countArgument args 1)) r)
  | "continue" => some (leaveLoops true (max 1 (countArgument args 1)) r)
  | "eval" => some (r.runSource "eval: " (" ".intercalate args))
  | "export" => some (r.runExport true line name args)
  | "readonly" => some (r.runExport false line name args)
  | "unset" => some ((r.mapEnvironment fun e => args.foldl Environment.unset e).finish 0)
  | "shift" => some (r.runShift line args)
  | "set" => some (r.runSet line args)
  | "trap" => some (r.runTrap args)
  | "local" => some (r.runLocal line args)
  | "times" => some (r.finish 0)
  | "." =>
    match args with
    | path :: _ =>
      if path.toList.contains '/' then
        match r.files.read r.directory path with
        | .ok bytes =>
          let r := r.push (.leaveCall r.process.environment.arguments [])
          some (r.runSource ".: " (String.ofList (Utf8.decodeLossy bytes)))
        | .error e => some (r.abandon line "." (openFault "open" path e))
      else some (r.abandon line "." (path ++ ": not found"))
    | [] => some (r.finish 0)
  | _ => none

/-- The commands that the shell has beside programs of the same names. -/
def builtin? (r : Running) (line : Nat) (name : String) (args : List String) : Option Running :=
  let title := r.here line ++ name
  let done (result : Nat × Running) : Option Running := some (result.2.finish result.1)
  match name with
  | "echo" => some (r.runEcho line args)
  | "printf" => done (Utility.runPrintf r title (title ++ ": printf: I/O error") args)
  | "true" => some (r.finish 0)
  | "false" => some (r.finish 1)
  | "test" => done (Utility.runTest r title args)
  | "[" => done (Utility.runBracket r title args)
  | "pwd" =>
    done (Utility.writeOr r (title ++ ": pwd: I/O error")
      (r.process.environment.directoryPath ++ "\n").toUTF8.toList)
  | "cd" => some (r.runChangeDirectory line args)
  | "kill" => some (r.runKill line args)
  | "read" => some (r.runRead line args)
  | "wait" => some (r.runWait args)
  | "umask" => some ((r.writeText 1 "0022\n").finish 0)
  | "ulimit" | "hash" | "alias" | "unalias" | "jobs" => some (r.finish 0)
  | _ => none

def runType (r : Running) (name : String) : Running :=
  let known (words : String) : Running := (r.writeText 1 (name ++ " is " ++ words ++ "\n")).finish 0
  if keywords.contains name then known "a shell keyword"
  else if (r.process.environment.functions.lookup name).isSome then known "a shell function"
  else if (r.special? 0 name []).isSome then known "a special shell builtin"
  else if (r.builtin? 0 name []).isSome || name = "type" || name = "command" then
    known "a shell builtin"
  else
    match Image.location? r.files r.directory r.process.environment.searchPath name with
    | some path => known path
    | none => (r.writeText 1 (name ++ ": not found\n")).finish 127

def runLookup (r : Running) (name : String) : Running :=
  if (r.special? 0 name []).isSome || (r.builtin? 0 name []).isSome || keywords.contains name
      || (r.process.environment.functions.lookup name).isSome then
    (r.writeText 1 (name ++ "\n")).finish 0
  else
    match Image.location? r.files r.directory r.process.environment.searchPath name with
    | some path => (r.writeText 1 (path ++ "\n")).finish 0
    | none => r.finish 127

end Running

end NodeTrial.Shell
