import NodeTrial.Shell.Format
import NodeTrial.Shell.Process

namespace NodeTrial.Shell

namespace Running

def complain (r : Running) (message : String) : Running := r.writeText 2 (message ++ "\n")

def directory (r : Running) : Place := r.process.environment.directory

/-- The running process with changed files, or with a message and a status of failure. -/
def withFiles (r : Running) (status : Nat) (message : String) :
    Except FileError FileTree → Nat × Running
  | .ok files => (status, { r with files })
  | .error e => (1, r.complain (message ++ ": " ++ e.words))

/-- Does something with each of some arguments; the status is the worst. -/
def forEach (r : Running) (arguments : List String) (f : Running → String → Nat × Running) :
    Nat × Running :=
  arguments.foldl (fun (status, r) a =>
    let (s, r) := f r a
    (max status s, r)) (0, r)

end Running

namespace Utility

/-- The options in front of the arguments, each a sign and letters, and the arguments. -/
def options : List String → List Char × List String
  | [] => ([], [])
  | a :: rest =>
    if a = "--" then ([], rest)
    else if a.startsWith "-" && a != "-" then
      let (letters, rest) := options rest
      (a.toList.drop 1 ++ letters, rest)
    else ([], a :: rest)

def duration? (text : String) : Option Nat :=
  let whole := text.toList.takeWhile Char.isDigit
  let rest := text.toList.drop whole.length
  let (fraction, rest) := match rest with
    | '.' :: rest =>
      let ds := rest.takeWhile Char.isDigit
      (ds, rest.drop ds.length)
    | _ => ([], rest)
  let unit? := match rest with
    | [] | ['s'] => some 1
    | ['m'] => some 60
    | ['h'] => some 3600
    | ['d'] => some 86400
    | _ => none
  if whole.isEmpty && fraction.isEmpty then none
  else
    unit?.map fun unit =>
      let value (cs : List Char) := ((String.ofList cs).toNat?).getD 0
      (value whole * 1000 + value ((fraction ++ ['0', '0', '0']).take 3)) * unit

/-! ### Tests -/

inductive TestSign
  | nothing
  | either
  | both
  | negation
  | opening
  | closing
  | unary (sign : String)
  | binary (sign : String)
  | operand
  deriving DecidableEq, Repr

def testSign? (word : String) : Option TestSign :=
  let unarySigns :=
    ["-r", "-w", "-x", "-e", "-f", "-d", "-c", "-b", "-p", "-u", "-g", "-k", "-s", "-t", "-z", "-n",
      "-h", "-O", "-G", "-L", "-S"]
  let binarySigns :=
    ["=", "!=", "<", ">", "-eq", "-ne", "-gt", "-ge", "-lt", "-le", "-nt", "-ot", "-ef"]
  if word = "-o" then some .either
  else if word = "-a" then some .both
  else if word = "!" then some .negation
  else if word = "(" then some .opening
  else if word = ")" then some .closing
  else if unarySigns.contains word then some (.unary word)
  else if binarySigns.contains word then some (.binary word)
  else none

def isBinarySign (word : String) : Bool :=
  match testSign? word with
  | some (.binary _) => true
  | _ => false

/-- The meaning of the first of some words, which depends on those behind it. -/
def testSign : List String → TestSign
  | [] => .nothing
  | w :: rest =>
    match testSign? w, rest with
    | some (.unary _), [] => .operand
    | some (.unary sign), [_] => .unary sign
    | some (.unary sign), b :: _ => if isBinarySign b then .operand else .unary sign
    | some .opening, [] => .operand
    | some sign, _ => sign
    | none, _ => .operand

def unaryTruth (r : Running) (sign text : String) : Bool :=
  match sign with
  | "-n" => !text.isEmpty
  | "-z" => text.isEmpty
  | "-t" => false
  | _ =>
    match r.files.find r.directory text with
    | .error _ => text = "/dev/null" && ["-e", "-c", "-r", "-w", "-O", "-G"].contains sign
    | .ok (_, entry) =>
      match sign, entry with
      | "-f", .file _ => true
      | "-d", .directory => true
      | "-s", .file f => !f.content.isEmpty
      | "-s", .directory => true
      | "-x", .file f => f.executable
      | "-x", .directory => true
      | _, _ => ["-e", "-r", "-w", "-O", "-G"].contains sign

def numberOperand (text : String) : Except String Int :=
  match decimalOf? text with
  | some n => .ok n
  | none => .error ("Illegal number: " ++ text)

def binaryTruth (a sign b : String) : Except String Bool :=
  let numbers (f : Int → Int → Bool) : Except String Bool := do
    let m ← numberOperand a
    let n ← numberOperand b
    .ok (f m n)
  match sign with
  | "=" => .ok (a = b)
  | "!=" => .ok (a != b)
  | "<" => .ok (a < b)
  | ">" => .ok (b < a)
  | "-eq" => numbers fun m n => m == n
  | "-ne" => numbers fun m n => m != n
  | "-lt" => numbers fun m n => m < n
  | "-le" => numbers fun m n => m ≤ n
  | "-gt" => numbers fun m n => n < m
  | "-ge" => numbers fun m n => n ≤ m
  | _ => .ok false

/-- The truth of a part of a test, and the words from the last one of it on. -/
abbrev TestResult := Except String (Bool × List String)

mutual

def anyOf (r : Running) : (fuel : Nat) → TestSign → List String → TestResult
  | 0, _, ws => .ok (false, ws)
  | fuel + 1, sign, ws => do
    let (a, last) ← allOf r fuel sign ws
    match testSign (last.drop 1) with
    | .either =>
      let (b, last) ← anyOf r fuel (testSign (last.drop 2)) (last.drop 2)
      .ok (a || b, last)
    | _ => .ok (a, last)

def allOf (r : Running) : (fuel : Nat) → TestSign → List String → TestResult
  | 0, _, ws => .ok (false, ws)
  | fuel + 1, sign, ws => do
    let (a, last) ← negatable r fuel sign ws
    match testSign (last.drop 1) with
    | .both =>
      let (b, last) ← allOf r fuel (testSign (last.drop 2)) (last.drop 2)
      .ok (a && b, last)
    | _ => .ok (a, last)

def negatable (r : Running) : (fuel : Nat) → TestSign → List String → TestResult
  | 0, _, ws => .ok (false, ws)
  | fuel + 1, sign, ws =>
    if sign = .negation then do
      let next := testSign (ws.drop 1)
      let (a, last) ← negatable r fuel next (if next = .nothing then ws else ws.drop 1)
      .ok (!a, last)
    else condition r fuel sign ws

def condition (r : Running) : (fuel : Nat) → TestSign → List String → TestResult
  | 0, _, ws => .ok (false, ws)
  | fuel + 1, sign, ws =>
    match sign, ws with
    | .nothing, _ => .ok (false, ws)
    | _, [] => .ok (false, ws)
    | .opening, _ :: rest =>
      match testSign rest with
      | .closing => .ok (false, rest)
      | next => do
        let (a, last) ← anyOf r fuel next rest
        if testSign (last.drop 1) = .closing then .ok (a, last.drop 1)
        else .error "closing paren expected"
    | .unary sign, _ :: rest =>
      match rest with
      | [] => .error (sign ++ ": argument expected")
      | text :: _ => .ok (unaryTruth r sign text, rest)
    | _, a :: rest =>
      match testSign rest, rest with
      | .binary sign, _ :: b :: more => do .ok (← binaryTruth a sign b, b :: more)
      | .binary sign, _ => .error (sign ++ ": argument expected")
      | _, _ => .ok (!a.isEmpty, ws)

end

/-- The truth of a test. Three words with a sign in the middle are a condition whatever the first
one is, and three or four may stand in parentheses or behind a sign of negation. -/
def testTruth (r : Running) (ws : List String) : Except String Bool := do
  let fuel := 6 * ws.length + 6
  let (negated, sign, ws) :=
    if ws.length = 3 && ((ws[1]?).map isBinarySign).getD false then (false, TestSign.operand, ws)
    else if ws.length = 3 || ws.length = 4 then
      if ws.head? = some "(" && ws.getLast? = some ")" then
        (false, testSign (ws.dropLast.drop 1), ws.dropLast.drop 1)
      else if ws.head? = some "!" then (true, testSign (ws.drop 1), ws.drop 1)
      else (false, testSign ws, ws)
    else (false, testSign ws, ws)
  let (truth, last) ← anyOf r fuel sign ws
  match last with
  | w :: _ :: _ => .error (w ++ ": unexpected operator")
  | _ => .ok (truth != negated)

/-- Carries out a test: the status is 0 if it holds, 1 if not, and 2 if it has no meaning. -/
def runTest (r : Running) (title : String) (ws : List String) : Nat × Running :=
  if ws.isEmpty then (1, r)
  else
    match testTruth r ws with
    | .ok true => (0, r)
    | .ok false => (1, r)
    | .error message => (2, r.complain (title ++ ": " ++ message))

/-- Carries out a test whose last word has to be a bracket. -/
def runBracket (r : Running) (title : String) (ws : List String) : Nat × Running :=
  match ws.reverse with
  | "]" :: rest => runTest r title rest.reverse
  | _ => (2, r.complain (title ++ ": missing ]"))

/-! ### Output -/

/-- Writes bytes, or a message if the output is closed. -/
def writeOr (r : Running) (message : String) (bytes : List UInt8) : Nat × Running :=
  if bytes.isEmpty then (0, r)
  else
    let (isOpen, written) := r.write 1 bytes
    if isOpen then (0, written) else (1, r.complain message)

def runPrintf (r : Running) (title fault : String) (arguments : List String) : Nat × Running :=
  let isMarked := arguments.head? = some "--"
  match (if isMarked then arguments.drop 1 else arguments) with
  | [] => (2, r.complain (title ++ ": usage: printf format [arg ...]"))
  | format :: rest =>
    match (if isMarked then [] else format.toList) with
    | '-' :: c :: _ => (2, r.complain (title ++ ": Illegal option -" ++ c.toString))
    | _ =>
      let f := Format.printf format rest
      let r := f.warnings.foldl (fun r w => r.complain (title ++ ": " ++ w)) r
      let (status, r) := writeOr r fault f.bytes
      match f.fault with
      | some words => (2, r.complain (title ++ ": " ++ words))
      | none => (if f.warnings.isEmpty then status else 1, r)

def runCat (r : Running) (arguments : List String) : Nat × Running :=
  let arguments := if arguments.isEmpty then ["-"] else arguments
  if (r.process.environment.descriptors.lookup 1).isNone then
    (1, r.complain "cat: standard output: Bad file descriptor")
  else
    r.forEach arguments fun r a =>
      if a = "-" then
        let bytes := r.readable 0
        (0, ((r.consume 0 bytes.length).write 1 bytes).2)
      else if a = "/dev/null" then (0, r)
      else
        match r.files.read r.directory a with
        | .ok bytes => (0, (r.write 1 bytes).2)
        | .error e => (1, r.complain ("cat: " ++ a ++ ": " ++ e.words))

def removeTree (t : FileTree) (p : Place) : FileTree :=
  { t with entries := t.entries.filter fun (q, _) => !p.isPrefixOf q }

def runRm (r : Running) (arguments : List String) : Nat × Running :=
  let (letters, names) := options arguments
  let force := letters.contains 'f'
  let recursive := letters.contains 'r' || letters.contains 'R'
  r.forEach names fun r a =>
    let refuse (words : String) := (1, r.complain ("rm: cannot remove '" ++ a ++ "': " ++ words))
    match r.files.find r.directory a with
    | .error .notFound => if force then (0, r) else refuse FileError.notFound.words
    | .error e => refuse e.words
    | .ok (p, .file _) => (0, { r with files := r.files.erase p })
    | .ok (p, .directory) =>
      if recursive then (0, { r with files := removeTree r.files p })
      else refuse FileError.isDirectory.words

def runMkdir (r : Running) (arguments : List String) : Nat × Running :=
  let (letters, names) := options arguments
  r.forEach names fun r a =>
    let message := "mkdir: cannot create directory '" ++ a ++ "'"
    if letters.contains 'p' then
      let (files, result) := r.files.createDirectories r.directory a
      { r with files }.withFiles 0 message (result.map fun () => files)
    else r.withFiles 0 message (r.files.makeDirectory r.directory a)

def runRmdir (r : Running) (arguments : List String) : Nat × Running :=
  r.forEach (options arguments).2 fun r a =>
    r.withFiles 0 ("rmdir: failed to remove '" ++ a ++ "'") (r.files.removeDirectory r.directory a)

def runTouch (r : Running) (arguments : List String) : Nat × Running :=
  r.forEach (options arguments).2 fun r a =>
    if r.files.isDirectory r.directory a then (0, r)
    else
      r.withFiles 0 ("touch: cannot touch '" ++ a ++ "'")
        ((r.files.openForWriting r.directory a false).map (·.1))

/-- The path of an entry when it is brought to a target that may be a directory. -/
def arrival (r : Running) (source target : String) : String :=
  if r.files.isDirectory r.directory target then
    match (Path.parts source).getLast? with
    | some name => Path.join target name
    | none => target
  else target

def runMv (r : Running) (arguments : List String) : Nat × Running :=
  match (options arguments).2.reverse with
  | target :: sources@(_ :: _) =>
    r.forEach sources.reverse fun r a =>
      match r.files.find r.directory a with
      | .error e => (1, r.complain ("mv: cannot stat '" ++ a ++ "': " ++ e.words))
      | .ok _ =>
        r.withFiles 0 ("mv: cannot move '" ++ a ++ "' to '" ++ target ++ "'")
          (r.files.move r.directory a (arrival r a target))
  | _ => (1, r.complain "mv: missing file operand")

def runCp (r : Running) (arguments : List String) : Nat × Running :=
  match (options arguments).2.reverse with
  | target :: sources@(_ :: _) =>
    r.forEach sources.reverse fun r a =>
      match r.files.find r.directory a with
      | .error e => (1, r.complain ("cp: cannot stat '" ++ a ++ "': " ++ e.words))
      | .ok (_, .directory) =>
        (1, r.complain ("cp: -r not specified; omitting directory '" ++ a ++ "'"))
      | .ok (_, .file f) =>
        let path := arrival r a target
        match r.files.openForWriting r.directory path true with
        | .error e =>
          (1, r.complain ("cp: cannot create regular file '" ++ path ++ "': " ++ e.words))
        | .ok (files, id) =>
          match files.fileOf? id with
          | some (p, new) =>
            (0, { r with files := files.put p (.file { new with
              content := f.content
              executable := f.executable || new.executable }) })
          | none => (0, { r with files })
  | _ => (1, r.complain "cp: missing file operand")

def runLs (r : Running) (arguments : List String) : Nat × Running :=
  let (letters, names) := options arguments
  let names := if names.isEmpty then ["."] else names
  r.forEach names fun r a =>
    match r.files.find r.directory a with
    | .error e => (2, r.complain ("ls: cannot access '" ++ a ++ "': " ++ e.words))
    | .ok (_, .file _) => (0, r.writeText 1 (a ++ "\n"))
    | .ok (p, .directory) =>
      let shown := (r.files.names p).filter fun n => letters.contains 'a' || !n.startsWith "."
      (0, r.writeText 1 (String.join (shown.map (· ++ "\n"))))

/-- The executable flag after a mode was set. -/
def modeMeansExecutable (mode : String) (old : Bool) : Bool :=
  if mode.toList.all Char.isDigit then
    mode.toList.any fun c => (c.toNat - 48) % 2 = 1
  else if mode.toList.contains 'x' then mode.toList.contains '+' || mode.toList.contains '='
  else old

def runChmod (r : Running) (arguments : List String) : Nat × Running :=
  match arguments with
  | [] => (1, r.complain "chmod: missing operand")
  | mode :: names =>
    r.forEach names fun r a =>
      match r.files.find r.directory a with
      | .error e => (1, r.complain ("chmod: cannot access '" ++ a ++ "': " ++ e.words))
      | .ok (_, .directory) => (0, r)
      | .ok (p, .file f) =>
        (0, { r with files := r.files.put p (.file { f with
          executable := modeMeansExecutable mode f.executable }) })

/-- The lines of some bytes, each with the line feed that ends it. -/
def byteLines (bytes : List UInt8) : List (List UInt8) :=
  let (lines, last) := bytes.foldl (fun (lines, line) b =>
    if b = 10 then ((b :: line).reverse :: lines, []) else (lines, b :: line))
    (([], []) : List (List UInt8) × List UInt8)
  (if last.isEmpty then lines else last.reverse :: lines).reverse

structure Portion where
  inBytes : Bool
  count : Nat
  files : List String

def portion : List String → Portion
  | "-n" :: n :: rest => ⟨false, n.toNat?.getD 10, rest⟩
  | "-c" :: n :: rest => ⟨true, n.toNat?.getD 10, rest⟩
  | a :: rest =>
    match a.toList with
    | '-' :: 'n' :: ds => ⟨false, (String.ofList ds).toNat?.getD 10, rest⟩
    | '-' :: 'c' :: ds => ⟨true, (String.ofList ds).toNat?.getD 10, rest⟩
    | '-' :: d :: ds => ⟨false, (String.ofList (d :: ds)).toNat?.getD 10, rest⟩
    | _ => ⟨false, 10, a :: rest⟩
  | [] => ⟨false, 10, []⟩

/-- The bytes of the first file that is named, or of the input. -/
def inputOf (r : Running) (name : String) (files : List String) :
    Except String (List UInt8 × Running) :=
  match files with
  | [] =>
    let bytes := r.readable 0
    .ok (bytes, r.consume 0 bytes.length)
  | "/dev/null" :: _ => .ok ([], r)
  | a :: _ =>
    match r.files.read r.directory a with
    | .ok bytes => .ok (bytes, r)
    | .error e => .error (name ++ ": cannot open '" ++ a ++ "' for reading: " ++ e.words)

def runPortion (r : Running) (name : String) (front : Bool) (arguments : List String) :
    Nat × Running :=
  let p := portion arguments
  if p.files = ["/dev/zero"] && p.inBytes && front then
    (0, (r.write 1 (List.replicate p.count 0)).2)
  else match inputOf r name p.files with
  | .error message => (1, r.complain message)
  | .ok (bytes, r) =>
    let cut {α : Type} (l : List α) := if front then l.take p.count else l.drop (l.length - p.count)
    (0, (r.write 1 (if p.inBytes then cut bytes else (cut (byteLines bytes)).flatten)).2)

def runWc (r : Running) (arguments : List String) : Nat × Running :=
  let (letters, files) := options arguments
  match inputOf r "wc" files with
  | .error message => (1, r.complain message)
  | .ok (bytes, r) =>
    let lines := bytes.count 10
    let words := ((Utf8.decodeLossy bytes).foldl (fun (n, inside) c =>
      if c.isWhitespace then (n, false) else (if inside then n else n + 1, true))
      (0, false)).1
    let shown :=
      if letters.contains 'l' then toString lines
      else if letters.contains 'w' then toString words
      else if letters.contains 'c' then toString bytes.length
      else toString lines ++ " " ++ toString words ++ " " ++ toString bytes.length
    (0, r.writeText 1 (shown ++ (files.head?.map (" " ++ ·)).getD "" ++ "\n"))

def runSeq (r : Running) (arguments : List String) : Nat × Running :=
  let (first, step, last) := match arguments.map (·.toInt?.getD 0) with
    | [last] => (1, 1, last)
    | [first, last] => (first, 1, last)
    | first :: step :: last :: _ => (first, step, last)
    | [] => (1, 1, 0)
  let count := if step = 0 then 0 else ((last - first) / step + 1).toNat
  (0, r.writeText 1 (String.join ((List.range count).map fun (i : Nat) =>
    toString (first + step * Int.ofNat i) ++ "\n")))

/-- Runs a utility; the shell and the runner of commands are left to the process itself. -/
def run (u : Utility) (now : Nat) (arguments : List String) (r : Running) : Running :=
  let done (result : Nat × Running) := result.2.finish result.1
  let closed (name : String) := name ++ ": write error: Bad file descriptor"
  match u with
  | sh | env => r.finish 0
  | succeed => r.finish 0
  | fail => r.finish 1
  | sleep =>
    let hint := "Try 'sleep --help' for more information."
    match arguments.mapM duration? with
    | some (d :: ds) => r.act (.sleep (ds.foldl (· + ·) (now + d)))
    | some [] => ((r.complain "sleep: missing operand").complain hint).finish 1
    | none =>
      let wrong := (arguments.find? fun a => (duration? a).isNone).getD ""
      ((r.complain ("sleep: invalid time interval '" ++ wrong ++ "'")).complain hint).finish 1
  | cat => done (runCat r arguments)
  | echo =>
    let (arguments, ending) := match arguments with
      | "-n" :: rest => (rest, "")
      | rest => (rest, "\n")
    done (writeOr r (closed "echo") (" ".intercalate arguments ++ ending).toUTF8.toList)
  | printf => done (runPrintf r "printf" (closed "printf") arguments)
  | test => done (runTest r "test" arguments)
  | bracket => done (runBracket r "[" arguments)
  | pwd =>
    let line := r.process.environment.directoryPath ++ "\n"
    done (writeOr r (closed "pwd") line.toUTF8.toList)
  | rm => done (runRm r arguments)
  | rmdir => done (runRmdir r arguments)
  | mkdir => done (runMkdir r arguments)
  | touch => done (runTouch r arguments)
  | mv => done (runMv r arguments)
  | cp => done (runCp r arguments)
  | ls => done (runLs r arguments)
  | chmod => done (runChmod r arguments)
  | head => done (runPortion r "head" true arguments)
  | tail => done (runPortion r "tail" false arguments)
  | wc => done (runWc r arguments)
  | seq => done (runSeq r arguments)
  | basename =>
    (r.writeText 1 (((Path.parts (arguments.head?.getD "")).getLast?).getD "/" ++ "\n")).finish 0
  | dirname =>
    let path := arguments.head?.getD ""
    (r.writeText 1 ((match Path.parent? path with
      | some "" | none => if Path.isAbsolute path then "/" else "."
      | some p => p) ++ "\n")).finish 0
  | kill => (r.complain "kill: No such process").finish 1

end Utility

end NodeTrial.Shell
