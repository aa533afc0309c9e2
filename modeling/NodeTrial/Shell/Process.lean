import NodeTrial.FileTree.Change
import NodeTrial.Shell.Program
import NodeTrial.Shell.Syntax
import NodeTrial.Text.Utf8

namespace NodeTrial.Shell

/-- What a descriptor is connected to. -/
inductive Channel
  /-- Nothing: what is written is lost and there is nothing to read. -/
  | nothing
  /-- What is written is kept, last piece first. -/
  | kept (pieces : List (List UInt8))
  /-- A file, by its identity, and the place in it. -/
  | file (id : Nat) (offset : Nat) (append : Bool)
  /-- Bytes to read. -/
  | source (rest : List UInt8)
  deriving DecidableEq, Repr

inductive Signal
  | hangup
  | interrupt
  | quit
  | illegal
  | trap
  | abort
  | bus
  | arithmetic
  | kill
  | user1
  | segment
  | user2
  | pipe
  | alarm
  | terminate
  | child
  | goOn
  | stop
  | keyboardStop
  deriving DecidableEq, Repr

/-- What a signal does to a process that has no action of its own for it. -/
inductive SignalEffect
  | ends
  | stops
  | none
  deriving DecidableEq, Repr

namespace Signal

def all : List Signal :=
  [hangup, interrupt, quit, illegal, trap, abort, bus, arithmetic, kill, user1, segment, user2,
    pipe, alarm, terminate, child, goOn, stop, keyboardStop]

def name : Signal → String
  | hangup => "HUP"
  | interrupt => "INT"
  | quit => "QUIT"
  | illegal => "ILL"
  | trap => "TRAP"
  | abort => "ABRT"
  | bus => "BUS"
  | arithmetic => "FPE"
  | kill => "KILL"
  | user1 => "USR1"
  | segment => "SEGV"
  | user2 => "USR2"
  | pipe => "PIPE"
  | alarm => "ALRM"
  | terminate => "TERM"
  | child => "CHLD"
  | goOn => "CONT"
  | stop => "STOP"
  | keyboardStop => "TSTP"

def number : Signal → Nat
  | hangup => 1
  | interrupt => 2
  | quit => 3
  | illegal => 4
  | trap => 5
  | abort => 6
  | bus => 7
  | arithmetic => 8
  | kill => 9
  | user1 => 10
  | segment => 11
  | user2 => 12
  | pipe => 13
  | alarm => 14
  | terminate => 15
  | child => 17
  | goOn => 18
  | stop => 19
  | keyboardStop => 20

/-- What a shell says of a program that a signal ended; nothing for those that are usual. -/
def obituary : Signal → String
  | hangup => "Hangup\n"
  | quit => "Quit\n"
  | illegal => "Illegal instruction\n"
  | trap => "Trace/breakpoint trap\n"
  | abort => "Aborted\n"
  | bus => "Bus error\n"
  | arithmetic => "Floating point exception\n"
  | kill => "Killed\n"
  | user1 => "User defined signal 1\n"
  | segment => "Segmentation fault\n"
  | user2 => "User defined signal 2\n"
  | alarm => "Alarm clock\n"
  | terminate => "Terminated\n"
  | _ => ""

def effect : Signal → SignalEffect
  | child => .none
  | goOn => .none
  | stop => .stops
  | keyboardStop => .stops
  | _ => .ends

def ofText? (text : String) : Option Signal :=
  let upper := text.toUpper
  all.find? fun s => s.name = upper || toString s.number = text

end Signal

/-- When the action of a trap is carried out. -/
inductive TrapEvent
  | signal (s : Signal)
  | exit
  deriving DecidableEq, Repr

/-- What a shell knows; a subshell has a copy of its own. -/
structure Environment where
  name : String
  arguments : List String
  bindings : List (String × String)
  /-- The names of the variables that programs are started with. -/
  exported : List String
  functions : List (String × Command)
  directory : Place
  /-- The numbers of the channels by descriptor. -/
  descriptors : List (Nat × Nat)
  /-- The actions of traps; an empty one means that the event is ignored. -/
  traps : List (TrapEvent × String)
  /-- Whether a command that fails ends the shell. -/
  exitOnFailure : Bool
  /-- Whether the use of an absent parameter ends the shell. -/
  refusesAbsent : Bool
  /-- Whether commands are shown before they are carried out. -/
  traces : Bool
  lastJob : Option Nat
  status : Nat

namespace Environment

def get? (e : Environment) (name : String) : Option String := e.bindings.lookup name

def set (e : Environment) (name value : String) : Environment :=
  { e with bindings := (name, value) :: e.bindings.filter (·.1 != name) }

def unset (e : Environment) (name : String) : Environment :=
  { e with
    bindings := e.bindings.filter (·.1 != name)
    exported := e.exported.filter (· != name) }

def withExported (e : Environment) (name : String) : Environment :=
  { e with exported := name :: e.exported.filter (· != name) }

def separators (e : Environment) : List Char := ((e.get? "IFS").getD " \t\n").toList

def connect (e : Environment) (descriptor channel : Nat) : Environment :=
  { e with descriptors := (descriptor, channel) :: e.descriptors.filter (·.1 != descriptor) }

def disconnect (e : Environment) (descriptor : Nat) : Environment :=
  { e with descriptors := e.descriptors.filter (·.1 != descriptor) }

def directoryPath (e : Environment) : String := "/" ++ "/".intercalate e.directory

def searchPath (e : Environment) : List String :=
  ((e.get? "PATH").getD "").splitOn ":"

end Environment

/-- What is to be done when the current command is done. -/
inductive Frame
  | next (c : Command)
  | onSuccess (c : Command)
  | onFailure (c : Command)
  | negate
  | choose (yes no : Command)
  /-- The condition of a loop was carried out. -/
  | tested (truth : Bool) (condition body : Command)
  /-- The body of a loop was carried out. -/
  | again (truth : Bool) (condition body : Command)
  | each (name : String) (rest : List String) (body : Command)
  | leaveSubshell (saved : Environment)
  /-- A program that was started has come to its end. -/
  | leaveProgram (saved : Environment)
  | leaveRedirections (saved : List (Nat × Nat))
  /-- A command has come to its end whose variables get back the values that they had. -/
  | leaveAssignments (values : List (String × Option String)) (exported : List String)
  /-- A call has come to its end; variables of its own get back the values that they had. -/
  | leaveCall (arguments : List String) (values : List (String × Option String))
  /-- The output in a channel belongs into the command. -/
  | capture (channel : Nat) (c : Command)
  /-- The output in a channel is the input of the command. -/
  | feed (channel : Nat) (c : Command)
  /-- The action of a trap was carried out, and the status is as before. -/
  | leaveTrap (status : Nat)

inductive Exit
  | code (n : Nat)
  | signal (s : Signal)
  deriving DecidableEq, Repr

/-- What a process does next. -/
inductive Activity
  /-- Become a program. -/
  | become (i : Image)
  | carryOut (c : Command)
  | goOn
  /-- Sleep until a point of time, in milliseconds. -/
  | sleep (wake : Nat)
  /-- Stand still until a signal comes. -/
  | halt
  /-- Wait for the end of jobs: for all, or for one whose status is then taken. -/
  | await (number : Option Nat)
  | ended (exit : Exit)

structure Job where
  number : Nat
  environment : Environment
  frames : List Frame
  activity : Activity

namespace Job

def hasEnded (j : Job) : Bool :=
  match j.activity with
  | .ended _ => true
  | _ => false

end Job

structure Process where
  pid : Nat
  environment : Environment
  frames : List Frame
  activity : Activity
  jobs : List Job
  /-- The channels by number. -/
  channels : List (Nat × Channel)
  freshChannel : Nat
  /-- The signals whose actions are still to be carried out. -/
  pending : List Signal

namespace Process

def hasEnded (p : Process) : Bool :=
  match p.activity with
  | .ended _ => true
  | _ => false

def openChannel (p : Process) (c : Channel) : Nat × Process :=
  (p.freshChannel,
    { p with channels := (p.freshChannel, c) :: p.channels, freshChannel := p.freshChannel + 1 })

def channel? (p : Process) (number : Nat) : Option Channel := p.channels.lookup number

def setChannel (p : Process) (number : Nat) (c : Channel) : Process :=
  { p with channels := p.channels.map fun (n, old) => (n, if n = number then c else old) }

/-- The pieces that were written to a channel that keeps them. -/
def keptPieces (p : Process) (number : Nat) : List (List UInt8) :=
  match p.channel? number with
  | some (.kept pieces) => pieces.reverse
  | _ => []

def keptBytes (p : Process) (number : Nat) : List UInt8 := (p.keptPieces number).flatten

def connectNew (p : Process) (descriptor : Nat) (c : Channel) : Process :=
  let (n, p) := p.openChannel c
  { p with environment := p.environment.connect descriptor n }

def setStatus (p : Process) (status : Nat) : Process :=
  { p with environment := { p.environment with status } }

end Process

/-- The content of a file with some bytes written at a place; a gap before them is filled with
zeros. -/
def overwrite (content : List UInt8) (offset : Nat) (bytes : List UInt8) : List UInt8 :=
  let front := content.take offset
  front ++ List.replicate (offset - front.length) 0 ++ bytes ++ content.drop (offset + bytes.length)

structure Running where
  process : Process
  files : FileTree

namespace Running

/-- Writes bytes to a descriptor; one that is closed loses them. Tells whether it was open. -/
def write (r : Running) (descriptor : Nat) (bytes : List UInt8) : Bool × Running :=
  match r.process.environment.descriptors.lookup descriptor with
  | none => (false, r)
  | some number =>
    match r.process.channel? number with
    | none => (false, r)
    | some .nothing => (true, r)
    | some (.source _) => (false, r)
    | some (.kept pieces) =>
      (true, { r with process := r.process.setChannel number (.kept (bytes :: pieces)) })
    | some (.file id offset append) =>
      let offset := if append then ((r.files.fileOf? id).map (·.2.content.length)).getD offset
        else offset
      (true,
        { process := r.process.setChannel number (.file id (offset + bytes.length) append)
          files := r.files.changeContent id fun content => overwrite content offset bytes })

def writeText (r : Running) (descriptor : Nat) (text : String) : Running :=
  (r.write descriptor text.toUTF8.toList).2

def readable (r : Running) (descriptor : Nat) : List UInt8 :=
  match r.process.environment.descriptors.lookup descriptor with
  | none => []
  | some number =>
    match r.process.channel? number with
    | some (.source rest) => rest
    | some (.file id offset _) => ((r.files.fileOf? id).map (·.2.content.drop offset)).getD []
    | _ => []

def consume (r : Running) (descriptor count : Nat) : Running :=
  match r.process.environment.descriptors.lookup descriptor with
  | none => r
  | some number =>
    match r.process.channel? number with
    | some (.source rest) =>
      { r with process := r.process.setChannel number (.source (rest.drop count)) }
    | some (.file id offset append) =>
      { r with process := r.process.setChannel number (.file id (offset + count) append) }
    | _ => r

def mapEnvironment (r : Running) (f : Environment → Environment) : Running :=
  { r with process := { r.process with environment := f r.process.environment } }

def setStatus (r : Running) (status : Nat) : Running :=
  { r with process := r.process.setStatus status }

def act (r : Running) (a : Activity) : Running :=
  { r with process := { r.process with activity := a } }

def finish (r : Running) (status : Nat) : Running := (r.setStatus status).act .goOn

def push (r : Running) (f : Frame) : Running :=
  { r with process := { r.process with frames := f :: r.process.frames } }

end Running

end NodeTrial.Shell
