import NodeTrial.Shell.Execution

/-!
A modelled machine: files, a clock, and child processes that run scripts. A child goes on only while
time passes, a bounded number of steps a millisecond, so that every wait comes to an end.
-/

namespace NodeTrial

structure Child where
  process : Shell.Process
  /-- The time at which it can go on, unless it sleeps. -/
  ready : Nat
  /-- Whether its end has been taken note of, so that it is gone. -/
  reaped : Bool

namespace Child

def pid (c : Child) : Nat := c.process.pid

def hasEnded (c : Child) : Bool := c.process.hasEnded

/-- The time at which something that a child does goes on; none if it does not go on by itself. -/
def dueOf (c : Child) : Shell.Activity → Option Nat
  | .ended _ => none
  | .halt => none
  | .sleep wake => some (max wake c.ready)
  | .await _ =>
    if c.process.jobs.all Shell.Job.hasEnded || !c.process.pending.isEmpty then some c.ready
    else none
  | _ => some c.ready

/-- The earlier of two times, of which each may be missing. -/
def earlier : Option Nat → Option Nat → Option Nat
  | none, b => b
  | a, none => a
  | some a, some b => some (min a b)

/-- The time at which a child or one of its jobs goes on; none if none does. -/
def due? (c : Child) : Option Nat :=
  c.process.jobs.foldl (fun t j => earlier t (c.dueOf j.activity)) (c.dueOf c.process.activity)

end Child

/-- A signal that comes to the program itself once a file is there and the operator has been shown
some text. -/
structure Appointment where
  path : String
  shown : String
  deriving DecidableEq, Repr

/-- What the watcher for signals waits for while the program goes on: that a child has ended, but no
longer than to some time. -/
structure Vigil where
  child : Nat
  deadline : Nat
  deriving DecidableEq, Repr

structure Machine where
  files : FileTree
  /-- The time in milliseconds. -/
  clock : Nat
  /-- The directory in which the program itself runs. -/
  directory : Place
  /-- The variables that children are started with, and their values. -/
  bindings : List (String × String)
  children : List Child
  nextPid : Nat
  /-- What the operator has been shown, last line first. -/
  shown : List String
  appointment? : Option Appointment
  /-- None unless the signal has come and the watcher is waiting. -/
  vigil? : Option Vigil
  date : String
  platform : String

namespace Machine

/-- How many steps a process makes in a millisecond. -/
def speed : Nat := 1000

def searchPath (m : Machine) : List String := ((m.bindings.lookup "PATH").getD "").splitOn ":"

def child? (m : Machine) (pid : Nat) : Option Child := m.children.find? (·.pid = pid)

def update (m : Machine) (pid : Nat) (f : Child → Child) : Machine :=
  { m with children := m.children.map fun c => if c.pid = pid then f c else c }

def isRunning (m : Machine) (pid : Nat) : Bool :=
  match m.child? pid with
  | some c => !c.hasEnded
  | none => false

/-- Whether a process of a number exists; the first of all always does. -/
def exists? (m : Machine) (pid : Nat) : Bool :=
  pid = 1 || match m.child? pid with
    | some c => !c.reaped
    | none => false

/-! ## Time -/

/-- Lets a child go on for a millisecond at most. -/
def burst (m : Machine) (c : Child) : Machine :=
  let r := Shell.Running.stepsOfAll m.clock speed ⟨c.process, m.files⟩
  { m with files := r.files }.update c.pid fun _ =>
    { c with process := r.process, ready := m.clock + 1 }

def next? (m : Machine) : Option (Nat × Child) :=
  m.children.foldl (fun best c =>
    match c.due?, best with
    | none, _ => best
    | some t, none => some (t, c)
    | some t, some (s, _) => if t < s then some (t, c) else best) none

/-- Lets time pass until something holds, but no longer than to some time; `count` bounds the
number of bursts. -/
def waitFrom (holds : Machine → Bool) (time : Nat) : (count : Nat) → Machine → Machine
  | 0, m => { m with clock := max m.clock time }
  | count + 1, m =>
    if holds m then m
    else
      match m.next? with
      | none => { m with clock := max m.clock time }
      | some (t, c) =>
        if time < t then { m with clock := max m.clock time }
        else waitFrom holds time count ({ m with clock := max m.clock t }.burst c)

/-- Lets time pass until something holds, but no longer than some milliseconds. A child makes one
burst a millisecond, which bounds their number. -/
def waitFor (m : Machine) (holds : Machine → Bool) (duration : Nat) : Machine :=
  waitFrom holds (m.clock + duration) ((m.children.length + 1) * (duration + 2)) m

def isSignalled (m : Machine) : Bool :=
  match m.appointment? with
  | none => false
  | some a =>
    (match m.files.find m.directory a.path with
      | .ok _ => true
      | .error _ => false) && m.shown.any fun line => Text.contains line a.shown

def isOver (m : Machine) (v : Vigil) : Bool := !m.isRunning v.child || v.deadline ≤ m.clock

/-- Whether the program is held up: the signal to it is due, or the wait of the watcher is over. -/
def isHeldUp (m : Machine) : Bool :=
  match m.vigil? with
  | some v => m.isOver v
  | none => m.isSignalled

/-- What is left of some milliseconds until the wait of the watcher is over at the latest. -/
def allowance (m : Machine) (duration : Nat) : Nat :=
  match m.vigil? with
  | some v => min duration (v.deadline - m.clock)
  | none => duration

/-- Lets some milliseconds pass, or fewer if the program is held up. -/
def pass (m : Machine) (duration : Nat) : Machine := m.waitFor isHeldUp (m.allowance duration)

/-! ## Children -/

def addChild (m : Machine) (directory : Place) (i : Shell.Image)
    (channels : List Shell.Channel) (descriptors : List (Nat × Nat)) : Nat × Machine :=
  let process : Shell.Process :=
    { pid := m.nextPid
      environment :=
        { name := i.name
          arguments := []
          bindings := m.bindings
          exported := m.bindings.map (·.1)
          functions := []
          directory
          descriptors
          traps := []
          exitOnFailure := false
          refusesAbsent := false
          traces := false
          lastJob := none
          status := 0 }
      frames := []
      activity := .become i
      jobs := []
      channels := channels.zipIdx.map fun (c, n) => (n, c)
      freshChannel := channels.length
      pending := [] }
  (m.nextPid,
    { m with
      children := m.children ++ [{ process, ready := m.clock, reaped := false }]
      nextPid := m.nextPid + 1 })

def startDirectory (m : Machine) : Option String → Except FileError Place
  | none => .ok m.directory
  | some path =>
    match m.files.find m.directory path with
    | .error e => .error e
    | .ok (_, .file _) => .error .notDirectory
    | .ok (place, .directory) => .ok place

def prepare (m : Machine) (program : String) (args : List String) (directory : Option String) :
    Except FileError (Shell.Image × Place) :=
  if (program :: args ++ directory.toList).any fun a => a.toList.contains '\x00' then
    .error .nulInArgument
  else
    match m.startDirectory directory with
    | .error e => .error e
    | .ok place =>
      (Shell.Image.load m.files place m.searchPath program args).map fun i => (i, place)

def signal (m : Machine) (pid : Nat) (s : Shell.Signal) : Machine :=
  m.update pid fun c =>
    if c.hasEnded then c
    else { c with process := ((Shell.Running.mk c.process m.files).deliver s).process }

/-- Whether there is a tool on the machine that sends signals. -/
def canSignal (m : Machine) : Bool :=
  match Shell.Image.load m.files m.directory m.searchPath "kill" [] with
  | .ok i => i.utility = .kill
  | .error _ => false

/-- Takes note of the end of a child, if it has ended. Tells whether it has. -/
def collect (m : Machine) (pid : Nat) : Bool × Machine :=
  match m.child? pid with
  | some c =>
    if c.hasEnded then (true, m.update pid fun c => { c with reaped := true }) else (false, m)
  | none => (true, m)

def kill (m : Machine) (pid : Nat) : Machine := m.signal pid .kill

end Machine

end NodeTrial
