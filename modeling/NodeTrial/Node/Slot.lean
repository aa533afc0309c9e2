import NodeTrial.Node.Handle
import NodeTrial.Surroundings

/-!
The slot that holds the one node of a run. Several threads share it: the run itself and the watcher
for interruptions. Each use of the slot is one section that nothing else interrupts; what a section
does is a computation on what the slot holds.
-/

namespace NodeTrial

inductive SlotSection
  | take
  /-- Put a node in; one that was there is given up. -/
  | put (h : NodeHandle)
  | confirm
  | running
  | occupied
  | pid

namespace SlotSection

def Answer : SlotSection → Type
  | take => Option NodeHandle
  | put _ => Unit
  | confirm => Except StartFailure Unit
  | running => Bool
  | occupied => Bool
  | pid => Option Pid

/-- The failure of a start whose node was taken out of the slot meanwhile. -/
def stoppedMeanwhile : StartFailure := ⟨"Process stopped during startup", ""⟩

def replace (new : NodeHandle) : Option NodeHandle → Care (Unit × Option NodeHandle)
  | none => pure ((), some new)
  | some old => do
    old.drop
    pure ((), some new)

/-- Looks whether the node in the slot is alive, and gives it up if not. -/
def confirmHeld : Option NodeHandle → Care (Except StartFailure Unit × Option NodeHandle)
  | none => pure (.error stoppedMeanwhile, none)
  | some h => do
    match ← h.confirm with
    | (.ok (), h) => pure (.ok (), some h)
    | (.error e, h) =>
      h.drop
      pure (.error e, none)

def lookAtHeld : Option NodeHandle → Care (Bool × Option NodeHandle)
  | none => pure (false, none)
  | some h => do
    let (alive, h) ← h.isAlive
    pure (alive, some h)

/-- What a section does: what it tells, and what the slot holds then. -/
def body : (q : SlotSection) → Option NodeHandle → Care (q.Answer × Option NodeHandle)
  | take, held => pure (held, none)
  | put h, held => replace h held
  | confirm, held => confirmHeld held
  | running, held => lookAtHeld held
  | occupied, held => pure (held.isSome, held)
  | pid, held => pure (held.bind (·.pid?), held)

end SlotSection

/-- A step of a thread: a question to the machine, a use of the slot, or another request of a
run. -/
inductive ThreadStep
  | machine (c : MachineCall)
  | slot (q : SlotSection)
  | request (q : Request)

def ThreadStep.Answer : ThreadStep → Type
  | machine c => c.Answer
  | slot q => q.Answer
  | request q => q.Answer

abbrev Thread := Dialogue ThreadStep ThreadStep.Answer

namespace Thread

def use (q : SlotSection) : Thread q.Answer := Dialogue.question (ThreadStep.slot q)

def take : Thread (Option NodeHandle) := use .take

def put (h : NodeHandle) : Thread Unit := use (.put h)

def confirm : Thread (Except StartFailure Unit) := use .confirm

def ask (c : MachineCall) : Thread c.Answer :=
  Dialogue.question (ThreadStep.machine c)

def request (q : Request) : Thread q.Answer :=
  Dialogue.question (ThreadStep.request q)

def care {α : Type} (c : Care α) : Thread α := c.run ask

end Thread

namespace NodeSlot

/-- Ends the node in the slot, if there is one. -/
def teardown : Thread Unit := do
  match ← Thread.take with
  | none => pure ()
  | some h =>
    let h ← Thread.care h.stop
    Thread.care h.drop

/-- Starts a node in the place of the one in the slot. The node is in the slot while it settles, so
that a teardown meanwhile ends it. -/
def start (l : Launch) : Thread (Except StartFailure Pid) := do
  teardown
  match ← Thread.care (NodeHandle.spawn l) with
  | .error e => pure (.error e)
  | .ok h =>
    Thread.put h
    Thread.care (NodeHandle.settle l.settle)
    match ← Thread.confirm with
    | .error e => pure (.error e)
    | .ok () => pure (.ok (h.pid?.getD 0))

def isRunning : Thread Bool := Thread.use .running

/-- Carries a thread out and ends what is in the slot then. -/
def guarded {α : Type} (t : Thread α) : Thread α := do
  let a ← t
  teardown
  pure a

end NodeSlot

/-- The steps that a request of a run takes: those that concern the node use the slot. -/
def Request.steps : (q : Request) → Thread q.Answer
  | .startNode l => NodeSlot.start l
  | .stopNode => NodeSlot.teardown
  | .nodeRunning => NodeSlot.isRunning
  | q => Thread.request q

def Trial.thread {α : Type} (t : Trial α) : Thread α := t.run Request.steps

end NodeTrial
