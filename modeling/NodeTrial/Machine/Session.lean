import NodeTrial.Machine.Care
import NodeTrial.Machine.Tool
import NodeTrial.Network

/-!
Threads on a modelled machine. The machine has no network, so that no request to it is answered. When
a signal to the program itself has come, its watcher takes steps beside what is under way.
-/

namespace NodeTrial.Machine

/-- Answers the requests of a run that do not concern the node. The machine has no node of its own:
the one in the slot is used by steps of their own. -/
def serve (limits : ToolLimits) : (q : Request) → StateM Machine q.Answer
  | .tool i => runTool limits i
  | .status url => pure (.error (.unansweredStatus url))
  | .call url method _ => pure (.error (.unansweredCall url method))
  | .startNode _ => pure (.error SlotSection.stoppedMeanwhile)
  | .stopNode => pure ()
  | .nodeRunning => pure false
  | .isFile path => fun m => (m.files.isFile m.directory path, m)
  | .createDirectories path => answer (.createDirectories path)
  | .writeFile path text => fun m =>
    let (files, written) := m.files.write m.directory path (Utf8.encode text.toList) .ample
    (written, { m with files })
  | .moveFile source target => fun m =>
    match m.files.move m.directory source target with
    | .error e => (.error e, m)
    | .ok files => (.ok (), { m with files })
  | .pause time => fun m => ((), m.pass time)
  | .time => fun m => (m.date, m)
  | .platform => fun m => (m.platform, m)
  | .tell line => fun m => ((), { m with shown := line :: m.shown })

namespace WithSlot

def onMachine {α : Type} (f : StateM Machine α) : StateM WithSlot α := fun w =>
  let (a, machine) := f.run w.machine
  (a, { w with machine })

def step (limits : ToolLimits) : (s : ThreadStep) → StateM WithSlot s.Answer
  | .machine c => onMachine (answer c)
  | .slot q => use q
  | .request q => onMachine (serve limits q)

def perform {α : Type} (limits : ToolLimits) (w : WithSlot) (t : Thread α) : α × WithSlot :=
  (t.run (step limits)).run w

/-- What is left of a step that was held up after some milliseconds: of a pause, the rest of it. -/
def remainder (elapsed : Nat) : ThreadStep → Thread Unit
  | .request (.pause time) =>
    if elapsed < time then Thread.request (.pause (time - elapsed)) else pure ()
  | _ => pure ()

/-- Carries out a thread up to its end, or until the program is held up; then something is left of
it. -/
def performUntilHeldUp {α : Type} (limits : ToolLimits) (w : WithSlot) :
    Thread α → Except (Thread α) α × WithSlot
  | Dialogue.done a => (.ok a, w)
  | Dialogue.ask q next =>
    let (a, w') := (step limits q).run w
    if w'.machine.isHeldUp then
      let left := remainder (w'.machine.clock - w.machine.clock) q
      (.error (left.bind fun _ => next a), w')
    else performUntilHeldUp limits w' (next a)

/-- Carries out a thread while a watcher waits for a child, but no longer than some milliseconds. -/
def performMeanwhile {α : Type} (limits : ToolLimits) (w : WithSlot) (child : Pid) (time : Nat)
    (t : Thread α) : Except (Thread α) α × WithSlot :=
  let w := { w with machine.vigil? := some ⟨child, w.machine.clock + time⟩ }
  if w.machine.isHeldUp then (.error t, w) else performUntilHeldUp limits w t

/-- Carries out a watcher beside a thread, which goes on whenever the watcher waits for a child. The
end comes with whichever of the two is done first. -/
def performBeside {α β : Type} (limits : ToolLimits) (w : WithSlot) (t : Thread α) :
    (watcher : Thread β) → (α ⊕ β) × WithSlot
  | Dialogue.done b => (.inr b, w)
  | Dialogue.ask (ThreadStep.machine (.awaitExit child time)) next =>
    match performMeanwhile limits w child time t with
    | (.ok a, w) => (.inl a, w)
    | (.error t, w) =>
      let (ended, w) := (onMachine fun m => m.collect child).run w
      performBeside limits w t (next ended)
  | Dialogue.ask q next =>
    let (a, w) := (step limits q).run w
    performBeside limits w t (next a)

end WithSlot

end NodeTrial.Machine
