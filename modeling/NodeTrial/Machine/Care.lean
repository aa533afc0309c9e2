import NodeTrial.Machine.Basic
import NodeTrial.Node.Slot

namespace NodeTrial.Machine

def answer : (c : MachineCall) → StateM Machine c.Answer
  | .createDirectories path => fun m =>
    let (files, result) := m.files.createDirectories m.directory path
    (result, { m with files })
  | .createFile path => fun m =>
    match m.files.openForWriting m.directory path true with
    | .error e => (.error e, m)
    | .ok (files, id) => (.ok id, { m with files })
  | .readText path => fun m => (m.files.readText m.directory path, m)
  | .removeFile path => fun m =>
    match m.files.removeFile m.directory path with
    | .error e => (.error e, m)
    | .ok files => (.ok (), { m with files })
  | .spawn program args directory output => fun m =>
    match m.prepare program args (some directory) with
    | .error e => (.error e, m)
    | .ok (i, place) =>
      let (pid, m) := m.addChild place i [.nothing, .file output 0 false] [(0, 0), (1, 1), (2, 1)]
      (.ok pid, m)
  | .hasExited pid => fun m => m.collect pid
  | .terminate pid => fun m => ((), if m.canSignal then m.signal pid .terminate else m)
  | .awaitExit pid time => fun m => (m.waitFor (fun m => !m.isRunning pid) time).collect pid
  | .kill pid => fun m => ((), m.kill pid)
  | .reap pid => fun m => ((), (m.collect pid).2)
  | .sleep time => fun m => ((), m.waitFor (fun _ => false) time)

/-- A machine on which one slot is used. -/
structure WithSlot where
  machine : Machine
  held : Option NodeHandle

def care {α : Type} (c : Care α) (m : Machine) : α × Machine := (c.run answer).run m

def use (q : SlotSection) : StateM WithSlot q.Answer := fun w =>
  let ((a, held), machine) := care (q.body w.held) w.machine
  (a, { machine, held })

end NodeTrial.Machine
