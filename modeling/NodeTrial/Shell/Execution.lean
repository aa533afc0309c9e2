import NodeTrial.Shell.Builtin

/-!
Carrying out commands. A process goes on in small steps: a step carries out one command as far as it
is not made of others, or does what a frame says.
-/

namespace NodeTrial.Shell

/-! ## Scripts whose output belongs into a command -/

/-- The script of the first part of a word that needs its output. -/
def Word.script? (w : Word) : Option String :=
  w.findSome? fun
    | .command source _ => some source
    | _ => none

def Word.fill (output : String) : Word → Word
  | [] => []
  | .command _ inQuotes :: rest => .result output inQuotes :: rest
  | part :: rest => part :: Word.fill output rest

/-- The first of several words that needs the output of a script, filled with it. -/
def fillFirst (output : String) : List Word → List Word
  | [] => []
  | w :: rest =>
    if (Word.script? w).isSome then Word.fill output w :: rest else w :: fillFirst output rest

/-- The words of a command that are expanded when it is carried out. -/
def Command.expanded : Command → List Word
  | .simple _ assignments words redirections =>
    words ++ assignments.map (·.2) ++ redirections.map (·.target)
  | .forEach _ (some words) _ => words
  | .choice subject _ => [subject]
  | .group _ redirections => redirections.map (·.target)
  | .subshell _ redirections => redirections.map (·.target)
  | _ => []

def Command.withExpanded (ws : List Word) : Command → Command
  | .simple line assignments words redirections =>
    let rest := ws.drop words.length
    .simple line ((assignments.zip rest).map fun (a, w) => (a.1, w)) (ws.take words.length)
      ((redirections.zip (rest.drop assignments.length)).map fun (r, w) => { r with target := w })
  | .forEach name (some _) body => .forEach name (some ws) body
  | .choice subject arms => .choice (ws.head?.getD subject) arms
  | .group inner redirections =>
    .group inner ((redirections.zip ws).map fun (r, w) => { r with target := w })
  | .subshell inner redirections =>
    .subshell inner ((redirections.zip ws).map fun (r, w) => { r with target := w })
  | c => c

def Word.isFilled (w : Word) : Bool := w.any fun
  | .result .. => true
  | _ => false

namespace Running

/-! ## Calls -/

def call (r : Running) (now line : Nat) (name : String) (args : List String) : Running :=
  match r.special? line name args with
  | some r => r
  | none =>
    match r.process.environment.functions.lookup name with
    | some body =>
      let saved := r.process.environment.arguments
      ((r.push (.leaveCall saved [])).mapEnvironment fun e => { e with arguments := args }).act
        (.carryOut body)
    | none =>
      match r.builtin? line name args with
      | some r => r
      | none => r.external now line name args

/-- Calls a command, where the command may be to look up another. -/
def dispatch (r : Running) (now line : Nat) (name : String) (args : List String) : Running :=
  match name, args with
  | "command", "-v" :: target :: _ => r.runLookup target
  | "command", "-V" :: target :: _ => r.runType target
  | "command", [] => r.finish 0
  | "command", target :: rest => r.call now line target rest
  | "type", targets =>
    targets.foldl (fun r target =>
      let worst := r.process.environment.status
      let r := r.runType target
      r.finish (max worst r.process.environment.status)) (r.finish 0)
  | _, _ => r.call now line name args

/-! ## Commands -/

def wordsOf (r : Running) (ws : List Word) : Except String (List String × Running) := do
  let (fields, r) ← r.expand (ws.mapM fun w => Expand.fields r.process.pid w)
  .ok (fields.flatten.flatMap (Glob.paths r.files r.directory), r)

def assignmentsOf (r : Running) (as : List (String × Word)) :
    Except String (List (String × String) × Running) :=
  r.expand (as.mapM fun (name, w) => do pure (name, ← Expand.text r.process.pid w))

def setAll (r : Running) (as : List (String × String)) : Running :=
  r.mapEnvironment fun e => as.foldl (fun e (n, v) => e.set n v) e

/-- Shows a command before it is carried out, if that is asked for. -/
def trace (r : Running) (as : List (String × String)) (texts : List String) : Running :=
  if r.process.environment.traces then
    r.complain ("+ " ++ " ".intercalate (as.map (fun (n, v) => n ++ "=" ++ v) ++ texts))
  else r

def expansionFault (r : Running) (line : Nat) (message : String) : Running :=
  (r.complain (r.here line ++ message)).exit 2

def assignOnly (r : Running) (line : Nat) (as : List (String × String))
    (xs : List Redirection) (filled : Bool) : Running :=
  let saved := r.process.environment.descriptors
  match r.redirectAll xs with
  | .error message => (r.complain (r.here line ++ message)).finish 2
  | .ok r =>
    let r := (r.setAll as).mapEnvironment fun e => { e with descriptors := saved }
    if filled then r.act .goOn else r.finish 0

def simple (r : Running) (now line : Nat) (as : List (String × String)) (name : String)
    (args : List String) (xs : List Redirection) : Running :=
  let saved := r.process.environment.descriptors
  let isSpecial := name = "exec" || (r.special? line name args).isSome
  match r.redirectAll xs with
  | .error message =>
    let r := (r.complain (r.here line ++ message)).mapEnvironment fun e =>
      { e with descriptors := saved }
    if isSpecial then r.exit 2 else (r.finish 2).checkFailure
  | .ok r =>
    if name = "exec" then
      match args with
      | [] => (r.setAll as).finish 0
      | program :: args =>
        let r := r.mapEnvironment fun e =>
          as.foldl (fun e (n, v) => (e.set n v).withExported n) e
        r.replace now line program args
    else
      let r := if xs.isEmpty then r else r.push (.leaveRedirections saved)
      let r := if as.isEmpty then r
        else
          let e := r.process.environment
          let before := as.map fun (n, _) => (n, e.get? n)
          (r.push (.leaveAssignments before e.exported)).mapEnvironment fun e =>
            as.foldl (fun e (n, v) => (e.set n v).withExported n) e
      r.dispatch now line name args

/-- The body of the first arm with a pattern that matches a text. -/
def chosen (pid : Nat) (text : String) : Command → Expand (Option Command)
  | .arm patterns body next => do
    let ps ← patterns.mapM fun w => Expand.whole pid w
    if ps.any fun p => Glob.matchesText p text.toList then pure (some body)
    else chosen pid text next
  | _ => pure none

def entered (r : Running) (inner : Command) (xs : List Redirection) : Running :=
  match r.redirectAll xs with
  | .error message => (r.complain (r.here 1 ++ message)).finish 2
  | .ok r => r.act (.carryOut inner)

def startJob (r : Running) (inner : Command) : Running :=
  let number := r.process.pid * 1000 + r.process.jobs.length + 1
  let (nothing, process) := r.process.openChannel .nothing
  let environment := (subshellEnvironment process.environment).connect 0 nothing
  let job : Job := { number, environment, frames := [], activity := .carryOut inner }
  ({ r with process := { process with jobs := process.jobs ++ [job] } }.mapEnvironment fun e =>
    { e with lastJob := some number }).finish 0

def carryOutReady (r : Running) (now : Nat) : Command → Running
  | .empty => r.act .goOn
  | .malformed line words => (r.complain (r.here line ++ words)).exit 2
  | .sequence first second => (r.push (.next second)).act (.carryOut first)
  | .both first second => (r.push (.onSuccess second)).act (.carryOut first)
  | .either first second => (r.push (.onFailure second)).act (.carryOut first)
  | .negation inner => (r.push .negate).act (.carryOut inner)
  | .background inner => r.startJob inner
  | .pipe first second =>
    let (n, process) := r.process.openChannel (.kept [])
    let r := ({ r with process }.push (.feed n second)).enterSubshell
    (r.mapEnvironment fun e => e.connect 1 n).act (.carryOut first)
  | .branch condition yes no => (r.push (.choose yes no)).act (.carryOut condition)
  | .loop truth condition body =>
    (r.push (.tested truth condition body)).act (.carryOut condition)
  | .forEach name words body =>
    match words with
    | none => (r.push (.each name r.process.environment.arguments body)).finish 0
    | some ws =>
      match r.wordsOf ws with
      | .ok (texts, r) => (r.push (.each name texts body)).finish 0
      | .error message => r.expansionFault 1 message
  | .choice subject arms =>
    match r.expand (do chosen r.process.pid (← Expand.text r.process.pid subject) arms) with
    | .ok (some body, r) => (r.setStatus 0).act (.carryOut body)
    | .ok (none, r) => r.finish 0
    | .error message => r.expansionFault 1 message
  | .arm .. => r.act .goOn
  | .group inner xs =>
    (if xs.isEmpty then r
      else r.push (.leaveRedirections r.process.environment.descriptors)).entered inner xs
  | .subshell inner xs => r.enterSubshell.entered inner xs
  | .function name body =>
    (r.mapEnvironment fun e => { e with functions := (name, body) :: e.functions }).finish 0
  | .simple line as ws xs =>
    match (do
      let (texts, r) ← r.wordsOf ws
      let (as, r) ← r.assignmentsOf as
      pure (texts, as, r) : Except String _) with
    | .error message => r.expansionFault line message
    | .ok (texts, assigned, r) =>
      let r := r.trace assigned texts
      match texts with
      | [] => (r.assignOnly line assigned xs (as.any fun a => Word.isFilled a.2)).checkFailure
      | name :: args =>
        let r := r.simple now line assigned name args xs
        match r.process.activity with
        | .goOn => r.checkFailure
        | _ => r

/-- Carries out a command: first the scripts whose output it needs, then the command itself. -/
def carryOut (r : Running) (now : Nat) (c : Command) : Running :=
  match c.expanded.findSome? Word.script? with
  | some source =>
    let (n, process) := r.process.openChannel (.kept [])
    let r := ({ r with process }.push (.capture n c)).enterSubshell
    (r.mapEnvironment fun e => e.connect 1 n).runSource "" source
  | none => r.carryOutReady now c

/-- The output of a script as a text, without line feeds at its end. -/
def capturedText (bytes : List UInt8) : String :=
  let cs := (Utf8.decodeLossy bytes).filter (· != '\x00')
  String.ofList (cs.reverse.dropWhile (· = '\n')).reverse

/-! ## Frames -/

/-- The action for the end of the shell or subshell that runs, if there is one; it is carried out
once. -/
def lastAction? (r : Running) : Option Running :=
  let e := r.process.environment
  (e.traps.lookup .exit).map fun action =>
    let r := r.mapEnvironment fun e => { e with traps := e.traps.filter (·.1 != .exit) }
    (r.push (.leaveTrap e.status)).runSource "" action

def comeBack (r : Running) (saved : Environment) : Running :=
  ((r.mapEnvironment fun _ => saved).setStatus r.process.environment.status).checkFailure

def follow (r : Running) : Frame → Running
  | .next c => r.act (.carryOut c)
  | .onSuccess c => if r.process.environment.status = 0 then r.act (.carryOut c) else r
  | .onFailure c => if r.process.environment.status = 0 then r else r.act (.carryOut c)
  | .negate => r.setStatus (if r.process.environment.status = 0 then 1 else 0)
  | .choose yes no =>
    match (if r.process.environment.status = 0 then yes else no) with
    | .empty => r.setStatus 0
    | c => r.act (.carryOut c)
  | .tested truth condition body =>
    if (r.process.environment.status = 0) = truth then
      ((r.push (.again truth condition body)).setStatus 0).act (.carryOut body)
    else r.setStatus 0
  | .again truth condition body =>
    (r.push (.tested truth condition body)).act (.carryOut condition)
  | .each _ [] _ => r
  | .each name (w :: ws) body =>
    ((r.push (.each name ws body)).mapEnvironment fun e => e.set name w).act (.carryOut body)
  | .leaveSubshell saved => r.comeBack saved
  | .leaveProgram saved => r.comeBack saved
  | .leaveTrap status => r.setStatus status
  | .capture n c =>
    r.act (.carryOut
      (c.withExpanded (fillFirst (capturedText (r.process.keptBytes n)) c.expanded)))
  | .feed n c =>
    let bytes := r.process.keptBytes n
    let r := r.enterSubshell
    { r with process := r.process.connectNew 0 (.source bytes) }.act (.carryOut c)
  | f => r.mapEnvironment fun e => leave e f

/-- Does what the frame on top says. A shell, a subshell or a program that comes to its end carries
out its last action first. -/
def goOn (r : Running) : Running :=
  match r.process.frames with
  | [] => r.lastAction?.getD (r.act (.ended (.code r.process.environment.status)))
  | f :: rest =>
    let popped := { r with process := { r.process with frames := rest } }
    if isSubshellEnd f then r.lastAction?.getD (popped.follow f) else popped.follow f

/-- Carries out the action of a trap whose signal has come, if the shell that runs has one. -/
def takeSignal? (r : Running) : Option Running := do
  let e := r.process.environment
  let s ← r.process.pending.find? fun s =>
    ((e.traps.lookup (.signal s)).map fun action => !action.isEmpty).getD false
  let action ← e.traps.lookup (.signal s)
  let r := { r with process := { r.process with pending := r.process.pending.erase s } }
  some ((r.push (.leaveTrap e.status)).runSource "" action)

/-! ## Jobs -/

/-- What a shell that waits for jobs does once they have ended. -/
def awaited? (r : Running) (number : Option Nat) : Option Running :=
  match number with
  | none => if r.process.jobs.all Job.hasEnded then some (r.finish 0) else none
  | some n =>
    match r.process.jobs.find? fun j => j.number = n with
    | none => some (r.finish 127)
    | some j =>
      match j.activity with
      | .ended (.signal s) =>
        some ((r.writeText 2 s.obituary).finish (128 + s.number))
      | .ended (.code n) => some (r.finish n)
      | _ => none

/-! ## Steps -/

/-- One step of a process; none if it cannot go on by itself. -/
def step? (r : Running) (now : Nat) : Option Running :=
  match r.process.activity with
  | .ended _ => none
  | .sleep _ => none
  | .halt => none
  | .await number =>
    match r.takeSignal? with
    | some r => some r
    | none => r.awaited? number
  | .become i => some (r.start now i)
  | .carryOut c => some (r.carryOut now c)
  | .goOn => some (r.takeSignal?.getD r.goOn)

def steps (now : Nat) : (count : Nat) → Running → Running
  | 0, r => r
  | count + 1, r =>
    match r.step? now with
    | some r => steps now count r
    | none => r

def wakened (r : Running) (now : Nat) : Running :=
  match r.process.activity with
  | .sleep wake => if wake ≤ now then r.finish 0 else r
  | _ => r

/-- Lets a job go on for some steps at most. It uses the channels of the shell that started it, and
the jobs that it starts itself belong to that shell. -/
def stepsOfJob (now count : Nat) (r : Running) (j : Job) : Running :=
  let p := r.process
  let own := { p with
    environment := j.environment, frames := j.frames, activity := j.activity, pending := [] }
  let r := steps now count (({ r with process := own } : Running).wakened now)
  let q := r.process
  let job := { j with
    environment := q.environment, frames := q.frames, activity := q.activity }
  let jobs := q.jobs.map fun k => if k.number = j.number then job else k
  { r with process := { q with
      environment := p.environment, frames := p.frames, activity := p.activity,
      pending := p.pending, jobs } }

/-- Lets the shell and its jobs go on for some steps each at most. -/
def stepsOfAll (now count : Nat) (r : Running) : Running :=
  let r := steps now count (r.wakened now)
  let r := r.process.jobs.foldl (fun r j => stepsOfJob now count r j) r
  match r.process.activity with
  | .await _ => steps now count r
  | _ => r

end Running

end NodeTrial.Shell
