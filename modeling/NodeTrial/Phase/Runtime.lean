import NodeTrial.Phase.Basic
import NodeTrial.Polling
import NodeTrial.Progress

namespace NodeTrial.Phase.Runtime

def startName : String := "Start node"

def healthName : String := "Node health check"

def productionName : String := "Block production"

def seconds (n : Nat) : Nat := n * 1000

def launch (s : Setting) : Launch :=
  let node := s.config.node
  { program := s.path node.binary
    args := node.args
    directory := s.root
    logPath := s.path node.logPath
    settle := seconds node.settle
    stopGrace := seconds node.stopGrace }

def start (s : Setting) : Trial Finding := do
  let l := launch s
  if ← Trial.isFile l.program then
    match ← Trial.startNode l with
    | .ok pid => pure (.pass ("PID " ++ toString pid))
    | .error e => pure (.fail .spawnFailure (s.config.detail e.display))
  else pure (.unmet .nodeBinary)

def healthFinding (s : Setting) : PollEnd → Finding
  | .ready n => .pass ("Healthy after " ++ toString n ++ " attempt(s)")
  | .timedOut n =>
    .fail .timeout
      ("Timeout after " ++ toString n ++ " attempts waiting for " ++ s.config.node.healthPath)

def healthBudget (s : Setting) : PollBudget :=
  ⟨seconds s.config.readiness.healthInterval, s.config.readiness.healthAttempts⟩

def health (s : Setting) : Trial Finding := do
  if ← Trial.nodeRunning then
    let e ← pollUntil (healthBudget s) Trial.pause (Trial.isHealthy s.config.healthUrl)
    pure (healthFinding s e)
  else pure (.unmet .nodeRunning)

/-- Carries the check of health out. It makes the node ready, or else stops it. -/
def awaitHealth (s : Setting) (st : Standing) : Trial Standing := do
  let f ← health s
  match f.outcome with
  | .pass => Standing.enter { st with nodeReady := true } s healthName f
  | .fail => (← st.enter s healthName f).stopNode
  | .skip => st.enter s healthName f

def heightBudget (s : Setting) : PollBudget :=
  ⟨seconds s.config.readiness.rpcInterval, s.config.readiness.rpcAttempts⟩

def sample (s : Setting) : Trial (Option Nat) := do
  let (height, _) ← pollValue (heightBudget s) Trial.pause (Trial.blockHeight? s.config.node.rpcUrl)
  pure height

/-- Two samples of the height with a pause between them. Without a first there is no second. -/
def samples (s : Setting) : Trial Progress := do
  match ← sample s with
  | none => pure (.ofSamples none none)
  | some height =>
    let settle := seconds s.config.readiness.progressSettle
    if settle ≠ 0 then Trial.pause settle
    pure (.ofSamples (some height) (← sample s))

def productionFinding (p : Progress) : Finding :=
  if p.isProgress then .pass p.detail else .fail .checkFailed p.detail

def production (s : Setting) (ready : Bool) : Trial Finding := do
  if ready then pure (productionFinding (← samples s)) else pure (.unmet .nodeReady)

def run (s : Setting) (st : Standing) : Trial Standing := do
  s.announce .runtime
  let st ← st.carryOut s startName (start s)
  let st ← awaitHealth s st
  st.carryOut s productionName (production s st.nodeReady)

end NodeTrial.Phase.Runtime
