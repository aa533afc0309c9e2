import NodeTrial.Config.Check
import NodeTrial.Ledger
import NodeTrial.Network

namespace NodeTrial

/-- What stays the same during a run. -/
structure Setting where
  /-- The root of the project, from which relative paths are meant. -/
  root : String
  config : Config
  /-- The patterns of the known limitation of a node. -/
  patterns : List Pattern
  /-- Whether the operator is shown what happens. -/
  echo : Bool

namespace Setting

/-- The setting of a configuration; its patterns have to be readable. -/
def of (root : String) (config : Config) (echo : Bool) : Except ConfigFault Setting :=
  config.cycle.patterns.map fun patterns => { root, config, patterns, echo }

def path (s : Setting) (relative : String) : String := Path.join s.root relative

/-- Shows a line to the operator, if there is one to see it. -/
def tell (s : Setting) (line : String) : Trial Unit :=
  if s.echo then Trial.tell line else pure ()

def tool (s : Setting) (i : Invocation) : Trial ToolOutput := Trial.tool (i.inDirectory s.root)

/-- Whether the output of a tool tells of the known limitation. -/
def showsLimitation (s : Setting) (o : ToolOutput) : Bool :=
  Pattern.anyOccursIn s.patterns o.combined

def toolFailure (s : Setting) (o : ToolOutput) (tool : String) : Finding :=
  let (cause, detail) := o.failure tool s.config.detailLines s.config.toolTimeout
  .fail cause detail

def versionFinding (s : Setting) (o : ToolOutput) (tool : String) : Finding :=
  if o.success then .pass o.versionLine else s.toolFailure o tool

end Setting

/-- How far a run has come. -/
structure Standing where
  ledger : Ledger
  /-- Whether the node has reported health and has not been stopped since. -/
  nodeReady : Bool
  deriving DecidableEq, Repr

namespace Standing

def initial : Standing := ⟨.empty, false⟩

def enter (st : Standing) (s : Setting) (name : String) (f : Finding) : Trial Standing := do
  s.tell (st.ledger.next name f.outcome f.cause? f.detail).line
  pure { st with ledger := st.ledger.enter name f }

def carryOut (st : Standing) (s : Setting) (name : String) (check : Trial Finding) :
    Trial Standing := do
  st.enter s name (← check)

def carryOutAll (st : Standing) (s : Setting) : List (String × Trial Finding) → Trial Standing
  | [] => pure st
  | (name, check) :: rest => do (← st.carryOut s name check).carryOutAll s rest

def enterAll (st : Standing) (s : Setting) (names : List String) (f : Finding) : Trial Standing :=
  st.carryOutAll s (names.map fun name => (name, pure f))

def stopNode (st : Standing) : Trial Standing := do
  Trial.stopNode
  pure { st with nodeReady := false }

end Standing

end NodeTrial
