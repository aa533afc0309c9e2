import NodeTrial.Contract.Address
import NodeTrial.Contract.Call
import NodeTrial.Phase.Build
import NodeTrial.Tier

namespace NodeTrial.Phase.Integration

def limitationDetail : String := "pallet-revive not available on node (upstream compatibility)"

def limited : Finding := .skip .knownLimitation limitationDetail

def granted : Tier := .premium

def queried : Tier := .basic

/-- The first thing that the node lacks for taking contracts. -/
def nodeGate (ready : Bool) : Trial (Option Prerequisite) := do
  if ← Trial.nodeRunning then pure (if ready then none else some .nodeReady)
  else pure (some .nodeRunning)

/-- The first thing that is missing: the file that a check uses, or something of the node. -/
def gate (path : String) (file : Prerequisite) (ready : Bool) : Trial (Option Prerequisite) := do
  if ← Trial.isFile path then nodeGate ready else pure (some file)

def deployAllName : String := "Deploy all contracts"

def deployerFinding (s : Setting) (o : ToolOutput) : Finding :=
  if s.showsLimitation o then limited
  else if o.success then .pass (s.config.detail o.stdout)
  else s.toolFailure o "deployer"

def deployAll (s : Setting) (ready : Bool) : Trial Finding := do
  let deployer := s.path s.config.deployer.binary
  match ← gate deployer .deployerBinary ready with
  | some missing => pure (.unmet missing)
  | none =>
    let o ← s.tool (.command deployer
      ["--url", s.config.node.wsUrl, "--account", s.config.deployer.account])
    pure (deployerFinding s o)

def creationName (contract : String) : String := "CRUD: deploy " ++ contract

def artifact (s : Setting) : String :=
  Path.join (s.path s.config.contracts.artifactDirectory) (s.config.cycle.contract ++ ".contract")

def signerArgs (s : Setting) : List String :=
  ["--suri", s.config.cycle.suri, "--url", s.config.node.wsUrl]

def creation (s : Setting) : Invocation :=
  .command "cargo"
    (["contract", "instantiate", artifact s, "--constructor", s.config.cycle.constructor]
      ++ signerArgs s ++ ["--execute", "--skip-confirm", "--output-json"])

/-- How the creation went: the contract is at an address, or there is none, with the finding of the
creation and the finding of every later step. -/
inductive Creation
  | at (address : String)
  | failed (finding later : Finding)
  deriving DecidableEq, Repr

def Creation.finding : Creation → Finding
  | «at» address => .pass ("Deployed at " ++ address)
  | failed finding _ => finding

def creationOf (s : Setting) (o : ToolOutput) : Creation :=
  if s.showsLimitation o then .failed limited limited
  else if o.success then
    match Contract.instantiatedAddress? o.stdout with
    | some address => .at address
    | none =>
      .failed
        (.fail .checkFailed ("No contract address in output: " ++ s.config.detail o.stdout))
        (.unmet .deploySucceeded)
  else .failed (s.toolFailure o "cargo-contract") (.unmet .deploySucceeded)

def create (s : Setting) (ready : Bool) : Trial Creation := do
  match ← gate (artifact s) .contractArtifact ready with
  | some missing => pure (.failed (.unmet missing) (.unmet missing))
  | none => pure (creationOf s (← s.tool (creation s)))

/-- The command that sends a message to the contract. Only an executed one changes anything. -/
def message (s : Setting) (address message : String) (args : List String) (execute : Bool) :
    Invocation :=
  .command "cargo"
    (["contract", "call", "--contract", address, "--message", message]
      ++ (if args.isEmpty then [] else "--args" :: args)
      ++ signerArgs s
      ++ (if execute then ["--execute", "--skip-confirm"] else [])
      ++ ["--output-json"])

/-- What an output leads to before its content is looked at. -/
def screen (s : Setting) (o : ToolOutput) : Option Finding :=
  if s.showsLimitation o then some limited
  else if o.success then none
  else some (s.toolFailure o "cargo-contract")

def unsuccessful (s : Setting) (o : ToolOutput) : Finding :=
  .fail .checkFailed ("Call did not report success: " ++ s.config.detail o.stdout)

/-- What the output of a call that changes something leads to, if it is no success. -/
def screenCall (s : Setting) (o : ToolOutput) : Option Finding :=
  match screen s o with
  | some f => some f
  | none => if Contract.callSucceeded o.stdout then none else some (unsuccessful s o)

/-- What the output of a query leads to that is expected to return a word; `otherwise` is the
detail if it does not. -/
def queryFinding (s : Setting) (o : ToolOutput) (word passed : String)
    (otherwise : String → String) : Finding :=
  match screen s o with
  | some f => f
  | none =>
    if Contract.returnsToken o.stdout word then .pass passed
    else .fail .checkFailed (otherwise (s.config.detail (Contract.returnedValue o.stdout)))

/-- Queries the contract, which is expected to return a word. -/
def query (s : Setting) (address name : String) (args : List String) (word : String) :
    Trial Finding := do
  let o ← s.tool (message s address name args false)
  pure (queryFinding s o word ("Returned " ++ word)
    fun value => "Expected " ++ word ++ ", got " ++ value)

def grant (s : Setting) (address : String) : Trial Finding := do
  let o ← s.tool (message s address "grant_entitlement" [s.config.cycle.subject, granted.name] true)
  pure ((screenCall s o).getD (.pass ("Granted " ++ granted.name)))

def get (s : Setting) (address : String) : Trial Finding :=
  query s address "get_entitlement" [s.config.cycle.subject] granted.name

def has (s : Setting) (address : String) : Trial Finding :=
  query s address "has_entitlement" [s.config.cycle.subject, queried.name]
    (if granted.satisfies queried then "true" else "false")

/-- What the query after the entitlement was revoked leads to. -/
def clearedFinding (s : Setting) (o : ToolOutput) : Finding :=
  queryFinding s o Tier.none.name "Entitlement cleared"
    fun value => "Entitlement not cleared (still " ++ value ++ ")"

/-- Revokes the entitlement and, where that reports success, queries whether it is gone. -/
def revoke (s : Setting) (address : String) : Trial Finding := do
  let subject := s.config.cycle.subject
  let o ← s.tool (message s address "revoke_entitlement" [subject] true)
  match screenCall s o with
  | some f => pure f
  | none => pure (clearedFinding s (← s.tool (message s address "get_entitlement" [subject] false)))

def steps : List (String × (Setting → String → Trial Finding)) :=
  [("CRUD: grant entitlement", grant),
    ("CRUD: get entitlement", get),
    ("CRUD: has entitlement", has),
    ("CRUD: revoke entitlement", revoke)]

/-- The steps at an address, or with the finding that all of them share. -/
def stepChecks (s : Setting) : Creation → List (String × Trial Finding)
  | .at address => steps.map fun (name, step) => (name, step s address)
  | .failed _ later => steps.map fun (name, _) => (name, pure later)

def cycle (s : Setting) (st : Standing) : Trial Standing := do
  let c ← create s st.nodeReady
  let st ← st.enter s (creationName s.config.cycle.contract) c.finding
  st.carryOutAll s (stepChecks s c)

def run (s : Setting) (st : Standing) : Trial Standing := do
  s.announce .integration
  let st ← st.carryOut s "Build deployer" (Build.package s s.config.deployer.package)
  let st ← st.carryOut s deployAllName (deployAll s st.nodeReady)
  cycle s st

end NodeTrial.Phase.Integration
