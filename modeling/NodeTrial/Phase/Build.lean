import NodeTrial.Phase.Basic

namespace NodeTrial.Phase.Build

def package (s : Setting) (package : String) : Trial Finding := do
  let i := Invocation.build package
  let o ← s.tool i
  pure (if o.success then .pass i.display else s.toolFailure o "cargo")

def runtimeArtifact (s : Setting) : Trial Finding := do
  let artifact := s.config.runtime.wasmArtifact
  pure <|
    if ← Trial.isFile (s.path artifact) then .pass artifact
    else .fail .checkFailed ("Missing " ++ artifact)

def versionFinding (s : Setting) (o : ToolOutput) : Finding :=
  let marker := s.config.node.versionMarker
  if !o.success then s.toolFailure o "node"
  else if Text.contains o.stdout marker then .pass (Text.firstLines o.stdout 1)
  else
    .fail .checkFailed
      ("Version output lacks " ++ Text.quoted marker ++ ": " ++ Text.firstLines o.stdout 1)

def nodeVersion (s : Setting) : Trial Finding := do
  let binary := s.path s.config.node.binary
  if ← Trial.isFile binary then
    pure (versionFinding s (← s.tool (.command binary ["--version"])))
  else pure (.unmet .nodeBinary)

def manifest (s : Setting) (contract : String) : String :=
  Path.join (Path.join s.config.contracts.sourceDirectory contract) "Cargo.toml"

def compile (s : Setting) (contract : String) : Trial Finding := do
  let path := manifest s contract
  let o ← s.tool (.command "cargo" ["contract", "build", "--manifest-path", path, "--release"])
  pure (if o.success then .pass path else s.toolFailure o "cargo-contract")

/-- The names of the files that compiling a contract makes. -/
def artifactNames (contract : String) : List String :=
  [contract ++ ".contract", contract ++ ".json"]

/-- The files that are missing among those of some names in a directory. -/
def missing (directory : String) : List String → Trial (List String)
  | [] => pure []
  | name :: rest => do
    if ← Trial.isFile (Path.join directory name) then missing directory rest
    else pure (name :: (← missing directory rest))

/-- Whether the files of a contract are there. They are looked for only if it was compiled. -/
def artifacts (s : Setting) (contract : String) (compiled : Bool) : Trial Finding := do
  if !compiled then pure (.unmet .contractCompiled)
  else
    match ← missing (s.path s.config.contracts.artifactDirectory) (artifactNames contract) with
    | [] => pure (.pass (", ".intercalate (artifactNames contract)))
    | names => pure (.fail .checkFailed ("Missing: " ++ ", ".intercalate names))

def nodeChecks (s : Setting) : List (String × Trial Finding) :=
  [("Build node binary", package s s.config.node.package),
    ("Build runtime", package s s.config.runtime.package),
    ("Runtime WASM artifact exists", runtimeArtifact s),
    ("Node binary version", nodeVersion s)]

def contractChecks (s : Setting) (st : Standing) (contract : String) : Trial Standing := do
  let compiled ← compile s contract
  let st ← st.enter s ("Compile contract: " ++ contract) compiled
  st.carryOut s ("Contract artifacts: " ++ contract)
    (artifacts s contract (compiled.outcome = .pass))

def allContractChecks (s : Setting) (st : Standing) : List String → Trial Standing
  | [] => pure st
  | contract :: rest => do allContractChecks s (← contractChecks s st contract) rest

def run (s : Setting) (st : Standing) : Trial Standing := do
  s.announce .build
  let st ← st.carryOutAll s (nodeChecks s)
  allContractChecks s st s.config.contracts.names

end NodeTrial.Phase.Build
