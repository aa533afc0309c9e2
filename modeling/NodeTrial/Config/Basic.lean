import NodeTrial.Path
import NodeTrial.Text.Lines

namespace NodeTrial

structure EnvironmentConfig where
  wasmTarget : String
  /-- An address that is fetched to see whether dependencies can be reached. -/
  dependencyUrl : String
  /-- In seconds. -/
  httpTimeout : Nat
  deriving DecidableEq, Repr

structure NodeConfig where
  package : String
  binary : String
  args : List String
  logPath : String
  /-- What has to occur in the version that the node tells. -/
  versionMarker : String
  rpcUrl : String
  wsUrl : String
  healthPath : String
  /-- In seconds. -/
  settle : Nat
  /-- In seconds. -/
  stopGrace : Nat
  deriving DecidableEq, Repr

structure RuntimeConfig where
  package : String
  wasmArtifact : String
  deriving DecidableEq, Repr

/-- How long to wait for the node. Times are in seconds. -/
structure ReadinessConfig where
  healthInterval : Nat
  healthAttempts : Nat
  /-- The time between the two samples of the height. -/
  progressSettle : Nat
  rpcInterval : Nat
  rpcAttempts : Nat
  deriving DecidableEq, Repr

structure ContractsConfig where
  names : List String
  sourceDirectory : String
  artifactDirectory : String
  deriving DecidableEq, Repr

structure DeployerConfig where
  package : String
  binary : String
  account : String
  deriving DecidableEq, Repr

structure CycleConfig where
  contract : String
  constructor : String
  /-- The secret of the signer. -/
  suri : String
  /-- The account whose entitlement is changed. -/
  subject : String
  /-- Patterns of the errors by which a node tells that it does not support contracts. -/
  limitationPatterns : List String
  deriving DecidableEq, Repr

structure Config where
  reportPath : String
  /-- The time that a tool is given, in seconds. -/
  toolTimeout : Nat
  /-- How much of each output stream of a tool is kept, in bytes. -/
  outputLimit : Nat
  /-- How many lines of output a detail shows. -/
  detailLines : Nat
  environment : EnvironmentConfig
  node : NodeConfig
  runtime : RuntimeConfig
  readiness : ReadinessConfig
  contracts : ContractsConfig
  deployer : DeployerConfig
  cycle : CycleConfig
  deriving DecidableEq, Repr

def EnvironmentConfig.default : EnvironmentConfig :=
  { wasmTarget := "wasm32-unknown-unknown"
    dependencyUrl := "https://index.crates.io/config.json"
    httpTimeout := 10 }

def NodeConfig.default : NodeConfig :=
  { package := "node"
    binary := "target/release/node"
    args := ["--dev"]
    logPath := "target/orchestrator/node.log"
    versionMarker := "node"
    rpcUrl := "http://127.0.0.1:9944"
    wsUrl := "ws://127.0.0.1:9944"
    healthPath := "/health"
    settle := 3
    stopGrace := 2 }

def RuntimeConfig.default : RuntimeConfig :=
  { package := "runtime"
    wasmArtifact := "target/release/wbuild/runtime/runtime.compact.compressed.wasm" }

def ReadinessConfig.default : ReadinessConfig :=
  { healthInterval := 1
    healthAttempts := 30
    progressSettle := 15
    rpcInterval := 1
    rpcAttempts := 3 }

def ContractsConfig.default : ContractsConfig :=
  { names := ["access_registry", "attribute_store"]
    sourceDirectory := "contracts"
    artifactDirectory := "target/ink" }

def DeployerConfig.default : DeployerConfig :=
  { package := "deployer"
    binary := "target/release/deployer"
    account := "alice" }

def CycleConfig.default : CycleConfig :=
  { contract := "access_registry"
    constructor := "new"
    suri := "//Alice"
    subject := "0x0202020202020202020202020202020202020202"
    limitationPatterns :=
      ["Pallet not found: Revive",
        "(?i)(pallet[-_ ]?revive|revive pallet).*(not found|not available|unavailable)"] }

namespace Config

def default : Config :=
  { reportPath := "TEST_REPORT.md"
    toolTimeout := 30 * 60
    outputLimit := 1000000
    detailLines := 5
    environment := .default
    node := .default
    runtime := .default
    readiness := .default
    contracts := .default
    deployer := .default
    cycle := .default }

def fileName : String := "orchestrator.toml"

/-- The address under which the node tells whether it is healthy, with one slash between its two
parts. -/
def healthUrl (c : Config) : String :=
  let base := (c.node.rpcUrl.toList.reverse.dropWhile (· = '/')).reverse
  let path := c.node.healthPath.toList.dropWhile (· = '/')
  String.ofList (base ++ '/' :: path)

def detail (c : Config) (text : String) : String := Text.firstLines text c.detailLines

end Config

end NodeTrial
