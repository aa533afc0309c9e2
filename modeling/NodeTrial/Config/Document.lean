import NodeTrial.Config.Basic
import NodeTrial.Toml.Reader
import NodeTrial.Toml.Writer

/-!
Configurations as TOML documents. A key that is absent leaves its field at the default, unknown keys
are ignored, and a section may also be an array with its fields in order.
-/

namespace NodeTrial

open Toml (Setting Value)

inductive Field
  | absent
  | given (v : Value)

namespace Field

def text (fallback : String) : Field → Option String
  | absent => some fallback
  | given (.string s) => some s
  | given _ => none

def number (bound fallback : Nat) : Field → Option Nat
  | absent => some fallback
  | given (.integer i) => if 0 ≤ i ∧ i < bound then some i.toNat else none
  | given _ => none

def texts (fallback : List String) : Field → Option (List String)
  | absent => some fallback
  | given (.array items) => items.mapM fun
    | .string s => some s
    | _ => none
  | given _ => none

end Field

def wordBound : Nat := Nat.pow 2 64

def halfWordBound : Nat := Nat.pow 2 32

/-- The fields of a section: by key in a table, by place in an array. Entries of a table under other
keys have to be representable all the same. -/
def sectionFields? (keys : List String) : Value → Option (List Field)
  | .table entries =>
    if entries.all fun (key, v) => keys.contains key || v.representable then
      some (keys.map fun key =>
        match Value.entry? key entries with
        | some v => .given v
        | none => .absent)
    else none
  | .array items =>
    some (keys.zipIdx.map fun (_, i) =>
      match items[i]? with
      | some v => .given v
      | none => .absent)
  | _ => none

/-- The fields of a section that may be absent. -/
def fields? (keys : List String) : Field → Option (List Field)
  | .absent => some (keys.map fun _ => .absent)
  | .given v => sectionFields? keys v

def EnvironmentConfig.ofField? (f : Field) : Option EnvironmentConfig := do
  match ← fields? ["wasm_target", "dependency_url", "http_timeout_secs"] f with
  | [target, url, timeout] =>
    let d := EnvironmentConfig.default
    some { wasmTarget := ← target.text d.wasmTarget
           dependencyUrl := ← url.text d.dependencyUrl
           httpTimeout := ← timeout.number wordBound d.httpTimeout }
  | _ => none

def EnvironmentConfig.settings (c : EnvironmentConfig) : List (String × Setting) :=
  [("wasm_target", .text c.wasmTarget),
    ("dependency_url", .text c.dependencyUrl),
    ("http_timeout_secs", .number c.httpTimeout)]

def NodeConfig.ofField? (f : Field) : Option NodeConfig := do
  match ← fields? ["package", "binary", "args", "log_path", "version_marker", "rpc_url", "ws_url",
      "health_path", "settle_secs", "stop_grace_secs"] f with
  | [package, binary, args, logPath, marker, rpc, ws, health, settle, grace] =>
    let d := NodeConfig.default
    some { package := ← package.text d.package
           binary := ← binary.text d.binary
           args := ← args.texts d.args
           logPath := ← logPath.text d.logPath
           versionMarker := ← marker.text d.versionMarker
           rpcUrl := ← rpc.text d.rpcUrl
           wsUrl := ← ws.text d.wsUrl
           healthPath := ← health.text d.healthPath
           settle := ← settle.number wordBound d.settle
           stopGrace := ← grace.number wordBound d.stopGrace }
  | _ => none

def NodeConfig.settings (c : NodeConfig) : List (String × Setting) :=
  [("package", .text c.package),
    ("binary", .text c.binary),
    ("args", .texts c.args),
    ("log_path", .text c.logPath),
    ("version_marker", .text c.versionMarker),
    ("rpc_url", .text c.rpcUrl),
    ("ws_url", .text c.wsUrl),
    ("health_path", .text c.healthPath),
    ("settle_secs", .number c.settle),
    ("stop_grace_secs", .number c.stopGrace)]

def RuntimeConfig.ofField? (f : Field) : Option RuntimeConfig := do
  match ← fields? ["package", "wasm_artifact"] f with
  | [package, artifact] =>
    let d := RuntimeConfig.default
    some { package := ← package.text d.package
           wasmArtifact := ← artifact.text d.wasmArtifact }
  | _ => none

def RuntimeConfig.settings (c : RuntimeConfig) : List (String × Setting) :=
  [("package", .text c.package),
    ("wasm_artifact", .text c.wasmArtifact)]

def ReadinessConfig.ofField? (f : Field) : Option ReadinessConfig := do
  match ← fields? ["health_interval_secs", "health_attempts", "progress_settle_secs",
      "rpc_interval_secs", "rpc_attempts"] f with
  | [healthInterval, healthAttempts, settle, rpcInterval, rpcAttempts] =>
    let d := ReadinessConfig.default
    some { healthInterval := ← healthInterval.number wordBound d.healthInterval
           healthAttempts := ← healthAttempts.number halfWordBound d.healthAttempts
           progressSettle := ← settle.number wordBound d.progressSettle
           rpcInterval := ← rpcInterval.number wordBound d.rpcInterval
           rpcAttempts := ← rpcAttempts.number halfWordBound d.rpcAttempts }
  | _ => none

def ReadinessConfig.settings (c : ReadinessConfig) : List (String × Setting) :=
  [("health_interval_secs", .number c.healthInterval),
    ("health_attempts", .number c.healthAttempts),
    ("progress_settle_secs", .number c.progressSettle),
    ("rpc_interval_secs", .number c.rpcInterval),
    ("rpc_attempts", .number c.rpcAttempts)]

def ContractsConfig.ofField? (f : Field) : Option ContractsConfig := do
  match ← fields? ["names", "source_dir", "artifact_dir"] f with
  | [names, source, artifacts] =>
    let d := ContractsConfig.default
    some { names := ← names.texts d.names
           sourceDirectory := ← source.text d.sourceDirectory
           artifactDirectory := ← artifacts.text d.artifactDirectory }
  | _ => none

def ContractsConfig.settings (c : ContractsConfig) : List (String × Setting) :=
  [("names", .texts c.names),
    ("source_dir", .text c.sourceDirectory),
    ("artifact_dir", .text c.artifactDirectory)]

def DeployerConfig.ofField? (f : Field) : Option DeployerConfig := do
  match ← fields? ["package", "binary", "account"] f with
  | [package, binary, account] =>
    let d := DeployerConfig.default
    some { package := ← package.text d.package
           binary := ← binary.text d.binary
           account := ← account.text d.account }
  | _ => none

def DeployerConfig.settings (c : DeployerConfig) : List (String × Setting) :=
  [("package", .text c.package),
    ("binary", .text c.binary),
    ("account", .text c.account)]

def CycleConfig.ofField? (f : Field) : Option CycleConfig := do
  match ← fields? ["contract", "constructor", "suri", "subject", "compat_error_patterns"] f with
  | [contract, constructor, suri, subject, patterns] =>
    let d := CycleConfig.default
    some { contract := ← contract.text d.contract
           constructor := ← constructor.text d.constructor
           suri := ← suri.text d.suri
           subject := ← subject.text d.subject
           limitationPatterns := ← patterns.texts d.limitationPatterns }
  | _ => none

def CycleConfig.settings (c : CycleConfig) : List (String × Setting) :=
  [("contract", .text c.contract),
    ("constructor", .text c.constructor),
    ("suri", .text c.suri),
    ("subject", .text c.subject),
    ("compat_error_patterns", .texts c.limitationPatterns)]

namespace Config

def ofEntries? (entries : List (String × Value)) : Option Config := do
  match ← sectionFields? ["report_path", "tool_timeout_secs", "output_limit_bytes", "detail_lines",
      "environment", "node", "runtime", "readiness", "contracts", "deployer", "crud"]
      (.table entries) with
  | [reportPath, timeout, limit, lines, environment, node, runtime, readiness, contracts, deployer,
      cycle] =>
    let d := Config.default
    some { reportPath := ← reportPath.text d.reportPath
           toolTimeout := ← timeout.number wordBound d.toolTimeout
           outputLimit := ← limit.number wordBound d.outputLimit
           detailLines := ← lines.number wordBound d.detailLines
           environment := ← EnvironmentConfig.ofField? environment
           node := ← NodeConfig.ofField? node
           runtime := ← RuntimeConfig.ofField? runtime
           readiness := ← ReadinessConfig.ofField? readiness
           contracts := ← ContractsConfig.ofField? contracts
           deployer := ← DeployerConfig.ofField? deployer
           cycle := ← CycleConfig.ofField? cycle }
  | _ => none

def ofToml? (text : String) : Option Config := (Toml.ofText? text).bind ofEntries?

def settings (c : Config) : List (String × Setting) :=
  [("report_path", .text c.reportPath),
    ("tool_timeout_secs", .number c.toolTimeout),
    ("output_limit_bytes", .number c.outputLimit),
    ("detail_lines", .number c.detailLines)]

def sections (c : Config) : List (String × List (String × Setting)) :=
  [("environment", c.environment.settings),
    ("node", c.node.settings),
    ("runtime", c.runtime.settings),
    ("readiness", c.readiness.settings),
    ("contracts", c.contracts.settings),
    ("deployer", c.deployer.settings),
    ("crud", c.cycle.settings)]

/-- The configuration as a document that describes all of it. -/
def toToml (c : Config) : String := Toml.writeDocument c.settings c.sections

end Config

end NodeTrial
