import NodeTrial.Config.Basic
import NodeTrial.Pattern
import NodeTrial.Text.Quoted

namespace NodeTrial

inductive ConfigFault
  | toolTimeout
  | outputLimit
  | detailLines
  | httpTimeout
  | healthAttempts
  | rpcAttempts
  | noContracts
  | unlistedContract (name : String)
  | badPattern (pattern : String)
  deriving DecidableEq, Repr

namespace ConfigFault

def message : ConfigFault → String
  | toolTimeout => "tool_timeout_secs must be > 0"
  | outputLimit => "output_limit_bytes must be > 0"
  | detailLines => "detail_lines must be > 0"
  | httpTimeout => "environment.http_timeout_secs must be > 0"
  | healthAttempts => "readiness.health_attempts must be > 0"
  | rpcAttempts => "readiness.rpc_attempts must be > 0"
  | noContracts => "contracts.names must be a non-empty array"
  | unlistedContract name =>
    "crud.contract " ++ Text.quoted name ++ " must be listed in contracts.names"
  | badPattern pattern => "invalid crud.compat_error_patterns entry " ++ Text.quoted pattern

end ConfigFault

/-- The patterns of a cycle, or the first that cannot be read. -/
def CycleConfig.patterns (c : CycleConfig) : Except ConfigFault (List Pattern) :=
  (Pattern.ofTexts c.limitationPatterns).mapError .badPattern

/-- The first reason to refuse a configuration, or its patterns. -/
def Config.check (c : Config) : Except ConfigFault (List Pattern) :=
  if c.toolTimeout = 0 then .error .toolTimeout
  else if c.outputLimit = 0 then .error .outputLimit
  else if c.detailLines = 0 then .error .detailLines
  else if c.environment.httpTimeout = 0 then .error .httpTimeout
  else if c.readiness.healthAttempts = 0 then .error .healthAttempts
  else if c.readiness.rpcAttempts = 0 then .error .rpcAttempts
  else if c.contracts.names.isEmpty then .error .noContracts
  else if !c.contracts.names.contains c.cycle.contract then
    .error (.unlistedContract c.cycle.contract)
  else c.cycle.patterns

end NodeTrial
