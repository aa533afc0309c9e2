import NodeTrial.Config.Basic
import NodeTrial.Report.Page
import NodeTrial.Surroundings

namespace NodeTrial.Report

def notAvailable : String := "Not available"

def versionOf (o : ToolOutput) : String :=
  match Text.firstLine? o.stdout with
  | some line => if o.success then line else notAvailable
  | none => notAvailable

def version (i : Invocation) : Trial String := do
  pure (versionOf (← Trial.tool i))

def nodeVersion (root binary : String) : Trial String := do
  if ← Trial.isFile binary then version ((Invocation.command binary ["--version"]).inDirectory root)
  else pure notAvailable

def collect (root : String) (c : Config) : Trial Facts := do
  let node ← nodeVersion root (Path.join root c.node.binary)
  let generatedAt ← Trial.time
  let platform ← Trial.platform
  let rustc ← version (.command "rustc" ["--version"])
  let cargo ← version (.command "cargo" ["--version"])
  let cargoContract ← version (.command "cargo" ["contract", "--version"])
  pure { generatedAt, platform, workingDirectory := root, rustc, cargo, cargoContract, node }

end NodeTrial.Report
