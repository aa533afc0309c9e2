import NodeTrial.Phase.Basic

namespace NodeTrial.Phase.Environment

def compiler (s : Setting) : Trial Finding := do
  let o ← s.tool (.command "rustc" ["--version"])
  pure (s.versionFinding o "rustc")

def isListed (target list : String) : Bool :=
  (Text.lines list.toList).any fun line => String.ofList (Text.trim line) = target

def target (s : Setting) : Trial Finding := do
  let o ← s.tool (.command "rustup" ["target", "list", "--installed"])
  let t := s.config.environment.wasmTarget
  pure <|
    if !o.success then s.toolFailure o "rustup"
    else if isListed t o.stdout then .pass t
    else .fail .checkFailed (t ++ " not installed (rustup target add " ++ t ++ ")")

def contractTool (s : Setting) : Trial Finding := do
  let o ← s.tool (.command "cargo" ["contract", "--version"])
  pure (s.versionFinding o "cargo-contract")

def network (s : Setting) : Trial Finding := do
  let url := s.config.environment.dependencyUrl
  pure <|
    if ← Trial.isReachable url then .pass url
    else .fail .checkFailed ("Cannot reach " ++ url)

def checks (s : Setting) : List (String × Trial Finding) :=
  [("Rust toolchain available", compiler s),
    ("WASM target installed", target s),
    ("cargo-contract installed", contractTool s),
    ("Network connectivity", network s)]

def run (s : Setting) (st : Standing) : Trial Standing := do
  s.announce .environment
  st.carryOutAll s (checks s)

end NodeTrial.Phase.Environment
