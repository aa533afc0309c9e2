import NodeTrial.Rehearsal

namespace NodeTrial.Rehearsal

/-- The address that the scripts create a contract at. -/
def scriptedAddress : String := "5GrwvaEF5zXb26Fz9rcQpDWS57CtERHpNehXCPcNoHGKutQY"

/-- Answers of a complete set of tools, with builds that succeed. -/
def toolchainScript : List (String × ToolOutput) :=
  [("rustc --version", .ok "rustc 1.85.0 (4d91de4e4 2025-02-17)\n"),
    ("rustup target list --installed",
      .ok "x86_64-unknown-linux-gnu\nwasm32-unknown-unknown\n"),
    ("cargo contract --version", .ok "cargo-contract-contract 5.0.1\n"),
    ("cargo --version", .ok "cargo 1.85.0\n"),
    ("release/node --version", .ok "node 1.0.0-dev\n"),
    ("cargo build --release", .ok ""),
    ("cargo contract build", .ok "")]

def succeededCall : String := "\x7b\"reverted\": false, \"data\": \x7b\"Ok\": null\x7d\x7d"

def returned (data : String) : String :=
  "\x7b\"reverted\": false, \"data\": \x7b\"Ok\": " ++ data ++ "\x7d\x7d"

/-- Answers of a deployment and of a cycle in which every step passes. -/
def cycleScript : List (String × ToolOutput) :=
  [("cargo build --release", .ok ""),
    ("--account", .ok "Deployed 2 contracts\n"),
    ("cargo contract instantiate",
      .ok ("\x7b\"contract\": \"" ++ scriptedAddress ++ "\", \"code_hash\": \"0x00\"\x7d")),
    ("--message grant_entitlement", .ok succeededCall),
    ("--message get_entitlement", .ok (returned "\"Premium\"")),
    ("--message get_entitlement", .ok (returned "\"None\"")),
    ("--message has_entitlement", .ok (returned "true")),
    ("--message revoke_entitlement", .ok succeededCall)]

/-- The rules of a script, in the order in which their patterns first appear. -/
def rulesOf (script : List (String × ToolOutput)) : List ToolRule :=
  script.foldl (fun rules (pattern, output) => ToolRule.add pattern output rules) []

end NodeTrial.Rehearsal
