import NodeTrial.Check

namespace NodeTrial

inductive Phase
  | environment
  | build
  | runtime
  | integration
  | reporting
  deriving DecidableEq, Repr

namespace Phase

def title : Phase → String
  | environment => "Phase 1: Environment Validation"
  | build => "Phase 2: Build Verification"
  | runtime => "Phase 3: Runtime Testing"
  | integration => "Phase 4: Integration Testing"
  | reporting => "Phase 5: Cleanup & Reporting"

/-- The line that announces a phase, with an empty line before it. -/
def banner (p : Phase) : String := "\n=== " ++ p.title ++ " ==="

end Phase

def Setting.announce (s : Setting) (p : Phase) : Trial Unit := s.tell p.banner

end NodeTrial
