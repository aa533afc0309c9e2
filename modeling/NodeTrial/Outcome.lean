namespace NodeTrial

inductive Outcome
  | pass
  | fail
  | skip
  deriving DecidableEq, Repr

namespace Outcome

def label : Outcome → String
  | pass => "PASS"
  | fail => "FAIL"
  | skip => "SKIP"

def icon : Outcome → String
  | pass => "✅"
  | fail => "❌"
  | skip => "⏭️"

def marker : Outcome → String
  | pass => "✓"
  | fail => "✗"
  | skip => "⊘"

end Outcome

inductive Cause
  /-- A required executable is absent. -/
  | toolMissing
  /-- A build or another tool ended with an error. -/
  | compileFailure
  /-- The node died while it was starting. -/
  | spawnFailure
  /-- A poll or a tool used up its time. -/
  | timeout
  /-- The check ran and saw the wrong thing. -/
  | checkFailed
  /-- Something that the check needs was not there, so it was not tried. -/
  | unmetPrerequisite
  /-- The answer carries the signature of a known limitation of the node. -/
  | knownLimitation
  deriving DecidableEq, Repr

namespace Cause

def describe : Cause → String
  | toolMissing => "tool missing"
  | compileFailure => "compile failure"
  | spawnFailure => "spawn failure"
  | timeout => "timeout"
  | checkFailed => "check failed"
  | unmetPrerequisite => "unmet prerequisite"
  | knownLimitation => "known upstream limitation"

/-- All causes in the order in which a report lists them. -/
def all : List Cause :=
  [toolMissing, compileFailure, spawnFailure, timeout, checkFailed, unmetPrerequisite,
    knownLimitation]

def rank : Cause → Nat
  | toolMissing => 0
  | compileFailure => 1
  | spawnFailure => 2
  | timeout => 3
  | checkFailed => 4
  | unmetPrerequisite => 5
  | knownLimitation => 6

end Cause

/-- What a check can wait for. -/
inductive Prerequisite
  | nodeBinary
  | nodeRunning
  | nodeReady
  | deployerBinary
  | contractCompiled
  | contractArtifact
  | deploySucceeded
  deriving DecidableEq, Repr

/-- The detail of a check that was skipped because the prerequisite was not met. -/
def Prerequisite.skipReason : Prerequisite → String
  | nodeBinary => "Node binary not built"
  | nodeRunning => "Node not running"
  | nodeReady => "Node not ready"
  | deployerBinary => "Deployer binary not built"
  | contractCompiled => "Compilation failed"
  | contractArtifact => "Contract not built"
  | deploySucceeded => "Deploy failed"

/-- What a check found out: its outcome with a cause, if it did not pass, and a detail. -/
inductive Finding
  | pass (detail : String)
  | fail (cause : Cause) (detail : String)
  | skip (cause : Cause) (detail : String)
  deriving DecidableEq, Repr

namespace Finding

def outcome : Finding → Outcome
  | pass _ => .pass
  | fail .. => .fail
  | skip .. => .skip

def cause? : Finding → Option Cause
  | pass _ => none
  | fail cause _ => some cause
  | skip cause _ => some cause

def detail : Finding → String
  | pass detail => detail
  | fail _ detail => detail
  | skip _ detail => detail

def unmet (p : Prerequisite) : Finding := .skip .unmetPrerequisite p.skipReason

end Finding

end NodeTrial
