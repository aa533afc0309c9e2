import NodeTrial.Report.Breakdown
import NodeTrial.Report.Cell

namespace NodeTrial.Report

/-- What a report tells about the machine and the time of the run. -/
structure Facts where
  generatedAt : String
  platform : String
  workingDirectory : String
  rustc : String
  cargo : String
  cargoContract : String
  node : String
  deriving DecidableEq, Repr

def verdict (t : Tally) : String :=
  if t.allPassed then
    "✅ **All executed checks passed** (" ++ toString t.skipped ++ " skipped)"
  else
    "❌ **" ++ toString t.failed ++ " of " ++ toString t.total ++ " checks failed**"

def resultRow (r : Record) : String :=
  row [toString r.index, cell r.name, r.outcome.icon ++ " " ++ r.outcome.label,
    (r.detail?.map cell).getD "-"]

def causeRow (e : CauseCount) : String :=
  row [e.cause.describe, toString e.failed, toString e.skipped]

/-- The lines from the title down to the head of the table of results. -/
def headLines (t : Tally) (f : Facts) : List String :=
  ["# Integration Test Report", "",
    "**Generated:** " ++ f.generatedAt,
    "**Project root:** `" ++ f.workingDirectory ++ "`", "",
    "## Summary", "",
    "| Metric | Count |",
    "|--------|-------|",
    row ["Total", toString t.total],
    row ["Passed", toString t.passed],
    row ["Failed", toString t.failed],
    row ["Skipped", toString t.skipped], "",
    verdict t, "",
    "## Results", "",
    "| # | Test | Result | Details |",
    "|---|------|--------|---------|"]

/-- The lines of the table of causes; none if there is nothing to list. -/
def causeLines (es : List CauseCount) : List String :=
  if es.isEmpty then []
  else
    ["", "## Non-passing checks by kind", "",
      "| Kind | Failed | Skipped |",
      "|------|--------|---------|"] ++ es.map causeRow

def factLines (f : Facts) : List String :=
  ["", "## Environment", "",
    "- **Platform:** " ++ f.platform,
    "- **Rust compiler:** " ++ f.rustc,
    "- **Cargo:** " ++ f.cargo,
    "- **cargo-contract:** " ++ f.cargoContract,
    "- **Node:** " ++ f.node]

def render (rs : List Record) (t : Tally) (f : Facts) : String :=
  "\n".intercalate
    (headLines t f ++ rs.map resultRow ++ causeLines (breakdown rs) ++ factLines f)

end NodeTrial.Report
