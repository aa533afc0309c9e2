import NodeTrial.Text.Lines

namespace NodeTrial.Report

/-- A character inside a cell. -/
def escapeBar (c : Char) : List Char := if c = '|' then ['\\', '|'] else [c]

/-- A text as a cell: bars escaped, each line trimmed, blank lines dropped, and the others joined by
single blanks. -/
def cell (text : String) : String :=
  Text.join " " (Text.fullLines (text.toList.flatMap escapeBar))

def row (cells : List String) : String := "| " ++ " | ".intercalate cells ++ " |"

end NodeTrial.Report
