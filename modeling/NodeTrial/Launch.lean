namespace NodeTrial

/-- How to start the node. Times are in milliseconds. -/
structure Launch where
  program : String
  args : List String
  directory : String
  logPath : String
  /-- The time between the start and the one look whether the node is still alive. -/
  settle : Nat
  /-- The time between asking the node to end and killing it. -/
  stopGrace : Nat
  deriving DecidableEq, Repr

/-- Why the node is not running after a start. -/
structure StartFailure where
  reason : String
  /-- The first lines that the node logged, if any. -/
  logExcerpt : String
  deriving DecidableEq, Repr

def StartFailure.display (f : StartFailure) : String :=
  if f.logExcerpt.isEmpty then f.reason else f.reason ++ ": " ++ f.logExcerpt

end NodeTrial
