import NodeTrial.Outcome
import NodeTrial.Path
import NodeTrial.Text.Lines

namespace NodeTrial

structure Invocation where
  program : String
  args : List String
  /-- The directory to run it in; none for the current one. -/
  directory? : Option String
  deriving DecidableEq, Repr

namespace Invocation

def command (program : String) (args : List String) : Invocation := ⟨program, args, none⟩

def inDirectory (i : Invocation) (directory : String) : Invocation :=
  { i with directory? := some directory }

/-- The command line as one text, its words separated by blanks. -/
def display (i : Invocation) : String := " ".intercalate (i.program :: i.args)

def build (package : String) : Invocation :=
  command "cargo" ["build", "--release", "-p", package]

end Invocation

structure ToolOutput where
  /-- The exit code; none if the tool never ran or a signal ended it. -/
  exit? : Option Int
  stdout : String
  stderr : String
  /-- Whether the tool, or the subcommand asked of it, does not exist. -/
  missing : Bool
  timedOut : Bool
  deriving DecidableEq, Repr

namespace ToolOutput

def ok (stdout : String) : ToolOutput := ⟨some 0, stdout, "", false, false⟩

def failed (exit : Int) (stderr : String) : ToolOutput := ⟨some exit, "", stderr, false, false⟩

def notFound (program : String) : ToolOutput :=
  ⟨none, "", program ++ ": command not found", true, false⟩

def success (o : ToolOutput) : Bool := o.exit? == some 0 && !o.timedOut

/-- Both streams; one that is blank is left out, and otherwise they are put on separate lines. -/
def combined (o : ToolOutput) : String :=
  if Text.blank o.stderr then o.stdout
  else if Text.blank o.stdout then o.stderr
  else o.stdout ++ "\n" ++ o.stderr

/-- The stream that explains a failure: the error stream unless that is blank. -/
def diagnostic (o : ToolOutput) : String :=
  if Text.blank o.stderr then o.stdout else o.stderr

def exitText : Option Int → String
  | some code => "Some(" ++ toString code ++ ")"
  | none => "None"

/-- What an unsuccessful invocation of a tool means, in `detailLines` lines, where invocations are
given `timeout` seconds. -/
def failure (o : ToolOutput) (tool : String) (detailLines timeout : Nat) : Cause × String :=
  if o.missing then (.toolMissing, tool ++ " not found in PATH")
  else if o.timedOut then (.timeout, tool ++ " timed out after " ++ toString timeout ++ "s")
  else
    let detail := Text.firstLines o.diagnostic detailLines
    (.compileFailure,
      if detail.isEmpty then tool ++ " exited with " ++ exitText o.exit? else detail)

def versionLine (o : ToolOutput) : String := (Text.firstLine? o.stdout).getD ""

/-- The signatures by which a tool tells that it lacks the subcommand asked of it. -/
def missingSignatures : List String := ["no such command", "no such subcommand"]

/-- What a tool gave back that ran: the subcommand is missing if the error stream says so. -/
def ofRun (exit? : Option Int) (stdout stderr : String) (timedOut : Bool) : ToolOutput :=
  { exit?, stdout, stderr, timedOut, missing := missingSignatures.any (Text.contains stderr) }

/-- What becomes of an invocation that could not be started for a reason other than a missing
program. -/
def notStarted (reason : String) : ToolOutput := ⟨none, "", reason, false, false⟩

end ToolOutput

end NodeTrial
