import NodeTrial.Surroundings

namespace NodeTrial.Report

/-- The step at which storing a report failed. -/
inductive StoreError
  | createDirectory (path : String) (cause : FileError)
  | writeTemporary (path : String) (cause : FileError)
  | replace (path : String) (cause : FileError)
  deriving DecidableEq, Repr

namespace StoreError

def message : StoreError → String
  | createDirectory path _ => "create directory " ++ path
  | writeTemporary path _ => "write temp report " ++ path
  | replace path _ => "replace report " ++ path

def cause : StoreError → FileError
  | createDirectory _ e => e
  | writeTemporary _ e => e
  | replace _ e => e

def fullMessage (e : StoreError) : String := e.message ++ ": " ++ e.cause.message

end StoreError

def temporaryPath (path : String) : String := path ++ ".tmp"

/-- Creates the directory of the report, if its path has one. -/
def prepare (path : String) : Trial (Except StoreError Unit) :=
  match Path.parent? path with
  | none => pure (.ok ())
  | some directory => do
    let r ← Trial.createDirectories directory
    pure (r.mapError (.createDirectory directory))

/-- Stores a report, in the place of what is there. -/
def store (path text : String) : Trial (Except StoreError Unit) := do
  match ← prepare path with
  | .error e => pure (.error e)
  | .ok () =>
    match ← Trial.writeFile (temporaryPath path) text with
    | .error e => pure (.error (.writeTemporary (temporaryPath path) e))
    | .ok () =>
      let r ← Trial.moveFile (temporaryPath path) path
      pure (r.mapError (.replace path))

end NodeTrial.Report
