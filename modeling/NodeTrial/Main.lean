import NodeTrial.CommandLine.Session
import NodeTrial.Machine.Date
import NodeTrial.Machine.Installation

/-!
The command line. A call works on a modelled machine that holds the files below the working
directory; what it changes there is then written back. The modelled machine has no network, and its
programs are the scripts below the working directory and the installed utilities.
-/

namespace NodeTrial.Main

/-- Whether a file counts as a program: it names its interpreter. -/
def isProgram (content : ByteArray) : Bool := content.toList.take 2 == [35, 33]

partial def readTree (directory : IO.FS.DirEntry) (place : Place) (t : FileTree) :
    IO FileTree := do
  let mut t := t
  for entry in ← directory.path.readDir do
    let here := place ++ [entry.fileName]
    if ← entry.path.isDir then
      t ← readTree entry here (t.put here .directory)
    else
      let content ← IO.FS.readBinFile entry.path
      t := t.putNew here content.toList (isProgram content)
  return t

def above (place : Place) : List Place :=
  (List.range place.length).map fun n => place.take (n + 1)

def writeEntry (place : Place) : Entry → IO Unit
  | .directory => IO.FS.createDirAll ("/" ++ "/".intercalate place)
  | .file f => IO.FS.writeBinFile ("/" ++ "/".intercalate place) ⟨f.content.toArray⟩

/-- Writes back what is below a place and differs from before; files that are gone are removed. -/
def writeChanges (place : Place) (before after : FileTree) : IO Unit := do
  for (p, e) in after.entries.reverse do
    if place.isPrefixOf p && e.isDirectory && before.entry? p != some e then writeEntry p e
  for (p, e) in after.entries.reverse do
    if place.isPrefixOf p && e.isFile && before.entry? p != some e then writeEntry p e
  for (p, e) in before.entries do
    if place.isPrefixOf p && e.isFile && (after.entry? p).isNone then
      IO.FS.removeFile ("/" ++ "/".intercalate p)

/-- The date, taken from a file that is created for that. -/
def currentDate : IO String := do
  let (_, path) ← IO.FS.createTempFile
  let seconds := (← path.metadata).modified.sec
  IO.FS.removeFile path
  return (Machine.Date.ofSeconds seconds).text

end NodeTrial.Main

open NodeTrial

def main (args : List String) : IO UInt32 := do
  let directory : IO.FS.DirEntry := ⟨← IO.currentDir, "."⟩
  let place := (directory.root.toString.splitOn "/").filter (!·.isEmpty)
  let installed := (Main.above place).foldl (fun t p => t.put p .directory) Machine.installedFiles
  let before ← Main.readTree directory place installed
  let searchPath := (← IO.getEnv "PATH").getD ""
  let machine := { Machine.installed before place searchPath with
    date := ← Main.currentDate
    platform := "modelled machine" }
  let ending := CommandLine.call machine .interrupt args
  Main.writeChanges place before ending.machine.files
  (← IO.getStdout).putStr ending.stdout
  (← IO.getStderr).putStr ending.stderr
  return ending.exitCode.toUInt32
