import NodeTrial.Machine.Basic

namespace NodeTrial.Machine

def utilityDirectories : List Place := [["bin"], ["usr", "bin"]]

def withUtilities (t : FileTree) (directory : Place) : FileTree :=
  Shell.Utility.all.foldl (fun t u => t.putNew (directory ++ [u.name]) u.image true) t

def installedFiles : FileTree :=
  let directories : List Place := [["bin"], ["usr"], ["usr", "bin"], ["tmp"], ["dev"]]
  let t := directories.foldl (fun t p => t.put p .directory) FileTree.empty
  utilityDirectories.foldl withUtilities t

def firstPid : Nat := 100001

/-- A machine with some files, on which the program runs in a directory and looks for tools in
others. -/
def installed (files : FileTree) (directory : Place) (searchPath : String) : Machine :=
  { files
    clock := 0
    directory
    bindings := [("PATH", searchPath)]
    children := []
    nextPid := firstPid
    shown := []
    appointment? := none
    vigil? := none
    date := ""
    platform := "" }

end NodeTrial.Machine
