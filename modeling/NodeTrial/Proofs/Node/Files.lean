import NodeTrial.Machine.Care
import NodeTrial.Proofs.FileTree.Ways
import NodeTrial.Proofs.Node.HandleCases
import NodeTrial.Proofs.Run.Outputs

/-!
The files that the care for a node uses, in a world that leaves open what else becomes of them. While
time passes or a child is dealt with, the child and others may change them at will; what is asked of
the files themselves is answered by them as they are at that moment.
-/

namespace NodeTrial

open Dialogue

/-- The answer to the opening of a file, and the files after it. -/
def opened (files : FileTree) :
    Except FileError (FileTree × Nat) → Except FileError Nat × FileTree
  | .ok (files', id) => (.ok id, files')
  | .error e => (.error e, files)

/-- A world of which only the files are told, which are seen from `here`. -/
def careWorld (here : Place) : World MachineCall MachineCall.Answer FileTree
  | .createDirectories path, files, a, files' => files.createDirectories here path = (files', a)
  | .createFile path, files, a, files' =>
    opened files (files.openForWriting here path true) = (a, files')
  | .readText path, files, a, files' => a = files.readText here path ∧ files' = files
  | .removeFile path, files, a, files' => changed files (files.removeFile here path) = (a, files')
  | _, _, _, _ => True

/-- A machine answers the care for a node as its files demand. -/
theorem Machine.answer_careWorld (c : MachineCall) (m : Machine) :
    careWorld m.directory c m.files (((Machine.answer c).run m).1)
      (((Machine.answer c).run m).2).files := by
  cases c with
  | createDirectories path => rfl
  | createFile path =>
      change opened m.files (m.files.openForWriting m.directory path true) = _
      cases h : m.files.openForWriting m.directory path true <;>
        simp only [answer, h, opened, StateT.run] <;> rfl
  | readText path => exact ⟨rfl, rfl⟩
  | removeFile path =>
      change changed m.files (m.files.removeFile m.directory path) = _
      cases h : m.files.removeFile m.directory path <;>
        simp only [answer, h, changed, StateT.run] <;> rfl
  | _ => trivial

variable {here : Place} {files files' : FileTree} {path : String}

/-- What becomes of files when the one at a path is removed, if there is one: it is gone, and
whatever else there is stays. -/
structure FileTree.Cleared (here : Place) (path : String) (files files' : FileTree) : Prop where
  gone : ∀ q f, files.find here path = .ok (q, .file f) → files'.entry? q = none
  kept : ∀ q, (∀ f, files.find here path ≠ .ok (q, .file f)) → files'.entry? q = files.entry? q

theorem FileTree.cleared_of_removeFile {a : Except FileError Unit}
    (h : changed files (files.removeFile here path) = (a, files')) :
    FileTree.Cleared here path files files' := by
  unfold removeFile at h
  split at h
  next e hfind =>
    obtain ⟨-, rfl⟩ := Prod.mk.inj h
    exact ⟨fun q f hfile => by simp [hfind] at hfile, fun _ _ => rfl⟩
  next q hfind =>
    obtain ⟨-, rfl⟩ := Prod.mk.inj h
    exact ⟨fun q f hfile => by simp [hfind] at hfile, fun _ _ => rfl⟩
  next p f hfind =>
    obtain ⟨-, rfl⟩ := Prod.mk.inj h
    have hroot : p ≠ [] := ne_nil_of_entry? (place_of_find hfind).2 (by simp)
    constructor
    · intro q g hfile
      obtain ⟨rfl, -⟩ := Prod.mk.inj (Except.ok.inj (hfind.symm.trans hfile))
      exact entry?_erase_self hroot
    · intro q hq
      apply entry?_erase_of_ne
      rintro rfl
      exact hq f hfind

/-- A directory for logs, and the files in it. -/
def logTree (logs : List (String × File)) (fresh : Nat) : FileTree where
  entries := (logs.map fun (name, f) => (["logs", name], .file f)) ++ [(["logs"], .directory)]
  fresh := fresh

end NodeTrial
