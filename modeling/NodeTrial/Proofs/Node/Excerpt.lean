import NodeTrial.Proofs.Node.Files
import NodeTrial.Proofs.Node.Keeping
import NodeTrial.Proofs.Node.SlotWorld
import NodeTrial.Proofs.Text.FullLines
import NodeTrial.Proofs.Text.Utf8

namespace NodeTrial

open Dialogue

namespace Utf8

/-- Some bytes are the UTF-8 form of a text. -/
def IsText (bytes : List UInt8) : Prop := ∃ cs, bytes = encode cs

theorem decodeLossy_encode (cs : List Char) : decodeLossy (encode cs) = cs := by
  simp [decodeLossy, decodeFrom_encode]

theorem isText_iff {bytes : List UInt8} : IsText bytes ↔ encode (decodeLossy bytes) = bytes := by
  constructor
  · rintro ⟨cs, rfl⟩
    rw [decodeLossy_encode]
  · intro h
    exact ⟨decodeLossy bytes, h.symm⟩

instance (bytes : List UInt8) : Decidable (IsText bytes) := decidable_of_iff _ isText_iff.symm

theorem decode?_of_isText {bytes : List UInt8} (h : IsText bytes) :
    decode? bytes = some (decodeLossy bytes) :=
  if_pos (isText_iff.mp h)

theorem decode?_of_not_isText {bytes : List UInt8} (h : ¬ IsText bytes) : decode? bytes = none :=
  if_neg fun hsame => h (isText_iff.mpr hsame)

end Utf8

/-- What the failure of a start tells about a node that was found dead, given the bytes of its log.
The excerpt is that of the log as the output of a tool would be decoded, if the log is UTF-8, and
empty otherwise. -/
structure StartFailure.Tells (f : StartFailure) (log : Except FileError (List UInt8)) : Prop where
  reason : f.reason = "Process exited during startup"
  lines : ∀ bytes, log = .ok bytes → Utf8.IsText bytes →
    f.logExcerpt = Text.join " | " ((Text.fullLines (Utf8.decodeLossy bytes)).take 5)
  nothing : (∀ bytes, log = .ok bytes → ¬ Utf8.IsText bytes) → f.logExcerpt = ""
  empty_iff : f.logExcerpt = "" ↔
    ∀ bytes, log = .ok bytes → Utf8.IsText bytes → (Utf8.decodeLossy bytes).all Text.isBlank = true

namespace NodeHandle

variable {here : Place} {files files' : FileTree} {path : String}

theorem readText_of_isText {bytes : List UInt8} (hread : files.read here path = .ok bytes)
    (htext : Utf8.IsText bytes) :
    files.readText here path = .ok (String.ofList (Utf8.decodeLossy bytes)) := by
  simp [FileTree.readText, hread, Utf8.decode?_of_isText htext]

theorem exists_fault_of_not_isText
    (h : ∀ bytes, files.read here path = .ok bytes → ¬ Utf8.IsText bytes) :
    ∃ fault, files.readText here path = .error fault := by
  cases hread : files.read here path with
  | error e => exact ⟨.file e, by simp [FileTree.readText, hread]⟩
  | ok bytes =>
      have hnone := Utf8.decode?_of_not_isText (h bytes hread)
      exact ⟨.encoding, by simp [FileTree.readText, hread, hnone]⟩

theorem excerpt_eq_empty_iff {text : String} :
    excerpt (.ok text) = "" ↔ text.toList.all Text.isBlank = true := by
  constructor
  · intro hempty
    have hblank : Text.blank (Text.firstLines text excerptLines) = true := by
      rw [← excerpt, hempty]
      rfl
    exact (Text.blank_firstLines_iff.mp hblank).resolve_left (by decide)
  · intro hblank
    exact Text.firstLines_eq_empty (Text.blank_firstLines_iff.mpr (.inr hblank))

/-- What is told of a dead node fits the log that was read. -/
theorem diedEarly_tells (files : FileTree) (here : Place) (path : String) :
    (diedEarly (files.readText here path)).Tells (files.read here path) := by
  by_cases h : ∃ bytes, files.read here path = .ok bytes ∧ Utf8.IsText bytes
  · obtain ⟨bytes, hread, htext⟩ := h
    rw [readText_of_isText hread htext, hread]
    have hsame {bytes' : List UInt8} (h : (Except.ok bytes : Except FileError _) = .ok bytes') :
        bytes' = bytes := (Except.ok.inj h).symm
    refine ⟨rfl, ?_, ?_, ?_⟩
    · intro bytes' h _
      rw [hsame h]
      simp [diedEarly, excerpt, Text.firstLines, excerptLines]
    · intro hnone
      exact absurd htext (hnone bytes rfl)
    · rw [diedEarly, excerpt_eq_empty_iff, String.toList_ofList]
      constructor
      · intro hblank bytes' h _
        rwa [hsame h]
      · intro hblank
        exact hblank bytes rfl htext
  · have hnone : ∀ bytes, files.read here path = .ok bytes → ¬ Utf8.IsText bytes := by
      intro bytes hread htext
      exact h ⟨bytes, hread, htext⟩
    obtain ⟨fault, hfault⟩ := exists_fault_of_not_isText hnone
    rw [hfault]
    refine ⟨rfl, ?_, fun _ => rfl, ?_⟩
    · intro bytes hread htext
      exact absurd htext (hnone bytes hread)
    · apply iff_of_true rfl
      intro bytes hread htext
      exact absurd htext (hnone bytes hread)

/-- How a start fails: the child could not be started, or it was found dead after it had had its
time to settle, and the failure tells of the log as it was then. -/
inductive FailsWith (here : Place) (l : Launch) (files : FileTree) : StartFailure → Prop
  | unstarted {cause : SpawnError} {m : FileTree}
      (plays : (spawnChild l).Plays (careWorld here) files (.error cause) m) :
      FailsWith here l files ⟨cause.message, ""⟩
  | dead {h seen : NodeHandle} {m₁ m₂ m₃ : FileTree} {e : StartFailure}
      (spawned : (spawn l).Plays (careWorld here) files (.ok h) m₁)
      (settled : (settle l.settle).Plays (careWorld here) m₁ () m₂)
      (looked : h.isAlive.Plays (careWorld here) m₂ (false, seen) m₃)
      (tells : e.Tells (m₃.read here l.logPath)) : FailsWith here l files e

theorem confirm_tells_log {h h' : NodeHandle} {r : Except StartFailure Unit}
    (hconfirm : h.confirm.Plays (careWorld here) files (r, h') files') :
    r = .ok () ∧ h.isAlive.Plays (careWorld here) files (true, h) files' ∨
      ∃ e seen m, r = .error e ∧ h.isAlive.Plays (careWorld here) files (false, seen) m ∧
        e.Tells (m.read here h.logPath) := by
  rcases confirm_cases hconfirm with
    ⟨rfl, -, hlook⟩ | ⟨seen, m, log, m', stopped, rfl, -, hlook, hread, -⟩
  · exact .inl ⟨rfl, hlook⟩
  · obtain ⟨rfl, -⟩ := plays_question_iff.mp hread
    rw [(isAlive_keeps hlook).2]
    exact .inr ⟨_, seen, m, rfl, hlook, diedEarly_tells m here h.logPath⟩

theorem start_failsWith {l : Launch} {e : StartFailure}
    (hstart : (start l).Plays (careWorld here) files (.error e) files') :
    FailsWith here l files e := by
  rcases start_cases hstart with ⟨e', he, hspawn⟩ | ⟨h, m₁, m₂, hspawn, hsettle, hlooked⟩
  · obtain rfl := Except.error.inj he
    rcases spawn_cases hspawn with ⟨p, hp, -⟩ | ⟨cause, m, htold, hchild, -⟩
    · cases hp
    · obtain rfl := Except.error.inj htold
      exact .unstarted hchild
  · rcases hlooked with ⟨hok, -⟩ | ⟨e', h', m₃, he, hconfirm, -⟩
    · cases hok
    · obtain rfl := Except.error.inj he
      rcases confirm_tells_log hconfirm with ⟨hok, -⟩ | ⟨e', seen, m, he, hlook, htells⟩
      · cases hok
      · obtain rfl := Except.error.inj he
        have hpath : h.logPath = l.logPath := by
          rcases spawn_cases hspawn with ⟨p, hp, -⟩ | ⟨cause, n, htold, -⟩
          · rw [Except.ok.inj hp]
            rfl
          · cases htold
        rw [hpath] at htells
        exact .dead hspawn hsettle hlook htells

/-- What failures show of the log, wherever a node is confirmed or started. A node that is not
confirmed was found dead, and the failure tells of its log as it was then; a start fails with such a
failure, or with one that says why the child could not be started and shows no log. In the slot a
start comes after a teardown. -/
theorem failures_tell (here : Place) :
    (∀ (h h' : NodeHandle) r files files',
      h.confirm.Plays (careWorld here) files (r, h') files' →
        r = .ok () ∧ h.isAlive.Plays (careWorld here) files (true, h) files' ∨
          ∃ e seen m, r = .error e ∧ h.isAlive.Plays (careWorld here) files (false, seen) m ∧
            e.Tells (m.read here h.logPath)) ∧
      (∀ l e files files', (start l).Plays (careWorld here) files (.error e) files' →
        FailsWith here l files e) ∧
      ∀ l e k k', (NodeSlot.start l).Plays (slotWorld (careWorld here)) k (.error e) k' →
        ∃ m, NodeSlot.teardown.Plays (slotWorld (careWorld here)) k () m ∧
          FailsWith here l m.state e := by
  refine ⟨fun _ _ _ _ _ => confirm_tells_log, fun _ _ _ _ => start_failsWith, ?_⟩
  intro l e k k' hslot
  obtain ⟨m, started, hdown, hstart, -, htold⟩ := NodeSlot.start_cases hslot
  cases started with
  | ok handle => cases htold
  | error e' =>
      obtain rfl := Except.error.inj htold
      exact ⟨m, hdown, start_failsWith hstart⟩

/-- A node that logs a line and then a byte that is not UTF-8, and dies. Of the line nothing is
shown. -/
theorem failures_tell_mangled :
    let bytes : List UInt8 := [111, 107, 10, 255]
    let logged := logTree [("node.log", ⟨0, bytes, false⟩)] 1
    let e : StartFailure := ⟨"Process exited during startup", ""⟩
    (∃ files, (start .plain).Plays (careWorld []) .empty (.error e) files) ∧
      FailsWith [] .plain .empty e ∧ e.Tells (logged.read [] "logs/node.log") ∧
      logged.read [] "logs/node.log" = .ok bytes ∧
      Text.firstLines (String.ofList (Utf8.decodeLossy bytes)) 5 = "ok | \uFFFD" := by
  intro bytes logged e
  have hdirectory : FileTree.empty.createDirectories [] "logs" = (logTree [] 0, .ok ()) := by decide
  have hcreate : opened (logTree [] 0) ((logTree [] 0).openForWriting [] "logs/node.log" true) =
      (.ok 0, logTree [("node.log", ⟨0, [], false⟩)] 1) := by decide
  have hread : logged.read [] "logs/node.log" = .ok bytes := by decide
  have htext : .error .encoding = logged.readText [] "logs/node.log" := by decide
  have hremove : changed logged (logged.removeFile [] "logs/node.log") =
      (.ok (), logTree [] 1) := by decide
  have hagain : changed (logTree [] 1) ((logTree [] 1).removeFile [] "logs/node.log") =
      (.error .notFound, logTree [] 1) := by decide
  have hstart : (start .plain).Plays (careWorld []) .empty (.error e) (logTree [] 1) := by
    refine ⟨[⟨.createDirectories "logs", .ok ()⟩, ⟨.createFile "logs/node.log", .ok 0⟩,
      ⟨.spawn "./node" ["--dev"] "/project" 0, .ok 7⟩, ⟨.hasExited 7, true⟩,
      ⟨.readText "logs/node.log", .error .encoding⟩, ⟨.hasExited 7, true⟩,
      ⟨.removeFile "logs/node.log", .ok ()⟩, ⟨.removeFile "logs/node.log", .error .notFound⟩],
      ?_, ?_⟩
    · exact .ask (.ask (.ask (.ask (.ask (.ask (.ask (.ask (.done _))))))))
    · exact ⟨_, hdirectory, _, hcreate, logged, trivial, logged, trivial, _, ⟨htext, rfl⟩, logged,
        trivial, _, hremove, _, hagain, rfl⟩
  refine ⟨⟨_, hstart⟩, (failures_tell []).2.1 _ _ _ _ hstart, ?_, hread, by decide⟩
  have htells := diedEarly_tells logged [] "logs/node.log"
  rwa [← htext] at htells

end NodeHandle

end NodeTrial
