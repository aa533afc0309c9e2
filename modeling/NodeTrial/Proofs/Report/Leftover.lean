import NodeTrial.Proofs.Report.Replacing

namespace NodeTrial

open Dialogue

variable {here : Place} {t t' : FileTree} {path text : String}

/-- A file is at a place at which there was none before. -/
def FileTree.NewFile (t t' : FileTree) (q : Place) : Prop :=
  (∃ f, t'.entry? q = some (.file f)) ∧ ∀ f, t.entry? q ≠ some (.file f)

theorem FileTree.Keeps.not_newFile {created : Place → Prop} {q : Place}
    (h : Keeps created t t' q) : ¬ t.NewFile t' q := by
  rintro ⟨⟨f, hfile⟩, hbefore⟩
  obtain hsame | ⟨-, hnew, -⟩ := h
  · apply hbefore f
    rw [← hsame, hfile]
  · rw [hfile] at hnew
    simp at hnew

namespace Report

/-- What storing a content leaves in the temporary file when it fails: a part of it if the writing
failed once the file was opened, and all of it if the move failed. -/
def StoreError.Leaves (content left : List UInt8) : StoreError → Prop
  | createDirectory .. => False
  | writeTemporary .. => ∃ n < content.length, left = content.take n
  | replace .. => left = content

/-- A temporary file that was opened anew is found under its path, and no other file is new. -/
theorem newFile_temporary {t₁ : FileTree} {content : List UInt8}
    (hkeeps : ∀ q, FileTree.Keeps (FileTree.Above here path) t t₁ q)
    (hopen : t₁.overwrite here (temporaryPath path) content = .ok t') :
    (∃ f : File, t'.find here (temporaryPath path) =
        .ok (FileTree.placeOf here (temporaryPath path), .file f) ∧ f.content = content) ∧
      ∀ q, t.NewFile t' q ↔
        q = FileTree.placeOf here (temporaryPath path) ∧ t.entry? q = none := by
  obtain ⟨hresolve, hplace, ⟨f, hcontent, hfile⟩, hothers, -⟩ := FileTree.overwrite_place hopen
  constructor
  · refine ⟨f, ?_, hcontent⟩
    obtain ⟨front, last, hbeside, hdot, hdots, -⟩ :=
      Path.parts_beside (u := ".tmp") (by decide) (by decide) path
    have hslash := Path.endsInSlash_beside (u := ".tmp") (by decide) (by decide) path
    have hkept : ∀ q, t₁.entry? q = some .directory → t'.entry? q = some .directory := by
      intro q hdirectory
      rw [hothers q, hdirectory]
      rintro rfl
      exact hplace hdirectory
    apply FileTree.find_of_present _ hslash
    rw [FileTree.resolve_name_transfer hbeside hdot hdots hkept hresolve]
    exact congrArg Except.ok (FileTree.targetAt_of_some hfile)
  · intro q
    by_cases hq : q = FileTree.placeOf here (temporaryPath path)
    · subst hq
      simp only [true_and]
      constructor
      · rintro ⟨-, hbefore⟩
        -- No file was there before, and no directory, because a file could be opened there.
        cases hentry : t.entry? (FileTree.placeOf here (temporaryPath path)) with
        | none => rfl
        | some entry =>
            cases entry with
            | directory => exact absurd ((hkeeps _).entry hentry) hplace
            | file g => exact absurd hentry (hbefore g)
      · intro hnone
        refine ⟨⟨f, hfile⟩, ?_⟩
        simp [hnone]
    · apply iff_of_false
      · intro hnew
        apply (hkeeps q).not_newFile
        rwa [FileTree.NewFile, ← hothers q hq]
      · rintro ⟨hsame, -⟩
        exact hq hsame

/-- What is left over of a report that cannot be stored. A file is new exactly if it is the temporary
file, nothing was at its place before, and it holds as much of the report as could be written before
the step that failed. If that step is the move, then the temporary file is there with the whole
report. -/
theorem store_leftover {e : StoreError}
    (h : (store path text).Plays (fileWorld here) t (.error e) t') :
    (∀ q, t.NewFile t' q ↔
      q = FileTree.placeOf here (temporaryPath path) ∧ t.entry? q = none ∧
        ∃ f : File, t'.find here (temporaryPath path) = .ok (q, .file f) ∧
          e.Leaves (Utf8.encode text.toList) f.content) ∧
      ∀ cause, e = .replace path cause →
        ∃ f : File, t'.find here (temporaryPath path) =
            .ok (FileTree.placeOf here (temporaryPath path), .file f) ∧
          f.content = Utf8.encode text.toList := by
  obtain ⟨t₁, hkeeps, -, hend⟩ := store_plays_cases h
  have hcases : t' = t₁ ∧ (∀ cause, e ≠ .replace path cause) ∨
      ∃ content, t₁.overwrite here (temporaryPath path) content = .ok t' ∧
        e.Leaves (Utf8.encode text.toList) content := by
    rcases hend with ⟨⟨directory, cause, he⟩, hsame⟩ | ⟨⟨cause, he⟩, hsame | ⟨n, hn, hopen⟩⟩ |
      ⟨t₂, hopen, ⟨he, -⟩ | ⟨⟨cause, he⟩, rfl⟩⟩
    · cases he
      exact .inl ⟨hsame, nofun⟩
    · cases he
      exact .inl ⟨hsame, nofun⟩
    · cases he
      exact .inr ⟨_, hopen, n, hn, rfl⟩
    · cases he
    · cases he
      exact .inr ⟨_, hopen, rfl⟩
  obtain ⟨rfl, hearlier⟩ | ⟨content, hopen, hleaves⟩ := hcases
  · constructor
    · intro q
      constructor
      · intro hnew
        exact absurd hnew (hkeeps q).not_newFile
      · rintro ⟨-, hnone, f, hf, -⟩
        exact ⟨⟨f, (FileTree.place_of_find hf).2⟩, by simp [hnone]⟩
    · intro cause hcause
      exact absurd hcause (hearlier cause)
  · obtain ⟨⟨f, hf, rfl⟩, hnew⟩ := newFile_temporary hkeeps hopen
    constructor
    · intro q
      rw [hnew q]
      constructor
      · rintro ⟨rfl, hnone⟩
        exact ⟨rfl, hnone, f, hf, hleaves⟩
      · rintro ⟨hq, hnone, -⟩
        exact ⟨hq, hnone⟩
    · rintro cause rfl
      exact ⟨f, hf, hleaves⟩

theorem store_plays_of_unwritten {directory : String} {t₁ : FileTree} {room : Room}
    {cause : FileError} (hparent : Path.parent? path = some directory)
    (hcreate : t.createDirectories here directory = (t₁, .ok ()))
    (hwrite : t₁.write here (temporaryPath path) (Utf8.encode text.toList) room =
      (t', .error cause)) :
    (store path text).Plays (fileWorld here) t
      (.error (.writeTemporary (temporaryPath path) cause)) t' :=
  plays_bind_iff.mpr ⟨_, t₁, prepare_plays_of_created hparent hcreate, plays_bind_iff.mpr ⟨_, t',
    plays_question_iff.mpr (.inl ⟨room, hwrite⟩), plays_pure_iff.mpr ⟨rfl, rfl⟩⟩⟩

/-- A report that is to be stored where a directory is leaves the whole temporary file, and one for
which the disk has no room leaves a part of it. -/
theorem store_leftover_reported :
    (∃ t', (store "out" "new").Plays (fileWorld []) reported
        (.error (.replace "out" .isDirectory)) t' ∧
      t'.entry? ["out"] = some .directory ∧ reported.NewFile t' ["out.tmp"] ∧
      ∃ f : File, t'.find [] "out.tmp" = .ok (["out.tmp"], .file f) ∧
        f.content = [110, 101, 119]) ∧
    ∃ t', (store "new.md" "new").Plays (fileWorld []) reported
        (.error (.writeTemporary "new.md.tmp" .noSpace)) t' ∧
      reported.NewFile t' ["new.md.tmp"] ∧
      ∃ f : File, t'.find [] "new.md.tmp" = .ok (["new.md.tmp"], .file f) ∧
        f.content = [110, 101] := by
  have hcreate : reported.createDirectories [] "" = (reported, .ok ()) := by decide
  constructor
  · have hwrite : reported.write [] (temporaryPath "out") (Utf8.encode "new".toList) .ample =
        (⟨[(["out.tmp"], .file ⟨1, [110, 101, 119], false⟩), (["out"], .directory),
          (["out", "report.md"], .file ⟨0, [111, 108, 100], false⟩)], 2⟩, .ok ()) := by decide
    have hmove : FileTree.move ⟨[(["out.tmp"], .file ⟨1, [110, 101, 119], false⟩),
          (["out"], .directory), (["out", "report.md"], .file ⟨0, [111, 108, 100], false⟩)], 2⟩ []
        (temporaryPath "out") "out" = .error .isDirectory := by decide
    have hplays := store_plays_of_written (by decide) hcreate hwrite hmove
    obtain ⟨hnew, hleft⟩ := store_leftover hplays
    obtain ⟨f, hf, hcontent⟩ := hleft .isDirectory rfl
    refine ⟨_, hplays, rfl, ?_, f, hf, hcontent⟩
    exact (hnew ["out.tmp"]).mpr ⟨rfl, rfl, f, hf, hcontent⟩
  · have hwrite : reported.write [] (temporaryPath "new.md") (Utf8.encode "new".toList)
        (.upTo 2 .noSpace) = (⟨[(["new.md.tmp"], .file ⟨1, [110, 101], false⟩), (["out"], .directory),
          (["out", "report.md"], .file ⟨0, [111, 108, 100], false⟩)], 2⟩, .error .noSpace) := by
      decide
    have hplays := store_plays_of_unwritten (by decide) hcreate hwrite
    obtain ⟨hnew, -⟩ := store_leftover hplays
    refine ⟨_, hplays, (hnew ["new.md.tmp"]).mpr ⟨rfl, rfl, _, rfl, 2, by decide, rfl⟩, _, rfl, rfl⟩

end Report

end NodeTrial
