import NodeTrial.Proofs.FileTree.Ways
import NodeTrial.Proofs.Run.Outputs

namespace NodeTrial

open Dialogue

variable {here : Place} {t t' : FileTree} {path text : String}

namespace FileTree

theorem ne_snoc_of_length_le {p d : Place} {name : String} (h : p.length ≤ d.length) :
    p ≠ d ++ [name] := by
  rintro rfl
  rw [List.length_append, List.length_singleton] at h
  omega

theorem follow_ne_snoc {part name : String} (h : part ≠ name) (d : Place) :
    follow d part ≠ d ++ [name] := by
  unfold follow
  split_ifs
  · exact ne_snoc_of_length_le (Nat.le_refl _)
  · exact ne_snoc_of_length_le (by simp)
  · simpa using h

theorem placeOf_beside_ne {u : String} (hu : '/' ∉ u.toList) (hlong : 2 < u.toList.length)
    (hpath : path ≠ "") : placeOf here path ≠ placeOf here (path ++ u) := by
  obtain ⟨front, last, hbeside, hdot, hdots, hother, hparts, -⟩ :=
    Path.parts_beside hu hlong path
  rw [placeOf, placeOf, origin_append hpath, hbeside, placeAlong_snoc, follow_name hdot hdots]
  obtain hparts | hparts := hparts
  · rw [hparts]
    exact ne_snoc_of_length_le (Nat.le_refl _)
  · rw [hparts, placeAlong_snoc]
    exact follow_ne_snoc hother _

theorem replaced_ok {u : String} {content : List UInt8} {t₁ t₂ : FileTree} (hrooted : t.Rooted)
    (hu : '/' ∉ u.toList) (hlong : 2 < u.toList.length)
    (hwrite : t.overwrite here (path ++ u) content = .ok t₁)
    (hmove : t₁.move here (path ++ u) path = .ok t₂) :
    (∃ f : File, t₂.find here path = .ok (placeOf here path, .file f) ∧ f.content = content) ∧
      t₂.resolve here (path ++ u) = .ok (.free (placeOf here (path ++ u))) ∧
      ∀ q, q ≠ placeOf here path → q ≠ placeOf here (path ++ u) → t₂.entry? q = t.entry? q := by
  obtain ⟨front, last, hbeside, hdot, hdots, -⟩ := Path.parts_beside hu hlong path
  have hslash := Path.endsInSlash_beside hu hlong path
  obtain ⟨hbefore, hplace, ⟨f, hcontent, hf⟩, hothers, hrooted₁⟩ := overwrite_place hwrite
  have hkept : ∀ q, t.entry? q = some .directory → t₁.entry? q = some .directory := by
    intro q hq
    rw [hothers q fun heq => hplace (heq ▸ hq), hq]
  have hsource : t₁.resolve here (path ++ u) =
      .ok (.present (placeOf here (path ++ u)) (.file f)) := by
    rw [resolve_name_transfer hbeside hdot hdots hkept hbefore, targetAt_of_some hf]
  obtain ⟨-, hnoslash, target, hresolve, hmoved⟩ := move_file (find_of_present hsource hslash) hmove
  obtain rfl := resolve_eq_targetAt hresolve
  have hne : placeOf here path ≠ placeOf here (path ++ u) :=
    placeOf_beside_ne hu hlong (resolve_eq_ok_iff.mp hresolve).1.1
  obtain ⟨htarget, hnew, hgone, hothers'⟩ := moveFileTo_file (hrooted₁ hrooted) hf hne hmoved
  have hkept' : ∀ q, t₁.entry? q = some .directory → t₂.entry? q = some .directory := by
    intro q hq
    rw [hothers' q (fun heq => htarget (heq ▸ hq)) (fun heq => by simp [heq, hf] at hq), hq]
  refine ⟨⟨f, find_of_present ?_ hnoslash, hcontent⟩, ?_, fun q hq hq' => ?_⟩
  · rw [resolve_transfer hkept' (fun _ => by simp [hnew]) hresolve, targetAt_of_some hnew]
  · rw [resolve_name_transfer hbeside hdot hdots hkept' hsource, targetAt_of_none hgone]
  · rw [hothers' q hq hq', hothers q hq']

theorem CreatedInPart.keeps (h : t.CreatedInPart here path t') :
    (∀ q, Keeps (Passed (origin here path) (Path.steps path)) t t' q) ∧
      (t.Rooted → t'.Rooted) := by
  obtain ⟨n, hcreated⟩ := h
  obtain ⟨hkeeps, hrooted⟩ := createDirectoriesAt_keeps hcreated
  rw [List.drop_reverse, List.reverse_reverse] at hkeeps
  exact ⟨fun q => (hkeeps q).mono fun hq => hq.of_prefix (List.take_prefix _ _), hrooted⟩

end FileTree

theorem fileWorld_created {created : Except FileError Unit}
    (h : fileWorld here (.createDirectories path) t created t') :
    (∀ q, FileTree.Keeps (FileTree.Passed (FileTree.origin here path) (Path.steps path)) t t' q) ∧
      (t.Rooted → t'.Rooted) := by
  obtain hcreate | ⟨-, hpart⟩ := h
  · exact FileTree.createDirectories_keeps hcreate
  · exact hpart.keeps

namespace Report

/-- What becomes of a file tree when a report is stored: the path is a file of the whole text, its
temporary file is gone, and everything else is as before but for new directories above the path. -/
structure Replaced (here : Place) (path text : String) (t t' : FileTree) : Prop where
  stored : ∃ f : File, t'.find here path = .ok (FileTree.placeOf here path, .file f) ∧
    f.content = Utf8.encode text.toList
  removed : t'.resolve here (temporaryPath path) =
    .ok (.free (FileTree.placeOf here (temporaryPath path)))
  others : ∀ q, q ≠ FileTree.placeOf here path → q ≠ FileTree.placeOf here (temporaryPath path) →
    FileTree.Keeps (FileTree.Above here path) t t' q

/-- What becomes of a file tree when a report cannot be stored: whatever was found at the path is
found there still, and nothing new is found there but a directory above the path itself. -/
structure Unreplaced (here : Place) (path : String) (t t' : FileTree) : Prop where
  kept : ∀ p e, t.find here path = .ok (p, e) → t'.find here path = .ok (p, e)
  found : ∀ p e, t'.find here path = .ok (p, e) → t.entry? p = some e ∨
    t.entry? p = none ∧ e = .directory ∧ FileTree.Above here path p
  others : ∀ q, q ≠ FileTree.placeOf here (temporaryPath path) →
    FileTree.Keeps (FileTree.Above here path) t t' q

theorem unreplaced_of_keeps
    (hkeeps : ∀ q, q ≠ FileTree.placeOf here (temporaryPath path) →
      FileTree.Keeps (FileTree.Above here path) t t' q)
    (htemporary : t.entry? (FileTree.placeOf here (temporaryPath path)) = some .directory →
      t'.entry? (FileTree.placeOf here (temporaryPath path)) = some .directory) :
    Unreplaced here path t t' := by
  have hne {t : FileTree} {p : Place} {e : Entry} (h : t.find here path = .ok (p, e)) :
      FileTree.placeOf here path ≠ FileTree.placeOf here (temporaryPath path) := by
    have hspelled := (FileTree.resolve_eq_ok_iff.mp (FileTree.find_eq_ok_iff.mp h).1).1
    exact FileTree.placeOf_beside_ne (by decide) (by decide) hspelled.1
  have hkept : ∀ q, t.entry? q = some .directory → t'.entry? q = some .directory := by
    intro q hq
    by_cases htemp : q = FileTree.placeOf here (temporaryPath path)
    · subst htemp
      exact htemporary hq
    · exact (hkeeps q htemp).entry hq
  refine ⟨fun p e h => ?_, fun p e h => ?_, hkeeps⟩
  · obtain ⟨rfl, he⟩ := FileTree.place_of_find h
    exact FileTree.find_transfer hkept h ((hkeeps _ (hne h)).entry he)
  · obtain ⟨rfl, he⟩ := FileTree.place_of_find h
    obtain hsame | ⟨hnone, hnew, habove⟩ := hkeeps _ (hne h)
    · exact .inl (hsame.symm.trans he)
    · rw [hnew] at he
      exact .inr ⟨hnone, (Option.some.inj he).symm, habove⟩

theorem prepare_plays {prepared : Except StoreError Unit}
    (h : (prepare path).Plays (fileWorld here) t prepared t') :
    (∀ q, FileTree.Keeps (FileTree.Above here path) t t' q) ∧ (t.Rooted → t'.Rooted) ∧
      ∀ e, prepared = .error e → ∃ directory cause, e = .createDirectory directory cause := by
  unfold prepare at h
  split at h
  next =>
    obtain ⟨rfl, rfl⟩ := plays_pure_iff.mp h
    exact ⟨fun q => .inl rfl, id, nofun⟩
  next directory hparent =>
    obtain ⟨created, m, hcreate, hdone⟩ := plays_bind_iff.mp h
    obtain ⟨rfl, rfl⟩ := plays_pure_iff.mp hdone
    obtain ⟨hkeeps, hrooted⟩ := fileWorld_created (plays_question_iff.mp hcreate)
    refine ⟨fun q => (hkeeps q).mono (FileTree.above_of_passed hparent), hrooted, ?_⟩
    intro e he
    cases created with
    | ok _ => cases he
    | error cause => exact ⟨directory, cause, (Except.error.inj he).symm⟩

/-- What storing a report can come to. Up to the temporary file nothing but directories is created.
The temporary file may be written in part only, and as a whole it is moved or stays. -/
theorem store_plays_cases {stored : Except StoreError Unit}
    (h : (store path text).Plays (fileWorld here) t stored t') :
    ∃ t₁, (∀ q, FileTree.Keeps (FileTree.Above here path) t t₁ q) ∧ (t.Rooted → t₁.Rooted) ∧
      ((∃ directory cause, stored = .error (.createDirectory directory cause)) ∧ t' = t₁ ∨
        (∃ cause, stored = .error (.writeTemporary (temporaryPath path) cause)) ∧
          (t' = t₁ ∨ ∃ n < (Utf8.encode text.toList).length,
            t₁.overwrite here (temporaryPath path) ((Utf8.encode text.toList).take n) = .ok t') ∨
        ∃ t₂, t₁.overwrite here (temporaryPath path) (Utf8.encode text.toList) = .ok t₂ ∧
          (stored = .ok () ∧ t₂.move here (temporaryPath path) path = .ok t' ∨
            (∃ cause, stored = .error (.replace path cause)) ∧ t' = t₂)) := by
  obtain ⟨prepared, t₁, hprepare, h⟩ := plays_bind_iff.mp h
  obtain ⟨hkeeps, hrooted, htold⟩ := prepare_plays hprepare
  refine ⟨t₁, hkeeps, hrooted, ?_⟩
  cases prepared with
  | error fault =>
      obtain ⟨rfl, rfl⟩ := plays_pure_iff.mp h
      obtain ⟨directory, cause, rfl⟩ := htold fault rfl
      exact .inl ⟨⟨directory, cause, rfl⟩, rfl⟩
  | ok _ =>
      right
      obtain ⟨written, t₂, hwrite, h⟩ := plays_bind_iff.mp h
      have hwritten := plays_question_iff.mp hwrite
      cases written with
      | error cause =>
          obtain ⟨rfl, rfl⟩ := plays_pure_iff.mp h
          exact .inl ⟨⟨cause, rfl⟩, fileWorld_unwritten hwritten⟩
      | ok _ =>
          right
          refine ⟨t₂, fileWorld_written hwritten, ?_⟩
          obtain ⟨moved, t₃, hmove, h⟩ := plays_bind_iff.mp h
          have hmoved := plays_question_iff.mp hmove
          obtain ⟨rfl, rfl⟩ := plays_pure_iff.mp h
          cases moved with
          | ok _ => exact .inl ⟨rfl, fileWorld_moved hmoved⟩
          | error cause => exact .inr ⟨⟨cause, rfl⟩, fileWorld_unmoved hmoved⟩

/-- A report is replaced as a whole or not at all. In every tree of files, storing a report ends, and
it leaves the tree with the new report in place of whatever was there, or with what was there. -/
theorem store_atomic (hrooted : t.Rooted) (here : Place) (path text : String) :
    (∃ stored t', (store path text).Plays (fileWorld here) t stored t') ∧
      ∀ stored t', (store path text).Plays (fileWorld here) t stored t' →
        (stored = .ok () → Replaced here path text t t') ∧
          ∀ e, stored = .error e → Unreplaced here path t t' := by
  constructor
  · exact ⟨_, _, (plays_functional_run (fileAnswer here) (store path text) t).mono
      fileWorld_of_fileAnswer⟩
  · intro stored t' h
    obtain ⟨t₁, hkeeps, hrooted₁, hend⟩ := store_plays_cases h
    have hwritten {t₂ : FileTree} {content : List UInt8}
        (hopen : t₁.overwrite here (temporaryPath path) content = .ok t₂) :
        Unreplaced here path t t₂ := by
      obtain ⟨-, hplace, -, hothers, -⟩ := FileTree.overwrite_place hopen
      apply unreplaced_of_keeps
      · intro q hq
        exact (hkeeps q).trans (.inl (hothers q hq))
      · intro htemporary
        exact absurd ((hkeeps _).entry htemporary) hplace
    have hsame : Unreplaced here path t t₁ := unreplaced_of_keeps (fun q _ => hkeeps q) (hkeeps _).entry
    rcases hend with ⟨⟨directory, cause, rfl⟩, rfl⟩ | ⟨⟨cause, rfl⟩, rfl | ⟨n, -, hopen⟩⟩ |
      ⟨t₂, hopen, ⟨rfl, hmove⟩ | ⟨⟨cause, rfl⟩, rfl⟩⟩
    · exact ⟨nofun, fun _ _ => hsame⟩
    · exact ⟨nofun, fun _ _ => hsame⟩
    · exact ⟨nofun, fun _ _ => hwritten hopen⟩
    · refine ⟨fun _ => ?_, nofun⟩
      obtain ⟨hstored, hremoved, hothers⟩ :=
        FileTree.replaced_ok (hrooted₁ hrooted) (by decide) (by decide) hopen hmove
      refine ⟨hstored, hremoved, ?_⟩
      intro q hq hq'
      exact (hkeeps q).trans (.inl (hothers q hq hq'))
    · exact ⟨nofun, fun _ _ => hwritten hopen⟩

theorem prepare_plays_of_created {directory : String} {t₁ : FileTree}
    (hparent : Path.parent? path = some directory)
    (hcreate : t.createDirectories here directory = (t₁, .ok ())) :
    (prepare path).Plays (fileWorld here) t (.ok ()) t₁ := by
  rw [prepare, hparent]
  exact plays_bind_iff.mpr
    ⟨_, t₁, plays_question_iff.mpr (.inl hcreate), plays_pure_iff.mpr ⟨rfl, rfl⟩⟩

theorem store_plays_of_written {directory : String} {t₁ t₂ : FileTree}
    {moved : Except FileError FileTree} (hparent : Path.parent? path = some directory)
    (hcreate : t.createDirectories here directory = (t₁, .ok ()))
    (hwrite : t₁.write here (temporaryPath path) (Utf8.encode text.toList) .ample = (t₂, .ok ()))
    (hmove : t₂.move here (temporaryPath path) path = moved) :
    (store path text).Plays (fileWorld here) t ((changed t₂ moved).1.mapError (.replace path))
      (changed t₂ moved).2 := by
  subst hmove
  exact plays_bind_iff.mpr ⟨_, t₁, prepare_plays_of_created hparent hcreate, plays_bind_iff.mpr ⟨_, t₂,
    plays_question_iff.mpr (.inl ⟨_, hwrite⟩), plays_bind_iff.mpr ⟨_, _,
      plays_question_iff.mpr (.inl rfl), plays_pure_iff.mpr ⟨rfl, rfl⟩⟩⟩⟩

/-- A tree with a report in a directory. -/
def reported : FileTree :=
  ⟨[(["out"], .directory), (["out", "report.md"], .file ⟨0, [111, 108, 100], false⟩)], 1⟩

/-- An old report is replaced by way of a new directory, which stays. -/
theorem store_atomic_reported :
    reported.Rooted ∧ ∃ t',
      (store "out/logs/../report.md" "new").Plays (fileWorld []) reported (.ok ()) t' ∧
        Replaced [] "out/logs/../report.md" "new" reported t' ∧
        t'.entry? ["out", "logs"] = some .directory := by
  have hcreate : reported.createDirectories [] "out/logs/.." =
      (⟨[(["out", "logs"], .directory), (["out"], .directory),
        (["out", "report.md"], .file ⟨0, [111, 108, 100], false⟩)], 1⟩, .ok ()) := by decide
  have hwrite : FileTree.write ⟨[(["out", "logs"], .directory), (["out"], .directory),
        (["out", "report.md"], .file ⟨0, [111, 108, 100], false⟩)], 1⟩ []
      (temporaryPath "out/logs/../report.md") (Utf8.encode "new".toList) .ample =
        (⟨[(["out", "report.md.tmp"], .file ⟨1, [110, 101, 119], false⟩),
          (["out", "logs"], .directory), (["out"], .directory),
          (["out", "report.md"], .file ⟨0, [111, 108, 100], false⟩)], 2⟩, .ok ()) := by decide
  have hmove : FileTree.move ⟨[(["out", "report.md.tmp"], .file ⟨1, [110, 101, 119], false⟩),
          (["out", "logs"], .directory), (["out"], .directory),
          (["out", "report.md"], .file ⟨0, [111, 108, 100], false⟩)], 2⟩ []
      (temporaryPath "out/logs/../report.md") "out/logs/../report.md" =
        .ok ⟨[(["out", "report.md"], .file ⟨1, [110, 101, 119], false⟩),
          (["out", "logs"], .directory), (["out"], .directory)], 2⟩ := by decide
  have hrooted : reported.Rooted := FileTree.rooted_of_entries (by decide)
  have hplays := store_plays_of_written (by decide) hcreate hwrite hmove
  obtain ⟨-, hatomic⟩ := store_atomic hrooted [] "out/logs/../report.md" "new"
  exact ⟨hrooted, _, hplays, (hatomic _ _ hplays).1 rfl, rfl⟩

/-- A path that leads through the place that it means: the place is made a directory on the way to
it, and the report cannot be put there. -/
theorem store_failed_above_itself :
    FileTree.empty.Rooted ∧ (∀ p e, FileTree.empty.find [] "a/../a" ≠ .ok (p, e)) ∧
      ∃ t', (store "a/../a" "x").Plays (fileWorld []) .empty
          (.error (.replace "a/../a" .isDirectory)) t' ∧
        t'.find [] "a/../a" = .ok (["a"], .directory) := by
  have hcreate : FileTree.empty.createDirectories [] "a/.." =
      (⟨[(["a"], .directory)], 0⟩, .ok ()) := by decide
  have hwrite : FileTree.write ⟨[(["a"], .directory)], 0⟩ [] (temporaryPath "a/../a")
      (Utf8.encode "x".toList) .ample =
        (⟨[(["a.tmp"], .file ⟨0, [120], false⟩), (["a"], .directory)], 1⟩, .ok ()) := by decide
  have hmove : FileTree.move ⟨[(["a.tmp"], .file ⟨0, [120], false⟩), (["a"], .directory)], 1⟩ []
      (temporaryPath "a/../a") "a/../a" = .error .isDirectory := by decide
  have hplays := store_plays_of_written (by decide) hcreate hwrite hmove
  have hfind : FileTree.empty.find [] "a/../a" = .error .notFound := by decide
  refine ⟨FileTree.rooted_of_entries (List.forall_mem_nil _), by simp [hfind], _, hplays, ?_⟩
  decide

end Report

end NodeTrial
