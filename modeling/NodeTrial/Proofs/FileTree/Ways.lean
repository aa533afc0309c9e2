import NodeTrial.Proofs.FileTree.Replacement
import NodeTrial.Proofs.Path

namespace NodeTrial

namespace FileTree

variable {t t' t'' : FileTree} {here p q : Place} {path : String}

/-- Where parts lead, one after the other. -/
def placeAlong (here : Place) (parts : List String) : Place := parts.foldl follow here

/-- The place that a path means. -/
def placeOf (here : Place) (path : String) : Place :=
  placeAlong (origin here path) (Path.parts path)

theorem placeAlong_snoc (here : Place) (front : List String) (last : String) :
    placeAlong here (front ++ [last]) = follow (placeAlong here front) last := by
  rw [placeAlong, List.foldl_append]
  rfl

theorem targetAt_eq_present {e : Entry} (h : t.targetAt q = .present p e) :
    p = q ∧ t.entry? q = some e := by
  cases hq : t.entry? q with
  | none =>
      rw [targetAt_of_none hq] at h
      cases h
  | some e' =>
      rw [targetAt_of_some hq] at h
      cases h
      exact ⟨rfl, rfl⟩

theorem targetAt_eq_free (h : t.targetAt q = .free p) : p = q ∧ t.entry? q = none := by
  cases hq : t.entry? q with
  | none =>
      rw [targetAt_of_none hq] at h
      cases h
      exact ⟨rfl, rfl⟩
  | some e =>
      rw [targetAt_of_some hq] at h
      cases h

theorem targetAt_inj (h : t.targetAt p = t.targetAt q) : p = q := by
  cases hp : t.entry? p with
  | none =>
      rw [targetAt_of_none hp] at h
      exact (targetAt_eq_free h.symm).1
  | some e =>
      rw [targetAt_of_some hp] at h
      exact (targetAt_eq_present h.symm).1

theorem walk_transfer {parts : List String} {target : Target}
    (hkept : ∀ q, t.entry? q = some .directory → t'.entry? q = some .directory)
    (hend : t.entry? (placeAlong here parts) ≠ none → t'.entry? (placeAlong here parts) ≠ none)
    (h : t.walk here parts = .ok target) :
    t'.walk here parts = .ok (t'.targetAt (placeAlong here parts)) := by
  induction parts generalizing here with
  | nil =>
      obtain ⟨e, he⟩ := Option.ne_none_iff_exists'.mp (hend (entry?_of_walk h))
      change t'.entry? here = some e at he
      rw [placeAlong, List.foldl_nil, targetAt_of_some he, walk, he]
  | cons part rest ih =>
      obtain ⟨hhere, hsize, hrest | ⟨rfl, hdot, hdots, -, -⟩⟩ := walk_cons_iff.mp h
      · exact walk_cons_iff.mpr ⟨hkept here hhere, hsize, .inl (ih hend hrest)⟩
      · refine walk_cons_iff.mpr ⟨hkept here hhere, hsize, ?_⟩
        change t'.walk (follow here part) [] = .ok (t'.targetAt (follow here part)) ∨ _
        cases hnew : t'.entry? (follow here part) with
        | some e => exact .inl (by rw [targetAt_of_some hnew, walk, hnew])
        | none => exact .inr ⟨rfl, hdot, hdots, rfl, targetAt_of_none hnew⟩

theorem walk_eq_targetAt {parts : List String} {target : Target}
    (h : t.walk here parts = .ok target) : target = t.targetAt (placeAlong here parts) :=
  Except.ok.inj (h.symm.trans (walk_transfer (fun _ => id) id h))

theorem resolve_eq_targetAt {target : Target} (h : t.resolve here path = .ok target) :
    target = t.targetAt (placeOf here path) :=
  walk_eq_targetAt (resolve_eq_ok_iff.mp h).2

theorem resolve_transfer {target : Target}
    (hkept : ∀ q, t.entry? q = some .directory → t'.entry? q = some .directory)
    (hend : t.entry? (placeOf here path) ≠ none → t'.entry? (placeOf here path) ≠ none)
    (h : t.resolve here path = .ok target) :
    t'.resolve here path = .ok (t'.targetAt (placeOf here path)) := by
  obtain ⟨hspelled, hwalk⟩ := resolve_eq_ok_iff.mp h
  exact resolve_eq_ok_iff.mpr ⟨hspelled, walk_transfer hkept hend hwalk⟩

theorem find_eq_ok_iff {e : Entry} :
    t.find here path = .ok (p, e) ↔
      t.resolve here path = .ok (.present p e) ∧
        (Path.endsInSlash path = true → e = .directory) := by
  rw [find]
  cases t.resolve here path with
  | error e => simp
  | ok target =>
      cases target with
      | free q => simp
      | present q e' =>
          cases e' with
          | directory => simp +contextual
          | file f =>
              by_cases hslash : Path.endsInSlash path = true
              · refine iff_of_false (by simp [hslash]) ?_
                rintro ⟨htarget, hdirectory⟩
                cases htarget
                cases hdirectory hslash
              · simp [hslash]

theorem place_of_find {e : Entry} (h : t.find here path = .ok (p, e)) :
    p = placeOf here path ∧ t.entry? p = some e := by
  have htarget := resolve_eq_targetAt (find_eq_ok_iff.mp h).1
  obtain ⟨rfl, he⟩ := targetAt_eq_present htarget.symm
  exact ⟨rfl, he⟩

/-- What a path leads to is still found under it after a change that keeps it and the directories. -/
theorem find_transfer {e : Entry}
    (hkept : ∀ q, t.entry? q = some .directory → t'.entry? q = some .directory)
    (h : t.find here path = .ok (p, e)) (he : t'.entry? p = some e) :
    t'.find here path = .ok (p, e) := by
  obtain ⟨rfl, -⟩ := place_of_find h
  obtain ⟨hresolve, hslash⟩ := find_eq_ok_iff.mp h
  have hresolve' := resolve_transfer hkept (fun _ => by simp [he]) hresolve
  rw [targetAt_of_some he] at hresolve'
  exact find_eq_ok_iff.mpr ⟨hresolve', hslash⟩

theorem resolve_name_transfer {front : List String} {name : String} {target : Target}
    (hparts : Path.parts path = front ++ [name]) (hdot : name ≠ ".") (hdots : name ≠ "..")
    (hkept : ∀ q, t.entry? q = some .directory → t'.entry? q = some .directory)
    (h : t.resolve here path = .ok target) :
    t'.resolve here path = .ok (t'.targetAt (placeOf here path)) := by
  have htarget := resolve_eq_targetAt h
  obtain ⟨hspelled, hsize, d, hd, rfl⟩ := (resolve_snoc_iff hparts hdot hdots).mp h
  rw [← targetAt_inj htarget]
  have hd' := directoryAt?_transfer (List.forall_mem_nil _) (fun q hq _ => hkept q hq) hd
    (List.forall_mem_nil _)
  exact (resolve_snoc_iff hparts hdot hdots).mpr ⟨hspelled, hsize, d, hd'.1, rfl⟩

/-- Whatever is at a place is in a directory. -/
def Rooted (t : FileTree) : Prop :=
  ∀ q part, t.entry? (q ++ [part]) ≠ none → t.entry? q = some .directory

/-- At a place there is what was there before, or else a new directory where nothing was. -/
def Keeps (created : Place → Prop) (t t' : FileTree) (q : Place) : Prop :=
  t'.entry? q = t.entry? q ∨
    t.entry? q = none ∧ t'.entry? q = some .directory ∧ created q

variable {created : Place → Prop}

theorem Keeps.trans (h : Keeps created t t' q) (h' : Keeps created t' t'' q) :
    Keeps created t t'' q := by
  obtain hsame | ⟨hnone, hnew, hcreated⟩ := h
  · rw [Keeps, ← hsame]
    exact h'
  · obtain hsame | ⟨hnone', -, -⟩ := h'
    · exact .inr ⟨hnone, hsame.trans hnew, hcreated⟩
    · rw [hnew] at hnone'
      cases hnone'

theorem Keeps.mono {created' : Place → Prop} (h : Keeps created t t' q)
    (hcreated : created q → created' q) : Keeps created' t t' q :=
  h.imp id fun ⟨hnone, hnew, hq⟩ => ⟨hnone, hnew, hcreated hq⟩

theorem Keeps.entry {e : Entry} (h : Keeps created t t' q) (he : t.entry? q = some e) :
    t'.entry? q = some e := by
  obtain hsame | ⟨hnone, -, -⟩ := h
  · exact hsame.trans he
  · rw [he] at hnone
    cases hnone

theorem Rooted.of_change (h : t.Rooted) (hothers : ∀ q, q ≠ p → t'.entry? q = t.entry? q)
    (hp : t.entry? p ≠ some .directory)
    (hin : ∀ q part, p = q ++ [part] → t.entry? q = some .directory) : t'.Rooted := by
  intro q part hpart
  have hq : t.entry? q = some .directory := by
    by_cases heq : q ++ [part] = p
    · exact hin q part heq.symm
    · exact h q part (by rwa [← hothers _ heq])
  rw [hothers q fun heq => hp (heq ▸ hq), hq]

theorem rooted_of_entries {entries : List (Place × Entry)} {fresh : Nat}
    (h : ∀ e ∈ entries, entry? ⟨entries, fresh⟩ e.1.dropLast = some .directory) :
    Rooted ⟨entries, fresh⟩ := by
  intro q part hpart
  obtain ⟨e, he⟩ := Option.ne_none_iff_exists'.mp hpart
  rw [entry?_of_ne (by simp)] at he
  obtain ⟨l₁, l₂, hentries, -⟩ := List.lookup_eq_some_iff.mp he
  have hmem := h (q ++ [part], e) (by simp at hentries; simp [hentries])
  rwa [List.dropLast_concat] at hmem

theorem directory_of_walk_free {parts : List String} {part : String}
    (h : t.walk here parts = .ok (.free (q ++ [part]))) : t.entry? q = some .directory := by
  induction parts generalizing here with
  | nil =>
      rw [walk] at h
      split at h <;> cases h
  | cons first rest ih =>
      obtain ⟨hhere, -, hrest | ⟨-, hdot, hdots, -, hfree⟩⟩ := walk_cons_iff.mp h
      · exact ih hrest
      · rw [follow_name hdot hdots] at hfree
        obtain ⟨rfl, -⟩ := List.append_inj' (Target.free.inj hfree) rfl
        exact hhere

theorem ensureDirectoryAt_ok {parts : List String} (h : t.ensureDirectoryAt here parts = .ok t') :
    t' = t ∨ t.walk here parts = .ok (.free (placeAlong here parts)) ∧
      t.entry? (placeAlong here parts) = none ∧ t' = t.put (placeAlong here parts) .directory := by
  unfold ensureDirectoryAt makeDirectoryAt at h
  cases hwalk : t.walk here parts with
  | error e =>
      simp only [hwalk] at h
      split at h
      · exact .inl (Except.ok.inj h).symm
      · cases h
  | ok target =>
      cases target with
      | present q e =>
          simp only [hwalk] at h
          split at h
          · exact .inl (Except.ok.inj h).symm
          · cases h
      | free q =>
          simp only [hwalk] at h
          obtain ⟨rfl, hnone⟩ := targetAt_eq_free (walk_eq_targetAt hwalk).symm
          exact .inr ⟨rfl, hnone, (Except.ok.inj h).symm⟩

/-- A place is passed by parts that are followed: some of them lead to it. -/
def Passed (here : Place) (parts : List String) (p : Place) : Prop :=
  ∃ front, front <+: parts ∧ front ≠ [] ∧ p = placeAlong here front

theorem Passed.of_prefix {parts parts' : List String} (h : Passed here parts q)
    (hparts : parts <+: parts') : Passed here parts' q := by
  obtain ⟨front, hfront, hne, rfl⟩ := h
  exact ⟨front, hfront.trans hparts, hne, rfl⟩

theorem ensureDirectoryAt_keeps {parts : List String} (hparts : parts ≠ [])
    (h : t.ensureDirectoryAt here parts = .ok t') :
    (∀ q, Keeps (Passed here parts) t t' q) ∧ (t.Rooted → t'.Rooted) := by
  obtain rfl | ⟨hwalk, hnone, rfl⟩ := ensureDirectoryAt_ok h
  · exact ⟨fun q => .inl rfl, id⟩
  · constructor
    · intro q
      by_cases hq : q = placeAlong here parts
      · subst hq
        have hne : placeAlong here parts ≠ [] := ne_nil_of_entry? hnone (by simp)
        exact .inr ⟨hnone, entry?_put_self hne, parts, List.prefix_rfl, hparts, rfl⟩
      · exact .inl (entry?_put_of_ne hq)
    · intro hrooted
      refine hrooted.of_change (fun q hq => entry?_put_of_ne hq) (by simp [hnone]) ?_
      intro q part hplace
      rw [hplace] at hwalk
      exact directory_of_walk_free hwalk

/-- However far the creation of directories gets, it only creates some on its way. -/
theorem createDirectoriesAt_keeps {parts : List String} {created : Except FileError Unit}
    (h : t.createDirectoriesAt here parts = (t', created)) :
    (∀ q, Keeps (Passed here parts.reverse) t t' q) ∧ (t.Rooted → t'.Rooted) := by
  induction parts generalizing t' created with
  | nil =>
      obtain ⟨rfl, -⟩ := Prod.mk.inj h
      exact ⟨fun q => .inl rfl, id⟩
  | cons last before ih =>
      have hwhole : (last :: before).reverse ≠ [] := by simp
      have hfront {q : Place} (hq : Passed here before.reverse q) :
          Passed here (last :: before).reverse q := by
        apply hq.of_prefix
        rw [List.reverse_cons]
        exact List.prefix_append _ _
      rw [createDirectoriesAt] at h
      split at h
      next hok =>
        obtain ⟨rfl, -⟩ := Prod.mk.inj h
        exact ensureDirectoryAt_keeps hwhole hok
      next =>
        split at h
        next hbefore =>
          obtain ⟨rfl, -⟩ := Prod.mk.inj h
          obtain ⟨hkeeps, hrooted⟩ := ih hbefore
          exact ⟨fun q => (hkeeps q).mono hfront, hrooted⟩
        next hbefore =>
          obtain ⟨hkeeps, hrooted⟩ := ih hbefore
          split at h
          next hok =>
            obtain ⟨rfl, -⟩ := Prod.mk.inj h
            obtain ⟨hkeeps', hrooted'⟩ := ensureDirectoryAt_keeps hwhole hok
            exact ⟨fun q => ((hkeeps q).mono hfront).trans (hkeeps' q),
              fun ht => hrooted' (hrooted ht)⟩
          next =>
            obtain ⟨rfl, -⟩ := Prod.mk.inj h
            exact ⟨fun q => (hkeeps q).mono hfront, hrooted⟩
      next =>
        obtain ⟨rfl, -⟩ := Prod.mk.inj h
        exact ⟨fun q => .inl rfl, id⟩

theorem createDirectories_keeps {created : Except FileError Unit}
    (h : t.createDirectories here path = (t', created)) :
    (∀ q, Keeps (Passed (origin here path) (Path.steps path)) t t' q) ∧
      (t.Rooted → t'.Rooted) := by
  unfold createDirectories at h
  split at h
  next =>
    obtain ⟨rfl, -⟩ := Prod.mk.inj h
    exact ⟨fun q => .inl rfl, id⟩
  next =>
    split at h
    next =>
      obtain ⟨rfl, -⟩ := Prod.mk.inj h
      exact ⟨fun q => .inl rfl, id⟩
    next =>
      have hkeeps := createDirectoriesAt_keeps h
      rwa [List.reverse_reverse] at hkeeps

/-- A directory above what a path means: some of its parts lead to it, but not all. -/
def Above (here : Place) (path : String) (q : Place) : Prop :=
  ∃ front rest, Path.steps path = front ++ rest ∧ rest ≠ [] ∧
    q = placeAlong (origin here path) front

/-- Whoever follows the parent of a path passes nothing but directories above what the path means. -/
theorem above_of_passed {directory : String} (h : Path.parent? path = some directory)
    (hq : Passed (origin here directory) (Path.steps directory) q) : Above here path q := by
  obtain ⟨front, ⟨rest, hfront⟩, hne, rfl⟩ := hq
  obtain ⟨last, hsteps, hlast⟩ := Path.steps_parent h
  refine ⟨front, rest ++ last, ?_, fun hnil => ?_, ?_⟩
  · rw [hsteps, ← hfront, List.append_assoc]
  · rw [hlast (List.append_eq_nil_iff.mp hnil).2] at hfront
    exact hne (List.append_eq_nil_iff.mp hfront).1
  · rw [origin, origin, Path.isAbsolute_parent h]

theorem overwrite_place {content : List UInt8} (h : t.overwrite here path content = .ok t') :
    t.resolve here path = .ok (t.targetAt (placeOf here path)) ∧
      t.entry? (placeOf here path) ≠ some .directory ∧
      (∃ f : File, f.content = content ∧ t'.entry? (placeOf here path) = some (.file f)) ∧
      (∀ q, q ≠ placeOf here path → t'.entry? q = t.entry? q) ∧ (t.Rooted → t'.Rooted) := by
  cases hresolve : t.resolve here path with
  | error e =>
      rw [overwrite, openForWriting, hresolve] at h
      cases h
  | ok target =>
      obtain rfl := resolve_eq_targetAt hresolve
      obtain ⟨hplace, hfile, hothers⟩ := overwrite_ok hresolve h
      refine ⟨rfl, hplace, hfile, hothers, fun hrooted => hrooted.of_change hothers hplace ?_⟩
      intro q part hq
      cases hentry : t.entry? (placeOf here path) with
      | none =>
          have hwalk := (resolve_eq_ok_iff.mp hresolve).2
          rw [targetAt_of_none hentry, hq] at hwalk
          exact directory_of_walk_free hwalk
      | some e => exact hrooted q part (by simp [← hq, hentry])

theorem Rooted.directory_above (h : t.Rooted) (hq : t.entry? q ≠ none) (hpq : p <+: q)
    (hne : p ≠ q) : t.entry? p = some .directory := by
  obtain ⟨rest, rfl⟩ := hpq
  induction rest using List.reverseRecOn with
  | nil => exact absurd (List.append_nil p).symm hne
  | append_singleton rest part ih =>
      rw [← List.append_assoc] at hq
      have hparent := h _ _ hq
      by_cases hrest : p = p ++ rest
      · rwa [← hrest] at hparent
      · exact ih (by simp [hparent]) hrest

theorem entry?_of_mem {e : Place × Entry} (h : e ∈ t.entries) : t.entry? e.1 ≠ none := by
  unfold entry?
  split
  · exact Option.some_ne_none _
  · intro hnone
    simpa using List.lookup_eq_none_iff.mp hnone e h

theorem transplant_self (source target : Place) : transplant source target source = target := by
  simp [transplant]

theorem transplant_of_apart {source target : Place} (h : ¬ source <+: p) :
    transplant source target p = p :=
  if_neg fun hbelow => h (List.isPrefixOf_iff_prefix.mp hbelow)

theorem entry?_relocate_leaf {source target : Place} (hsource : source ≠ []) (hne : target ≠ source)
    (hleaf : ∀ e ∈ t.entries, source <+: e.1 → e.1 = source) :
    entry? (t.relocate source target) source = none ∧
      ∀ q, q ≠ target → q ≠ source → entry? (t.relocate source target) q = t.entry? q := by
  have hmoved : ∀ e ∈ t.entries, ∀ q, q ≠ target →
      (transplant source target e.1 = q ↔ e.1 = q ∧ q ≠ source) := by
    intro e he q hq
    by_cases hbelow : source <+: e.1
    · rw [hleaf e he hbelow, transplant_self]
      exact iff_of_false (Ne.symm hq) fun ⟨hsame, hother⟩ => hother hsame.symm
    · rw [transplant_of_apart hbelow]
      refine ⟨fun heq => ⟨heq, ?_⟩, And.left⟩
      rintro rfl
      exact hbelow (heq ▸ List.prefix_rfl)
  constructor
  · rw [entry?_of_ne hsource, relocate, List.lookup_eq_none_iff]
    intro e he
    obtain ⟨e', he', rfl⟩ := List.mem_map.mp he
    have hother := mt (hmoved e' he' source (Ne.symm hne)).mp fun h => h.2 rfl
    simpa using Ne.symm hother
  · intro q hq hq'
    unfold entry?
    split
    · rfl
    · exact lookup_map_transplant fun e he => (hmoved e he q hq).trans (and_iff_left hq')

theorem moveFileTo_file {source : Place} {f : File} (hrooted : t.Rooted)
    (hsource : t.entry? source = some (.file f)) (hne : p ≠ source)
    (h : t.moveFileTo source (t.targetAt p) = .ok t') :
    t.entry? p ≠ some .directory ∧ t'.entry? p = some (.file f) ∧ t'.entry? source = none ∧
      ∀ q, q ≠ p → q ≠ source → t'.entry? q = t.entry? q := by
  have hnil : source ≠ [] := ne_nil_of_entry? hsource (by simp)
  obtain ⟨hp, hmoved, -⟩ := moveFileTo_ok hne hnil h
  have hleaf : ∀ e ∈ t.entries, source <+: e.1 → e.1 = source := by
    intro e he hbelow
    by_contra hother
    have hdirectory := hrooted.directory_above (entry?_of_mem he) hbelow (Ne.symm hother)
    rw [hsource] at hdirectory
    cases hdirectory
  refine ⟨hp, hmoved.trans hsource, ?_⟩
  cases hentry : t.entry? p with
  | none =>
      rw [targetAt_of_none hentry] at h
      obtain rfl := Except.ok.inj h
      exact entry?_relocate_leaf hnil hne hleaf
  | some e =>
      rw [targetAt_of_some hentry] at h
      cases e with
      | directory => cases h
      | file g =>
          rw [moveFileTo, if_neg hne] at h
          obtain rfl := Except.ok.inj h
          obtain ⟨hgone, hothers⟩ := entry?_relocate_leaf (t := t.erase p) hnil hne
            fun e he => hleaf e (List.mem_filter.mp he).1
          refine ⟨hgone, fun q hq hq' => ?_⟩
          rw [hothers q hq hq', entry?_erase_of_ne hq]

end FileTree

end NodeTrial
