import NodeTrial.FileTree.Change
import Mathlib.Data.List.Infix

namespace NodeTrial.FileTree

variable {t t' : FileTree}

theorem entry?_of_ne {p : Place} (hp : p ≠ []) : t.entry? p = t.entries.lookup p := by
  cases p with
  | nil => exact absurd rfl hp
  | cons part rest => rfl

theorem ne_nil_of_entry? {p : Place} {e? : Option Entry} (h : t.entry? p = e?)
    (he : e? ≠ some .directory) : p ≠ [] := by
  rintro rfl
  exact he h.symm

theorem lookup_filter_of_ne {p q : Place} (h : q ≠ p) (entries : List (Place × Entry)) :
    (entries.filter (·.1 != p)).lookup q = entries.lookup q := by
  induction entries with
  | nil => rfl
  | cons e entries ih =>
      obtain ⟨r, e⟩ := e
      by_cases hr : r = p
      · subst hr
        rw [List.filter_cons_of_neg (by simp), List.lookup_cons, beq_false_of_ne h, ih]
      · rw [List.filter_cons_of_pos (by simpa using hr), List.lookup_cons, List.lookup_cons, ih]

theorem lookup_filter_self (p : Place) (entries : List (Place × Entry)) :
    (entries.filter (·.1 != p)).lookup p = none := by
  induction entries with
  | nil => rfl
  | cons e entries ih =>
      obtain ⟨r, e⟩ := e
      by_cases hr : r = p
      · rw [List.filter_cons_of_neg (by simpa using hr), ih]
      · rw [List.filter_cons_of_pos (by simpa using hr), List.lookup_cons,
          beq_false_of_ne (Ne.symm hr), ih]

theorem entry?_erase_of_ne {p q : Place} (h : q ≠ p) : entry? (t.erase p) q = t.entry? q := by
  unfold entry?
  split
  · rfl
  · exact lookup_filter_of_ne h t.entries

theorem entry?_erase_self {p : Place} (hp : p ≠ []) : entry? (t.erase p) p = none := by
  rw [entry?_of_ne hp]
  exact lookup_filter_self p t.entries

theorem entry?_put_of_ne {p q : Place} {e : Entry} (h : q ≠ p) :
    entry? (t.put p e) q = t.entry? q := by
  unfold entry?
  split
  · rfl
  · rw [put, List.lookup_cons, beq_false_of_ne h]
    exact lookup_filter_of_ne h t.entries

theorem entry?_put_self {p : Place} {e : Entry} (hp : p ≠ []) :
    entry? (t.put p e) p = some e := by
  rw [entry?_of_ne hp, put, List.lookup_cons, beq_self_eq_true]

theorem transplant_eq_target_iff {source target p : Place} (hp : p ≠ target) :
    transplant source target p = target ↔ p = source := by
  unfold transplant
  split
  next hbelow =>
    obtain ⟨rest, rfl⟩ := List.isPrefixOf_iff_prefix.mp hbelow
    rw [List.drop_left]
    simp
  next hapart =>
    refine iff_of_false hp ?_
    rintro rfl
    exact hapart (List.isPrefixOf_iff_prefix.mpr List.prefix_rfl)

theorem transplant_eq_iff {source target p q : Place} (hsource : ¬ source <+: q)
    (htarget : ¬ target <+: q) : transplant source target p = q ↔ p = q := by
  unfold transplant
  split
  next hbelow =>
    refine iff_of_false ?_ ?_
    · rintro rfl
      exact htarget (List.prefix_append ..)
    · rintro rfl
      exact hsource (List.isPrefixOf_iff_prefix.mp hbelow)
  next => exact Iff.rfl

theorem lookup_map_transplant {source target q r : Place} {entries : List (Place × Entry)}
    (h : ∀ e ∈ entries, transplant source target e.1 = q ↔ e.1 = r) :
    (entries.map fun (p, e) => (transplant source target p, e)).lookup q = entries.lookup r := by
  induction entries with
  | nil => rfl
  | cons e entries ih =>
      obtain ⟨p, e⟩ := e
      obtain ⟨hfirst, hrest⟩ := List.forall_mem_cons.mp h
      have hbeq : (q == transplant source target p) = (r == p) := by
        rw [Bool.eq_iff_iff, beq_iff_eq, beq_iff_eq, eq_comm, hfirst, eq_comm]
      rw [List.map_cons, List.lookup_cons, List.lookup_cons, hbeq, ih hrest]

theorem entry?_relocate_target {source target : Place} (hsource : source ≠ [])
    (hfree : t.entry? target = none) : entry? (t.relocate source target) target = t.entry? source := by
  have htarget : target ≠ [] := by
    rintro rfl
    cases hfree
  rw [entry?_of_ne htarget] at hfree
  rw [entry?_of_ne htarget, entry?_of_ne hsource]
  refine lookup_map_transplant fun e he => transplant_eq_target_iff ?_
  rintro rfl
  have hmem := List.lookup_eq_none_iff.mp hfree e he
  simp at hmem

theorem entry?_relocate_of_apart {source target q : Place} (hsource : ¬ source <+: q)
    (htarget : ¬ target <+: q) : entry? (t.relocate source target) q = t.entry? q := by
  unfold entry?
  split
  · rfl
  · exact lookup_map_transplant fun e _ => transplant_eq_iff hsource htarget

/-- The directory to which parts lead, if every place on the way is a directory. -/
def directoryAt? (t : FileTree) (here : Place) : List String → Option Place
  | [] => if t.entry? here = some .directory then some here else none
  | part :: rest =>
    if t.entry? here = some .directory then
      if part = "." then t.directoryAt? here rest
      else if part = ".." then t.directoryAt? here.dropLast rest
      else if maxNameBytes < part.utf8ByteSize then none
      else t.directoryAt? (here ++ [part]) rest
    else none

def targetAt (t : FileTree) (p : Place) : Target :=
  match t.entry? p with
  | some e => .present p e
  | none => .free p

theorem targetAt_of_none {p : Place} (h : t.entry? p = none) : t.targetAt p = .free p := by
  rw [targetAt, h]

theorem targetAt_of_some {p : Place} {e : Entry} (h : t.entry? p = some e) :
    t.targetAt p = .present p e := by
  rw [targetAt, h]

/-- Where a part leads from a place, if the place is a directory. -/
def follow (here : Place) (part : String) : Place :=
  if part = "." then here else if part = ".." then here.dropLast else here ++ [part]

theorem follow_name {part : String} (hdot : part ≠ ".") (hdots : part ≠ "..") (here : Place) :
    follow here part = here ++ [part] := by
  rw [follow, if_neg hdot, if_neg hdots]

theorem entry?_of_walk {parts : List String} {target : Target}
    (h : t.walk here parts = .ok target) : t.entry? here ≠ none := by
  intro hnone
  rw [walk.eq_def] at h
  cases parts <;> simp [hnone] at h

theorem walk_cons_iff {part : String} {rest : List String} {target : Target} :
    t.walk here (part :: rest) = .ok target ↔
      t.entry? here = some .directory ∧
        (part ≠ "." → part ≠ ".." → part.utf8ByteSize ≤ maxNameBytes) ∧
        (t.walk (follow here part) rest = .ok target ∨
          rest = [] ∧ part ≠ "." ∧ part ≠ ".." ∧ t.entry? (follow here part) = none ∧
            target = .free (follow here part)) := by
  rw [walk.eq_def]
  cases hhere : t.entry? here with
  | none => simp
  | some e =>
      cases e with
      | file f => simp
      | directory =>
          by_cases hstay : part = "."
          · simp [hstay, follow]
          · by_cases hup : part = ".."
            · simp [hup, follow]
            · simp only [follow_name hstay hup, hstay, hup, if_false, ← Nat.not_lt]
              by_cases hpart : maxNameBytes < part.utf8ByteSize
              · simp [hstay, hup, hpart]
              · cases hnext : t.entry? (here ++ [part]) with
                | some e => simp [hpart]
                | none =>
                    have hstop : ∀ target, t.walk (here ++ [part]) rest ≠ .ok target :=
                      fun _ h => entry?_of_walk h hnext
                    cases rest with
                    | nil => simp [hstay, hup, hpart, hstop, eq_comm]
                    | cons other rest => simp [hpart, hstop]

theorem directoryAt?_cons_iff {here d : Place} {part : String} {rest : List String} :
    t.directoryAt? here (part :: rest) = some d ↔
      t.entry? here = some .directory ∧
        (part ≠ "." → part ≠ ".." → part.utf8ByteSize ≤ maxNameBytes) ∧
        t.directoryAt? (follow here part) rest = some d := by
  rw [directoryAt?, follow]
  by_cases hhere : t.entry? here = some .directory
  · by_cases hstay : part = "."
    · simp [hhere, hstay]
    · by_cases hup : part = ".."
      · simp [hhere, hup]
      · by_cases hpart : maxNameBytes < part.utf8ByteSize
        · simp [hhere, hstay, hup, hpart, Nat.not_le.mpr hpart]
        · simp [hhere, hstay, hup, hpart, Nat.not_lt.mp hpart]
  · simp [hhere]

theorem walk_snoc_iff {here : Place} {front : List String} {last : String} {target : Target}
    (hdot : last ≠ ".") (hdots : last ≠ "..") :
    t.walk here (front ++ [last]) = .ok target ↔
      last.utf8ByteSize ≤ maxNameBytes ∧
        ∃ d, t.directoryAt? here front = some d ∧ target = t.targetAt (d ++ [last]) := by
  induction front generalizing here with
  | nil =>
      rw [List.nil_append, walk_cons_iff, directoryAt?, follow_name hdot hdots]
      by_cases hhere : t.entry? here = some .directory
      · cases hnext : t.entry? (here ++ [last]) with
        | none => simp [hhere, hdot, hdots, walk, hnext, targetAt]
        | some e => simp [hhere, hdot, hdots, walk, hnext, targetAt, eq_comm]
      · simp [hhere]
  | cons part front ih =>
      rw [List.cons_append, walk_cons_iff]
      simp only [directoryAt?_cons_iff, ih]
      constructor
      · rintro ⟨hhere, hpart, ⟨hlast, d, hd, htarget⟩ | ⟨hnil, -⟩⟩
        · exact ⟨hlast, d, ⟨hhere, hpart, hd⟩, htarget⟩
        · simp at hnil
      · rintro ⟨hlast, d, ⟨hhere, hpart, hd⟩, htarget⟩
        exact ⟨hhere, hpart, .inl ⟨hlast, d, hd, htarget⟩⟩

theorem eq_or_prefix_dropLast {b p : Place} (h : b <+: p) : b = p ∨ b <+: p.dropLast := by
  rcases List.eq_nil_or_concat' p with rfl | ⟨q, part, rfl⟩
  · exact .inr h
  · rw [List.dropLast_concat]
    exact List.prefix_concat_iff.mp h

theorem not_prefix_of_follow {b here : Place} {part : String} (hb : b ≠ here)
    (h : ¬ b <+: follow here part) : ¬ b <+: here := by
  intro hbelow
  refine h ?_
  unfold follow
  split
  next => exact hbelow
  next =>
    split
    next => exact (eq_or_prefix_dropLast hbelow).resolve_left hb
    next => exact hbelow.trans (List.prefix_append here [part])

/-- A way past places that are no directories is a way in every tree that keeps the directories which
do not lie below them. Whoever is below such a place cannot leave it, because the way up is through
the place itself. -/
theorem directoryAt?_transfer {blocked : List Place} {here d : Place} {parts : List String}
    (hblocked : ∀ b ∈ blocked, t.entry? b ≠ some .directory)
    (hkeep : ∀ q, t.entry? q = some .directory → (∀ b ∈ blocked, ¬ b <+: q) →
      t'.entry? q = some .directory)
    (h : t.directoryAt? here parts = some d) (hd : ∀ b ∈ blocked, ¬ b <+: d) :
    t'.directoryAt? here parts = some d ∧ ∀ b ∈ blocked, ¬ b <+: here := by
  induction parts generalizing here with
  | nil =>
      rw [directoryAt?] at h ⊢
      split at h
      next hhere =>
        obtain rfl := Option.some.inj h
        exact ⟨if_pos (hkeep _ hhere hd), hd⟩
      next => cases h
  | cons part rest ih =>
      obtain ⟨hhere, hsize, hrest⟩ := directoryAt?_cons_iff.mp h
      obtain ⟨hrest', hout⟩ := ih hrest
      have habove : ∀ b ∈ blocked, ¬ b <+: here := fun b hb =>
        not_prefix_of_follow (fun heq => hblocked b hb (heq ▸ hhere)) (hout b hb)
      exact ⟨directoryAt?_cons_iff.mpr ⟨hkeep here hhere habove, hsize, hrest'⟩, habove⟩

theorem not_prefix_of_snoc (d : Place) (name : String) : ¬ d ++ [name] <+: d := by
  intro h
  have hlength := h.length_le
  rw [List.length_append, List.length_singleton] at hlength
  omega

end NodeTrial.FileTree
