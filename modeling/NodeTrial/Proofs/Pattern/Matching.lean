import NodeTrial.Proofs.Pattern.Places
import Mathlib.Logic.Relation

/-!
What a search for a pattern finds. Which places a pattern leads to from which is a relation by
recursion on the pattern; the search finds exactly the places that the relation leads to from those
it was started with, and its bound on the rounds of a repetition leaves none of them out.
-/

namespace NodeTrial.Pattern

/-- Leads from one place to another in so many steps. -/
def Times (R : Place → Place → Prop) : Nat → Place → Place → Prop
  | 0, x, y => x = y
  | n + 1, x, y => ∃ z, R x z ∧ Times R n z y

section Times

variable {R S : Place → Place → Prop} {x y : Place}

theorem times_add {m n : Nat} :
    Times R (m + n) x y ↔ ∃ z, Times R m x z ∧ Times R n z y := by
  induction m generalizing x with
  | zero =>
      rw [Nat.zero_add]
      exact ⟨fun h => ⟨x, rfl, h⟩, by rintro ⟨z, rfl, h⟩; exact h⟩
  | succ m ih =>
      rw [Nat.succ_add]
      constructor
      · rintro ⟨x', hx, h⟩
        obtain ⟨z, hz, hy⟩ := ih.mp h
        exact ⟨z, ⟨x', hx, hz⟩, hy⟩
      · rintro ⟨z, ⟨x', hx, hz⟩, hy⟩
        exact ⟨x', hx, ih.mpr ⟨z, hz, hy⟩⟩

theorem mem_of_times {seen : List Place} (h : ∀ x ∈ seen, ∀ y, R x y → y ∈ seen) (hx : x ∈ seen)
    {n : Nat} (hn : Times R n x y) : y ∈ seen := by
  induction n generalizing x with
  | zero => exact (show x = y from hn) ▸ hx
  | succ n ih =>
      obtain ⟨z, hz, hy⟩ := hn
      exact ih (h x hx z hz) hy

/-- Every step leads ahead in the text, or stays where it is. -/
def Forward (R : Place → Place → Prop) : Prop := ∀ x y, R x y → ∃ w, Place.Past x w y

theorem Forward.stay : Forward (· = ·) := by
  rintro x y rfl
  exact ⟨[], Place.past_nil x⟩

theorem Forward.comp (hR : Forward R) (hS : Forward S) : Forward (Relation.Comp R S) := by
  rintro x y ⟨z, hz, hy⟩
  obtain ⟨u, hu⟩ := hR x z hz
  obtain ⟨v, hv⟩ := hS z y hy
  exact ⟨u ++ v, hu.trans hv⟩

theorem Forward.times (h : Forward R) (n : Nat) : Forward (Times R n) := by
  induction n with
  | zero => exact .stay
  | succ n ih => exact h.comp ih

/-- Steps that stay where they are can be left out, and the others are at most as many as the
characters that they pass. -/
theorem Forward.exists_few (h : Forward R) {n : Nat} (hn : Times R n x y) :
    ∃ m ≤ y.index - x.index, Times R m x y := by
  induction n generalizing x with
  | zero => exact ⟨0, Nat.zero_le _, hn⟩
  | succ n ih =>
      obtain ⟨z, hz, hy⟩ := hn
      obtain ⟨m, hm, hfew⟩ := ih hy
      obtain ⟨u, hu⟩ := h x z hz
      obtain ⟨v, hv⟩ := h.times n z y hy
      cases u with
      | nil =>
          obtain rfl := hu.eq
          exact ⟨m, hm, hfew⟩
      | cons c u =>
          have hxz := hu.index
          have hzy := hv.index
          rw [List.length_cons] at hxz
          exact ⟨m + 1, by omega, z, hz, hfew⟩

end Times

/-- From the first place a pattern can take the text up to the second. -/
def Takes : Pattern → Place → Place → Prop
  | .empty, x, y => x = y
  | .one s, x, y => x.advance? s = some y
  | .look l, x, y => x = y ∧ l.holds x = true
  | .seq p q, x, y => ∃ z, p.Takes x z ∧ q.Takes z y
  | .alt p q, x, y => p.Takes x y ∨ q.Takes x y
  | .group p, x, y => p.Takes x y
  | .many p least most?, x, y =>
    ∃ n, least ≤ n ∧ (∀ most ∈ most?, n ≤ max least most) ∧ Times p.Takes n x y

theorem forward_takes (p : Pattern) : Forward p.Takes := by
  induction p with
  | empty => exact .stay
  | one s =>
      intro x y h
      obtain ⟨c, -, hpast⟩ := Place.advance?_eq_some_iff.mp h
      exact ⟨[c], hpast⟩
  | look l => exact fun x y h => Forward.stay x y h.1
  | seq p q ihp ihq => exact ihp.comp ihq
  | alt p q ihp ihq =>
      rintro x y (h | h)
      · exact ihp x y h
      · exact ihq x y h
  | group p ih => exact ih
  | many p least most? ih =>
      rintro x y ⟨n, -, -, h⟩
      exact ih.times n x y h

/-- A step of the search through a text finds exactly what a relation leads to. -/
structure Computes (cs : List Char) (step : List Place → List Place)
    (R : Place → Place → Prop) : Prop where
  course : ∀ {ps}, Course cs ps → Course cs (step ps)
  mem_iff : ∀ {ps}, Course cs ps → ∀ {y}, y ∈ step ps ↔ ∃ x ∈ ps, R x y

namespace Computes

variable {cs : List Char} {step step' : List Place → List Place} {R S : Place → Place → Prop}

theorem comp (hR : Computes cs step R) (hS : Computes cs step' S) :
    Computes cs (step' ∘ step) (Relation.Comp R S) := by
  refine ⟨fun hps => hS.course (hR.course hps), fun {ps} hps {y} => ?_⟩
  rw [Function.comp_apply, hS.mem_iff (hR.course hps)]
  constructor
  · rintro ⟨z, hz, hzy⟩
    obtain ⟨x, hx, hxz⟩ := (hR.mem_iff hps).mp hz
    exact ⟨x, hx, z, hxz, hzy⟩
  · rintro ⟨x, hx, z, hxz, hzy⟩
    exact ⟨z, (hR.mem_iff hps).mpr ⟨x, hx, hxz⟩, hzy⟩

theorem times (h : Computes cs step R) (n : Nat) : Computes cs (stepTimes step n) (Times R n) := by
  induction n with
  | zero =>
      refine ⟨id, fun {ps} hps {y} => ?_⟩
      simp [stepTimes, Times]
  | succ n ih =>
      constructor
      · intro ps hps
        cases ps with
        | nil => exact hps
        | cons p ps => exact (h.comp ih).course hps
      · intro ps hps y
        cases ps with
        | nil => simp [stepTimes]
        | cons p ps => exact (h.comp ih).mem_iff hps

end Computes

/-- How far a search round by round has come: what the places seen lead to has been seen too, but
for the last ones. -/
structure Searched (cs : List Char) (R : Place → Place → Prop) (seen last : List Place) :
    Prop where
  whole : Course cs seen
  edge : Course cs last
  subset : last ⊆ seen
  closed : ∀ x ∈ seen, x ∉ last → ∀ y, R x y → y ∈ seen

namespace Searched

variable {cs : List Char} {step : List Place → List Place} {R : Place → Place → Prop}
  {seen last : List Place} {x y : Place}

theorem start (h : Course cs seen) : Searched cs R seen seen :=
  ⟨h, h, List.Subset.refl seen, fun _ hx hnot => absurd hx hnot⟩

theorem mem_new_iff (hs : Searched cs R seen last) (h : Computes cs step R) :
    y ∈ newPlaces (step last) seen ↔ (∃ x ∈ last, R x y) ∧ y ∉ seen := by
  rw [(h.course hs.edge).mem_new hs.whole, h.mem_iff hs.edge]

theorem mem_or_new (hs : Searched cs R seen last) (h : Computes cs step R) (hx : x ∈ seen)
    (hxy : R x y) : y ∈ seen ∨ y ∈ newPlaces (step last) seen := by
  by_cases hy : y ∈ seen
  · exact .inl hy
  · by_cases hlast : x ∈ last
    · exact .inr ((hs.mem_new_iff h).mpr ⟨⟨x, hlast, hxy⟩, hy⟩)
    · exact .inl (hs.closed x hx hlast y hxy)

theorem next (hs : Searched cs R seen last) (h : Computes cs step R) :
    Searched cs R (mergePlaces seen (newPlaces (step last) seen)) (newPlaces (step last) seen) := by
  have hnew := (h.course hs.edge).new seen
  refine ⟨hs.whole.merge hnew, hnew, fun y hy => (hs.whole.mem_merge hnew).mpr (.inr hy), ?_⟩
  intro x hx hnot y hxy
  have hseen := ((hs.whole.mem_merge hnew).mp hx).resolve_right hnot
  exact (hs.whole.mem_merge hnew).mpr (hs.mem_or_new h hseen hxy)

theorem course (hs : Searched cs R seen last) (h : Computes cs step R) (n : Nat) :
    Course cs (stepUpTo step n seen last) := by
  induction n generalizing seen last with
  | zero => exact hs.whole
  | succ n ih =>
      rw [stepUpTo]
      split
      · exact hs.whole
      · exact ih (hs.next h)

theorem mem_iff (hs : Searched cs R seen last) (h : Computes cs step R) (n : Nat) :
    y ∈ stepUpTo step n seen last ↔ ∃ x ∈ seen, ∃ k ≤ n, Times R k x y := by
  induction n generalizing seen last with
  | zero =>
      constructor
      · exact fun hy => ⟨y, hy, 0, Nat.le_refl 0, rfl⟩
      · rintro ⟨x, hx, k, hk, hxy⟩
        obtain rfl := Nat.le_zero.mp hk
        exact (show x = y from hxy) ▸ hx
  | succ n ih =>
      have hnew := (h.course hs.edge).new seen
      rw [stepUpTo]
      split
      next hnone =>
        -- A round that finds nothing ends the search: what was seen is closed.
        have hclosed : ∀ x ∈ seen, ∀ z, R x z → z ∈ seen := by
          intro x hx z hxz
          refine (hs.mem_or_new h hx hxz).resolve_right ?_
          rw [List.isEmpty_iff.mp hnone]
          exact List.not_mem_nil
        constructor
        · exact fun hy => ⟨y, hy, 0, Nat.zero_le _, rfl⟩
        · rintro ⟨x, hx, k, -, hxy⟩
          exact mem_of_times hclosed hx hxy
      next =>
        rw [ih (hs.next h)]
        constructor
        · rintro ⟨x, hx, k, hk, hxy⟩
          rcases (hs.whole.mem_merge hnew).mp hx with hx | hx
          · exact ⟨x, hx, k, Nat.le_succ_of_le hk, hxy⟩
          · obtain ⟨⟨z, hz, hzx⟩, -⟩ := (hs.mem_new_iff h).mp hx
            exact ⟨z, hs.subset hz, k + 1, Nat.succ_le_succ hk, x, hzx, hxy⟩
        · rintro ⟨x, hx, k, hk, hxy⟩
          cases k with
          | zero =>
              exact ⟨x, (hs.whole.mem_merge hnew).mpr (.inl hx), 0, Nat.zero_le n, hxy⟩
          | succ k =>
              obtain ⟨z, hxz, hzy⟩ := hxy
              exact ⟨z, (hs.whole.mem_merge hnew).mpr (hs.mem_or_new h hx hxz), k,
                Nat.le_of_succ_le_succ hk, hzy⟩

end Searched

theorem exists_times_iff {cs : List Char} {R : Place → Place → Prop} (hR : Forward R)
    {least : Nat} {most? : Option Nat} {x y : Place} (hy : y.IsIn cs) :
    (∃ n, least ≤ n ∧ (∀ most ∈ most?, n ≤ max least most) ∧ Times R n x y) ↔
      ∃ z, Times R least x z ∧
        ∃ k ≤ (match most? with | some most => most - least | none => cs.length + 1),
          Times R k z y := by
  constructor
  · rintro ⟨n, hleast, hmost, hxy⟩
    obtain ⟨k, rfl⟩ := Nat.exists_eq_add_of_le hleast
    obtain ⟨z, hxz, hzy⟩ := times_add.mp hxy
    refine ⟨z, hxz, ?_⟩
    cases most? with
    | some most =>
        have := hmost most rfl
        exact ⟨k, by simp only; omega, hzy⟩
    | none =>
        obtain ⟨m, hm, hfew⟩ := hR.exists_few hzy
        have := hy.index_le
        exact ⟨m, by simp only; omega, hfew⟩
  · rintro ⟨z, hxz, k, hk, hzy⟩
    refine ⟨least + k, Nat.le_add_right _ _, ?_, times_add.mpr ⟨z, hxz, hzy⟩⟩
    rintro most ⟨⟩
    simp only at hk
    omega

/-- The search for a pattern finds exactly the places that the pattern can take the text up to. -/
theorem computes_ends (cs : List Char) (p : Pattern) : Computes cs (p.ends cs.length) p.Takes := by
  induction p with
  | empty => exact ⟨id, fun _ => by simp [ends, Takes]⟩
  | one s =>
      refine ⟨fun hps => hps.advance s, fun {ps} _ {y} => ?_⟩
      rw [ends, List.mem_filterMap]
      exact Iff.rfl
  | look l =>
      refine ⟨fun hps => hps.sublist List.filter_sublist, fun {ps} _ {y} => ?_⟩
      rw [ends, List.mem_filter]
      constructor
      · exact fun h => ⟨y, h.1, rfl, h.2⟩
      · rintro ⟨x, hx, rfl, hl⟩
        exact ⟨hx, hl⟩
  | seq p q ihp ihq => exact ihp.comp ihq
  | alt p q ihp ihq =>
      refine ⟨fun hps => (ihp.course hps).merge (ihq.course hps), fun {ps} hps {y} => ?_⟩
      rw [ends, (ihp.course hps).mem_merge (ihq.course hps), ihp.mem_iff hps, ihq.mem_iff hps]
      constructor
      · rintro (⟨x, hx, h⟩ | ⟨x, hx, h⟩)
        · exact ⟨x, hx, .inl h⟩
        · exact ⟨x, hx, .inr h⟩
      · rintro ⟨x, hx, h | h⟩
        · exact .inl ⟨x, hx, h⟩
        · exact .inr ⟨x, hx, h⟩
  | group p ih => exact ih
  | many p least most? ih =>
      have hstart {ps : List Place} (hps : Course cs ps) :
          Searched cs p.Takes (stepTimes (p.ends cs.length) least ps)
            (stepTimes (p.ends cs.length) least ps) := .start ((ih.times least).course hps)
      refine ⟨fun hps => (hstart hps).course ih _, fun {ps} hps {y} => ?_⟩
      by_cases hy : y.IsIn cs
      · refine ((hstart hps).mem_iff ih _).trans ?_
        constructor
        · rintro ⟨z, hz, hzy⟩
          obtain ⟨x, hx, hxz⟩ := ((ih.times least).mem_iff hps).mp hz
          exact ⟨x, hx, (exists_times_iff (forward_takes p) hy).mpr ⟨z, hxz, hzy⟩⟩
        · rintro ⟨x, hx, hxy⟩
          obtain ⟨z, hxz, hzy⟩ := (exists_times_iff (forward_takes p) hy).mp hxy
          exact ⟨z, ((ih.times least).mem_iff hps).mpr ⟨x, hx, hxz⟩, hzy⟩
      · refine iff_of_false (fun h => hy (((hstart hps).course ih _).within y h)) ?_
        rintro ⟨x, hx, hxy⟩
        obtain ⟨w, hw⟩ := forward_takes (.many p least most?) x y hxy
        exact hy ((hps.within x hx).past hw)

/-- A pattern occurs in a text if it can take some of the text from some place on. -/
theorem occursIn_iff_takes {p : Pattern} {text : String} :
    p.occursIn text = true ↔ ∃ x y : Place, x.IsIn text.toList ∧ p.Takes x y := by
  rw [occursIn, Bool.not_eq_true', List.isEmpty_eq_false_iff_exists_mem]
  constructor
  · rintro ⟨y, hy⟩
    obtain ⟨x, hx, hxy⟩ := ((computes_ends _ p).mem_iff (course_places _)).mp hy
    exact ⟨x, y, mem_places_iff.mp hx, hxy⟩
  · rintro ⟨x, y, hx, hxy⟩
    exact ⟨y, ((computes_ends _ p).mem_iff (course_places _)).mpr
      ⟨x, mem_places_iff.mpr hx, hxy⟩⟩

end NodeTrial.Pattern
