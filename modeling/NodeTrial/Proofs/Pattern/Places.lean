import NodeTrial.Pattern.Matching
import Mathlib.Data.List.Basic

namespace NodeTrial.Pattern

/-- The second place comes behind the first, and the text between them is `w`. -/
structure Place.Past (x : Place) (w : List Char) (y : Place) : Prop where
  index : y.index = x.index + w.length
  before? : y.before? = w.getLast?.or x.before?
  after : x.after = w ++ y.after

namespace Place

variable {x y z : Place} {u v w : List Char}

theorem past_nil (x : Place) : Past x [] x := ⟨rfl, rfl, rfl⟩

theorem Past.eq (h : Past x [] y) : x = y := by
  obtain ⟨hindex, hbefore, hafter⟩ := h
  cases x
  cases y
  simp_all

theorem Past.trans (hu : Past x u y) (hv : Past y v z) : Past x (u ++ v) z where
  index := by rw [hv.index, hu.index, List.length_append, Nat.add_assoc]
  before? := by rw [hv.before?, hu.before?, List.getLast?_append, Option.or_assoc]
  after := by rw [hu.after, hv.after, List.append_assoc]

theorem exists_past (h : x.after = w ++ v) : ∃ y, Past x w y ∧ y.after = v :=
  ⟨⟨x.index + w.length, w.getLast?.or x.before?, v⟩, ⟨rfl, rfl, h⟩, rfl⟩

theorem Past.unique (hy : Past x w y) (hz : Past x w z) : y = z := by
  have hindex : y.index = z.index := hy.index.trans hz.index.symm
  have hbefore : y.before? = z.before? := hy.before?.trans hz.before?.symm
  have hafter : y.after = z.after := List.append_cancel_left (hy.after.symm.trans hz.after)
  cases y
  cases z
  simp_all

theorem Past.eq_of_index (hy : Past x u y) (hz : Past x v z) (h : y.index = z.index) : y = z := by
  have hlength : u.length = v.length := by
    have := hy.index
    have := hz.index
    omega
  have huv : u = v :=
    (List.append_inj (hy.after.symm.trans hz.after) hlength).1
  subst huv
  exact hy.unique hz

theorem Past.split (h : Past x (u ++ v) y) : ∃ z, Past x u z ∧ Past z v y := by
  obtain ⟨z, hz, hafter⟩ := exists_past (x := x) (w := u) (v := v ++ y.after)
    (by rw [h.after, List.append_assoc])
  obtain ⟨y', hy', hend⟩ := exists_past hafter
  obtain rfl := h.unique (hz.trans hy')
  exact ⟨z, hz, hy'⟩

theorem advance?_eq_some_iff {s : CharSet} :
    x.advance? s = some y ↔ ∃ c, s.holds c = true ∧ Past x [c] y := by
  unfold advance?
  split
  next d rest hafter =>
    have hstep : Past x [d] ⟨x.index + 1, some d, rest⟩ := ⟨rfl, rfl, hafter⟩
    constructor
    · intro h
      split at h
      next hd =>
        rw [← Option.some.inj h]
        exact ⟨d, hd, hstep⟩
      next => cases h
    · rintro ⟨c, hc, hpast⟩
      obtain ⟨rfl, -⟩ := List.cons_eq_cons.mp (hafter.symm.trans hpast.after)
      rw [if_pos hc, hstep.unique hpast]
  next hafter =>
    refine iff_of_false nofun ?_
    rintro ⟨c, -, hpast⟩
    exact List.cons_ne_nil _ _ (hpast.after.symm.trans hafter)

/-- The place in front of a text. -/
def front (cs : List Char) : Place := ⟨0, none, cs⟩

/-- A place of a text. -/
def IsIn (cs : List Char) (x : Place) : Prop := ∃ w, Past (front cs) w x

theorem IsIn.past {cs : List Char} (hx : IsIn cs x) (h : Past x w y) : IsIn cs y := by
  obtain ⟨u, hu⟩ := hx
  exact ⟨u ++ w, hu.trans h⟩

theorem IsIn.eq_of_index {cs : List Char} (hx : IsIn cs x) (hy : IsIn cs y)
    (h : x.index = y.index) : x = y := by
  obtain ⟨u, hu⟩ := hx
  obtain ⟨v, hv⟩ := hy
  exact hu.eq_of_index hv h

theorem IsIn.index_le {cs : List Char} (hx : IsIn cs x) : x.index ≤ cs.length := by
  obtain ⟨w, hw⟩ := hx
  have hindex := hw.index
  have hlength := congrArg List.length hw.after
  simp [front] at hindex hlength
  omega

end Place

/-- Places in the order of the text, each once. -/
abbrev Ascending (ps : List Place) : Prop := ps.Pairwise (·.index < ·.index)

/-- Places of one text, each once and in the order of the text. -/
structure Course (cs : List Char) (ps : List Place) : Prop where
  ascending : Ascending ps
  within : ∀ x ∈ ps, x.IsIn cs

variable {cs : List Char} {acc ps qs : List Place} {x y : Place}

theorem ascending_append : Ascending (ps ++ qs) ↔
    Ascending ps ∧ Ascending qs ∧ ∀ x ∈ ps, ∀ y ∈ qs, x.index < y.index :=
  List.pairwise_append

theorem ascending_behind (hacc : Ascending acc.reverse) (h : ∀ x ∈ acc, x.index < y.index) :
    Ascending (y :: acc).reverse := by
  rw [List.reverse_cons, ascending_append]
  exact ⟨hacc, List.pairwise_singleton _ _, by simpa using h⟩

theorem mem_placesFrom {i : Nat} {b : Option Char} :
    x ∈ placesFrom acc i b cs ↔ x ∈ acc ∨ ∃ w, Place.Past ⟨i, b, cs⟩ w x := by
  induction cs generalizing acc i b with
  | nil =>
      rw [placesFrom, List.mem_reverse, List.mem_cons, or_comm]
      refine or_congr_right ⟨?_, ?_⟩
      · rintro rfl
        exact ⟨[], Place.past_nil _⟩
      · rintro ⟨w, hw⟩
        obtain ⟨rfl, -⟩ := List.append_eq_nil_iff.mp hw.after.symm
        exact hw.eq.symm
  | cons c rest ih =>
      have hstep : Place.Past ⟨i, b, c :: rest⟩ [c] ⟨i + 1, some c, rest⟩ := ⟨rfl, rfl, rfl⟩
      rw [placesFrom, ih, List.mem_cons, or_comm (a := x = _), or_assoc]
      refine or_congr_right ⟨?_, ?_⟩
      · rintro (rfl | ⟨w, hw⟩)
        · exact ⟨[], Place.past_nil _⟩
        · exact ⟨[c] ++ w, hstep.trans hw⟩
      · rintro ⟨w, hw⟩
        cases w with
        | nil => exact .inl hw.eq.symm
        | cons d w =>
            obtain ⟨rfl, -⟩ := List.cons_eq_cons.mp hw.after
            obtain ⟨z, hz, hzx⟩ := Place.Past.split (u := [c]) hw
            rw [hz.unique hstep] at hzx
            exact .inr ⟨w, hzx⟩

theorem ascending_placesFrom {i : Nat} {b : Option Char} (hacc : Ascending acc.reverse)
    (hfront : ∀ x ∈ acc, x.index < i) : Ascending (placesFrom acc i b cs) := by
  induction cs generalizing acc i b with
  | nil => exact ascending_behind hacc hfront
  | cons c rest ih =>
      refine ih (ascending_behind hacc hfront) (List.forall_mem_cons.mpr ⟨Nat.lt_succ_self i, ?_⟩)
      exact fun x hx => Nat.lt_succ_of_lt (hfront x hx)

theorem mem_places_iff : x ∈ places cs ↔ x.IsIn cs := by
  rw [places, mem_placesFrom, or_iff_right List.not_mem_nil]
  exact Iff.rfl

theorem course_places (cs : List Char) : Course cs (places cs) :=
  ⟨ascending_placesFrom List.Pairwise.nil nofun, fun _ => mem_places_iff.mp⟩

theorem not_mem_of_lt {p q : Place} (hqs : Ascending (q :: qs)) (h : p.index < q.index) :
    p ∉ q :: qs := by
  rw [List.mem_cons, not_or]
  refine ⟨fun heq => absurd h (by simp [heq]), fun hmem => ?_⟩
  have := List.rel_of_pairwise_cons hqs hmem
  omega

/-- As many characters stand before a place of the one list and one of the other only if they are
the same place. -/
def Consistent (ps qs : List Place) : Prop := ∀ p ∈ ps, ∀ q ∈ qs, p.index = q.index → p = q

section Consistent

variable {p q : Place}

theorem Consistent.tail_left (h : Consistent (p :: ps) qs) : Consistent ps qs :=
  fun p' hp' => h p' (List.mem_cons_of_mem p hp')

theorem Consistent.tail_right (h : Consistent ps (q :: qs)) : Consistent ps qs :=
  fun p' hp' q' hq' => h p' hp' q' (List.mem_cons_of_mem q hq')

theorem Consistent.head (h : Consistent (p :: ps) (q :: qs)) (hp : ¬ p.index < q.index)
    (hq : ¬ q.index < p.index) : p = q :=
  h p List.mem_cons_self q List.mem_cons_self (by omega)

end Consistent

theorem mem_mergeAfter (h : Consistent ps qs) :
    x ∈ mergeAfter acc ps qs ↔ x ∈ acc ∨ x ∈ ps ∨ x ∈ qs := by
  fun_induction mergeAfter acc ps qs with
  | case1 acc qs => simp
  | case2 acc ps => simp
  | case3 acc p ps q qs hlt ih =>
      rw [ih h.tail_left]
      grind
  | case4 acc p ps q qs hnot hlt ih =>
      rw [ih h.tail_right]
      grind
  | case5 acc p ps q qs hnot hnot' ih =>
      obtain rfl := h.head hnot hnot'
      rw [ih h.tail_left.tail_right]
      grind

theorem ascending_lesser {p q : Place} (hps : Ascending (acc.reverse ++ p :: ps))
    (hqs : Ascending (acc.reverse ++ q :: qs)) (h : p.index < q.index) :
    Ascending ((p :: acc).reverse ++ q :: qs) := by
  rw [ascending_append] at hps hqs
  rw [List.reverse_cons, List.append_assoc, List.singleton_append, ascending_append]
  have hbehind : ∀ r ∈ q :: qs, p.index < r.index :=
    List.forall_mem_cons.mpr ⟨h, fun r hr => Nat.lt_trans h (List.rel_of_pairwise_cons hqs.2.1 hr)⟩
  refine ⟨hps.1, List.pairwise_cons.mpr ⟨hbehind, hqs.2.1⟩, fun a ha => ?_⟩
  exact List.forall_mem_cons.mpr ⟨hps.2.2 a ha p List.mem_cons_self, hqs.2.2 a ha⟩

theorem ascending_mergeAfter (h : Consistent ps qs) (hps : Ascending (acc.reverse ++ ps))
    (hqs : Ascending (acc.reverse ++ qs)) : Ascending (mergeAfter acc ps qs) := by
  have hmove (p : Place) (acc ps : List Place) :
      (p :: acc).reverse ++ ps = acc.reverse ++ p :: ps := by simp
  fun_induction mergeAfter acc ps qs with
  | case1 acc qs => rwa [List.reverseAux_eq]
  | case2 acc ps => rwa [List.reverseAux_eq]
  | case3 acc p ps q qs hlt ih =>
      exact ih h.tail_left (by rwa [hmove]) (ascending_lesser hps hqs hlt)
  | case4 acc p ps q qs hnot hlt ih =>
      exact ih h.tail_right (ascending_lesser hqs hps hlt) (by rwa [hmove])
  | case5 acc p ps q qs hnot hnot' ih =>
      obtain rfl := h.head hnot hnot'
      exact ih h.tail_left.tail_right (by rwa [hmove]) (by rwa [hmove])

theorem newAfter_sublist : (newAfter acc ps qs).Sublist (acc.reverse ++ ps) := by
  fun_induction newAfter acc ps qs with
  | case1 acc qs => simp
  | case2 acc ps => rw [List.reverseAux_eq]
  | case3 acc p ps q qs hlt ih => simpa using ih
  | case4 acc p ps q qs hnot hlt ih => exact ih
  | case5 acc p ps q qs hnot hnot' ih =>
      exact ih.trans ((List.Sublist.refl _).append (List.sublist_cons_self p ps))

theorem mem_newAfter (h : Consistent ps qs) (hps : Ascending ps) (hqs : Ascending qs) :
    x ∈ newAfter acc ps qs ↔ x ∈ acc ∨ x ∈ ps ∧ x ∉ qs := by
  fun_induction newAfter acc ps qs with
  | case1 acc qs => simp
  | case2 acc ps => simp
  | case3 acc p ps q qs hlt ih =>
      have hp := not_mem_of_lt hqs hlt
      rw [ih h.tail_left hps.of_cons hqs]
      grind
  | case4 acc p ps q qs hnot hlt ih =>
      have hq := not_mem_of_lt hps hlt
      rw [ih h.tail_right hps hqs.of_cons]
      grind
  | case5 acc p ps q qs hnot hnot' ih =>
      obtain rfl := h.head hnot hnot'
      have hp : p ∉ ps := fun hmem => Nat.lt_irrefl _ (List.rel_of_pairwise_cons hps hmem)
      rw [ih h.tail_left.tail_right hps.of_cons hqs.of_cons]
      grind

namespace Course

theorem consistent (hps : Course cs ps) (hqs : Course cs qs) : Consistent ps qs :=
  fun p hp q hq => (hps.within p hp).eq_of_index (hqs.within q hq)

theorem mem_merge (hps : Course cs ps) (hqs : Course cs qs) :
    x ∈ mergePlaces ps qs ↔ x ∈ ps ∨ x ∈ qs := by
  rw [mergePlaces, mem_mergeAfter (hps.consistent hqs), or_iff_right List.not_mem_nil]

theorem merge (hps : Course cs ps) (hqs : Course cs qs) : Course cs (mergePlaces ps qs) where
  ascending := ascending_mergeAfter (hps.consistent hqs) hps.ascending hqs.ascending
  within x hx := ((hps.mem_merge hqs).mp hx).elim (hps.within x) (hqs.within x)

theorem mem_new (hps : Course cs ps) (hqs : Course cs qs) :
    x ∈ newPlaces ps qs ↔ x ∈ ps ∧ x ∉ qs := by
  rw [newPlaces, mem_newAfter (hps.consistent hqs) hps.ascending hqs.ascending,
    or_iff_right List.not_mem_nil]

theorem sublist (hqs : Course cs qs) (h : ps.Sublist qs) : Course cs ps :=
  ⟨hqs.ascending.sublist h, fun x hx => hqs.within x (h.subset hx)⟩

theorem new (hps : Course cs ps) (qs : List Place) : Course cs (newPlaces ps qs) :=
  hps.sublist newAfter_sublist

theorem advance (hps : Course cs ps) (s : CharSet) : Course cs (ps.filterMap (·.advance? s)) where
  ascending := by
    refine hps.ascending.filterMap _ fun x y hxy x' hx' y' hy' => ?_
    obtain ⟨c, -, hx⟩ := Place.advance?_eq_some_iff.mp hx'
    obtain ⟨d, -, hy⟩ := Place.advance?_eq_some_iff.mp hy'
    rw [hx.index, hy.index]
    exact Nat.add_lt_add_right hxy 1
  within y hy := by
    obtain ⟨x, hx, hxy⟩ := List.mem_filterMap.mp hy
    obtain ⟨c, -, hpast⟩ := Place.advance?_eq_some_iff.mp hxy
    exact (hps.within x hx).past hpast

end Course

end NodeTrial.Pattern
