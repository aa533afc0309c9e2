import NodeTrial.Proofs.Pattern.Language

namespace NodeTrial.Pattern

variable {w : List Char}

theorem language_seqOf (ps : List Pattern) : (seqOf ps).language = (ps.map language).prod := by
  induction ps with
  | nil => rfl
  | cons p ps ih =>
      cases ps with
      | nil => simp [seqOf]
      | cons q ps =>
          rw [List.map_cons, List.prod_cons, ← ih]
          rfl

/-- A pattern for each character of a word. -/
def letters (set : Char → CharSet) (word : String) : List Pattern :=
  word.toList.map fun c => .one (set c)

theorem mem_prod_letters {set : Char → CharSet} {read : Char → Char} {word : String}
    (hread : ∀ c ∈ word.toList, ∀ d, (set c).holds d = true ↔ read d = c) :
    w ∈ ((letters set word).map language).prod ↔ w.map read = word.toList := by
  rw [letters]
  generalize word.toList = cs at hread ⊢
  induction cs generalizing w with
  | nil => simp
  | cons c cs ih =>
      obtain ⟨hc, hcs⟩ := List.forall_mem_cons.mp hread
      rw [List.map_cons, List.map_cons, List.prod_cons, Language.mem_mul]
      constructor
      · rintro ⟨u, ⟨d, hd, rfl⟩, v, hv, rfl⟩
        rw [List.singleton_append, List.map_cons, (hc d).mp hd, (ih hcs).mp hv]
      · intro hw
        obtain ⟨d, v, rfl, hd, hv⟩ := List.map_eq_cons_iff.mp hw
        exact ⟨[d], ⟨d, (hc d).mpr hd, rfl⟩, v, (ih hcs).mpr hv, rfl⟩

theorem CharSet.holds_single {c d : Char} : (single c).holds d = true ↔ d = c := by
  rw [← Char.toNat_inj]
  simp [single, holds]
  omega

theorem mem_language_exactly (word : String) :
    w ∈ (seqOf (letters .single word)).language ↔ w = word.toList := by
  have hread : ∀ c ∈ word.toList, ∀ d, (CharSet.single c).holds d = true ↔ id d = c :=
    fun _ _ _ => CharSet.holds_single
  rw [language_seqOf, mem_prod_letters hread, List.map_id]

def anyCase (c : Char) : CharSet := .fold (.single c)

theorem holds_anyCase {c : Char} (hc : isOwnLower c = true) (d : Char) :
    (anyCase c).holds d = true ↔ d.toLower = c := by
  rw [anyCase, CharSet.holds, List.any_eq_true, ← mem_caseVariants_iff hc]
  simp [CharSet.holds_single]

theorem mem_prod_anyCase {word : String} (hword : word.toList.all isOwnLower = true) :
    w ∈ ((letters anyCase word).map language).prod ↔ w.map Char.toLower = word.toList :=
  mem_prod_letters fun _ hc => holds_anyCase (List.all_eq_true.mp hword _ hc)

theorem CharSet.holds_fold_union {a b : CharSet} {c : Char} :
    (fold (union a b)).holds c = true ↔ (fold a).holds c = true ∨ (fold b).holds c = true := by
  simp only [holds, List.any_eq_true, Bool.or_eq_true, and_or_left, exists_or]

theorem mem_language_many_one {s : CharSet} {least : Nat} {most? : Option Nat} :
    w ∈ (many (one s) least most?).language ↔
      least ≤ w.length ∧ (∀ most ∈ most?, w.length ≤ max least most) ∧ ∀ c ∈ w, s.holds c = true := by
  have hpow (n : Nat) :
      w ∈ (one s).language ^ n ↔ w.length = n ∧ ∀ c ∈ w, s.holds c = true := by
    induction n generalizing w with
    | zero => simp +contextual
    | succ n ih =>
        rw [pow_succ', Language.mem_mul]
        constructor
        · rintro ⟨u, ⟨d, hd, rfl⟩, v, hv, rfl⟩
          obtain ⟨hlength, hall⟩ := ih.mp hv
          simp [hlength, hd]
          exact hall
        · rintro ⟨hlength, hall⟩
          cases w with
          | nil => cases hlength
          | cons d v =>
              obtain ⟨hd, hv⟩ := List.forall_mem_cons.mp hall
              exact ⟨[d], ⟨d, hd, rfl⟩, v, ih.mpr ⟨Nat.succ.inj hlength, hv⟩, rfl⟩
  rw [mem_language_many]
  constructor
  · rintro ⟨n, hleast, hmost, hw⟩
    obtain ⟨rfl, hall⟩ := (hpow n).mp hw
    exact ⟨hleast, hmost, hall⟩
  · rintro ⟨hleast, hmost, hall⟩
    exact ⟨w.length, hleast, hmost, (hpow w.length).mpr ⟨rfl, hall⟩⟩

end NodeTrial.Pattern
