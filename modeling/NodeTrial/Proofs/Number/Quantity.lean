import Mathlib.Data.Nat.Digits.Lemmas
import Mathlib.Tactic.IntervalCases
import NodeTrial.Number.Quantity
import NodeTrial.Proofs.Text.Trimming

namespace NodeTrial

namespace Hexadecimal

/-- A character is a digit of a value, in either case. -/
def IsDigit (c : Char) (d : Nat) : Prop :=
  d < 16 ∧ (c = Nat.digitChar d ∨ c = (Nat.digitChar d).toUpper)

instance (c : Char) (d : Nat) : Decidable (IsDigit c d) :=
  inferInstanceAs (Decidable (_ ∧ _))

/-- A row of digits has a value, with the most significant digit in front. -/
def Writes (cs : List Char) (n : Nat) : Prop :=
  ∃ ds, List.Forall₂ IsDigit cs ds ∧ n = Nat.ofDigits 16 ds.reverse

theorem isDigit_of_digit? {c : Char} {d : Nat} (h : digit? c = some d) : IsDigit c d := by
  unfold digit? at h
  obtain hc : c = Char.ofNat c.toNat := c.ofNat_toNat.symm
  split_ifs at h with hnumeral hlower hupper
  · have hlow : 48 ≤ c.toNat := hnumeral.1
    have hhigh : c.toNat ≤ 57 := hnumeral.2
    cases h
    rw [hc]
    generalize c.toNat = n at hlow hhigh
    interval_cases n <;> decide
  · have hlow : 97 ≤ c.toNat := hlower.1
    have hhigh : c.toNat ≤ 102 := hlower.2
    cases h
    rw [hc]
    generalize c.toNat = n at hlow hhigh
    interval_cases n <;> decide
  · have hlow : 65 ≤ c.toNat := hupper.1
    have hhigh : c.toNat ≤ 70 := hupper.2
    cases h
    rw [hc]
    generalize c.toNat = n at hlow hhigh
    interval_cases n <;> decide

theorem digit?_of_isDigit {c : Char} {d : Nat} (h : IsDigit c d) : digit? c = some d := by
  obtain ⟨hd, rfl | rfl⟩ := h <;> interval_cases d <;> decide

theorem IsDigit.not_blank {c : Char} {d : Nat} (h : IsDigit c d) : Text.isBlank c = false := by
  obtain ⟨hd, rfl | rfl⟩ := h <;> interval_cases d <;> decide

theorem IsDigit.not_mark {c : Char} {d : Nat} (h : IsDigit c d) : c ≠ 'x' ∧ c ≠ 'X' := by
  obtain ⟨hd, rfl | rfl⟩ := h <;> interval_cases d <;> decide

theorem ofDigits_reverse_cons (d : Nat) (ds : List Nat) :
    Nat.ofDigits 16 (d :: ds).reverse = d * 16 ^ ds.length + Nat.ofDigits 16 ds.reverse := by
  rw [List.reverse_cons, Nat.ofDigits_append, Nat.ofDigits_singleton, List.length_reverse]
  ring

/-- What the reader has come to before a row of digits counts sixteenfold for each digit of it. -/
theorem foldlM_digit?_eq_some_iff {cs : List Char} {n m : Nat} :
    cs.foldlM (fun n c => (digit? c).map (n * 16 + ·)) n = some m ↔
      ∃ ds, List.Forall₂ IsDigit cs ds ∧ m = n * 16 ^ ds.length + Nat.ofDigits 16 ds.reverse := by
  induction cs generalizing n with
  | nil => simp [eq_comm]
  | cons c cs ih =>
      rw [List.foldlM_cons]
      constructor
      · intro h
        obtain ⟨k, hk, hrest⟩ := Option.bind_eq_some_iff.mp h
        obtain ⟨d, hd, rfl⟩ := Option.map_eq_some_iff.mp hk
        obtain ⟨ds, hds, rfl⟩ := ih.mp hrest
        refine ⟨d :: ds, .cons (isDigit_of_digit? hd) hds, ?_⟩
        rw [ofDigits_reverse_cons, List.length_cons]
        ring
      · rintro ⟨ds, hds, rfl⟩
        obtain ⟨d, ds, hd, hrest, rfl⟩ := List.forall₂_cons_left_iff.mp hds
        refine Option.bind_eq_some_iff.mpr ⟨n * 16 + d, ?_, ih.mpr ⟨ds, hrest, ?_⟩⟩
        · rw [digit?_of_isDigit hd]
          rfl
        · rw [ofDigits_reverse_cons, List.length_cons]
          ring

theorem value?_eq_some_iff {cs : List Char} {n : Nat} : value? cs = some n ↔ Writes cs n := by
  rw [value?, foldlM_digit?_eq_some_iff, Writes]
  simp only [Nat.zero_mul, Nat.zero_add]

theorem Writes.forall_not_blank {cs : List Char} {n : Nat} (h : Writes cs n) :
    ∀ c ∈ cs, Text.isBlank c = false := by
  obtain ⟨ds, hds, -⟩ := h
  clear n
  induction hds with
  | nil => exact List.forall_mem_nil _
  | cons hd _ ih => exact List.forall_mem_cons.mpr ⟨hd.not_blank, ih⟩

theorem Writes.second_not_mark {c d : Char} {cs : List Char} {n : Nat}
    (h : Writes (c :: d :: cs) n) : d ≠ 'x' ∧ d ≠ 'X' := by
  obtain ⟨ds, hds, -⟩ := h
  cases hds with
  | cons _ hrest =>
      cases hrest with
      | cons hd _ => exact hd.not_mark

theorem Writes.concat {cs : List Char} {n : Nat} (h : Writes cs n) {c : Char} {d : Nat}
    (hc : IsDigit c d) : Writes (cs ++ [c]) (n * 16 + d) := by
  obtain ⟨ds, hds, rfl⟩ := h
  refine ⟨ds ++ [d], List.rel_append hds (.cons hc .nil), ?_⟩
  rw [List.reverse_append, List.reverse_singleton, List.singleton_append, Nat.ofDigits_cons]
  ring

theorem Writes.zeros {cs : List Char} {n : Nat} (h : Writes cs n) (k : Nat) :
    Writes (List.replicate k '0' ++ cs) n := by
  induction k with
  | zero => exact h
  | succ k ih =>
      obtain ⟨ds, hds, hn⟩ := ih
      refine ⟨0 :: ds, .cons ⟨by decide, .inl rfl⟩ hds, ?_⟩
      rw [ofDigits_reverse_cons, Nat.zero_mul, Nat.zero_add]
      exact hn

theorem exists_writes_iff {cs : List Char} :
    (∃ n, Writes cs n) ↔ ∀ c ∈ cs, ∃ d, IsDigit c d := by
  induction cs with
  | nil => exact ⟨fun _ => List.forall_mem_nil _, fun _ => ⟨0, [], .nil, rfl⟩⟩
  | cons c cs ih =>
      rw [List.forall_mem_cons, ← ih]
      constructor
      · rintro ⟨n, ds, hds, -⟩
        obtain ⟨d, ds, hd, hrest, -⟩ := List.forall₂_cons_left_iff.mp hds
        exact ⟨⟨d, hd⟩, _, ds, hrest, rfl⟩
      · rintro ⟨⟨d, hd⟩, n, ds, hds, -⟩
        exact ⟨_, d :: ds, .cons hd hds, rfl⟩

theorem Writes.unique {cs : List Char} {n m : Nat} (hn : Writes cs n) (hm : Writes cs m) : n = m :=
  Option.some.inj ((value?_eq_some_iff.mpr hn).symm.trans (value?_eq_some_iff.mpr hm))

/-- Characters are the digits of a value as they are written, each in either case. -/
def Spells (cs : List Char) (n : Nat) : Prop :=
  List.Forall₂ (fun c d => c = d ∨ c = d.toUpper) cs (write n)

theorem Spells.writes {cs : List Char} {n : Nat} (h : Spells cs n) : Writes cs n := by
  induction n using Nat.strong_induction_on generalizing cs with
  | _ n ih =>
  rw [Spells, write] at h
  by_cases hn : n < 16
  · rw [Nat.toDigits_of_lt_base hn] at h
    obtain ⟨c, rest, hc, hrest, rfl⟩ := List.forall₂_cons_right_iff.mp h
    obtain rfl := List.forall₂_nil_right_iff.mp hrest
    exact ⟨[n], .cons ⟨hn, hc⟩ .nil, Nat.ofDigits_singleton.symm⟩
  · rw [Nat.toDigits_of_base_le (by decide) (Nat.le_of_not_lt hn), ← List.forall₂_reverse_iff,
      List.reverse_append, List.reverse_singleton, List.singleton_append] at h
    obtain ⟨c, rest, hc, hrest, hcs⟩ := List.forall₂_cons_right_iff.mp h
    rw [← List.reverse_reverse rest, List.forall₂_reverse_iff] at hrest
    have hfront := ih (n / 16) (Nat.div_lt_self (by omega) (by decide)) hrest
    have hwhole := hfront.concat ⟨Nat.mod_lt n (by decide), hc⟩
    rw [← List.reverse_cons, ← hcs, List.reverse_reverse, Nat.div_add_mod'] at hwhole
    exact hwhole

theorem Spells.ne_nil {cs : List Char} {n : Nat} (h : Spells cs n) : cs ≠ [] := by
  rintro rfl
  exact Nat.toDigits_ne_nil (List.forall₂_nil_left_iff.mp h)

end Hexadecimal

namespace Quantity

/-- A text tells a quantity: digits behind a mark or none, between white space. -/
def Tells (text : String) (n : Nat) : Prop :=
  ∃ gap mark digits gap' : List Char, text.toList = gap ++ (mark ++ digits ++ gap') ∧
    gap.all Text.isBlank = true ∧ gap'.all Text.isBlank = true ∧
    mark ∈ [[], ['0', 'x'], ['0', 'X']] ∧ digits ≠ [] ∧ Hexadecimal.Writes digits n ∧ n < 2 ^ 64

theorem exists_mark (cs : List Char) :
    ∃ mark ∈ [[], ['0', 'x'], ['0', 'X']], cs = mark ++ dropMark cs := by
  unfold dropMark
  split
  · exact ⟨['0', 'x'], by simp, rfl⟩
  · exact ⟨['0', 'X'], by simp, rfl⟩
  · exact ⟨[], by simp, rfl⟩

theorem dropMark_append {mark digits : List Char} {n : Nat}
    (hmark : mark ∈ [[], ['0', 'x'], ['0', 'X']]) (h : Hexadecimal.Writes digits n) :
    dropMark (mark ++ digits) = digits := by
  simp only [List.mem_cons, List.not_mem_nil, or_false] at hmark
  obtain rfl | rfl | rfl := hmark
  · rw [List.nil_append]
    unfold dropMark
    split
    · exact absurd rfl h.second_not_mark.1
    · exact absurd rfl h.second_not_mark.2
    · rfl
  · rfl
  · rfl

theorem trim_of_tells {gap mark digits gap' : List Char} {n : Nat}
    (hgap : gap.all Text.isBlank = true) (hgap' : gap'.all Text.isBlank = true)
    (hmark : mark ∈ [[], ['0', 'x'], ['0', 'X']]) (h : Hexadecimal.Writes digits n) :
    Text.trim (gap ++ (mark ++ digits ++ gap')) = mark ++ digits := by
  have hblank : ∀ c ∈ mark ++ digits, Text.isBlank c = false := by
    refine List.forall_mem_append.mpr ⟨?_, h.forall_not_blank⟩
    simp only [List.mem_cons, List.not_mem_nil, or_false] at hmark
    obtain rfl | rfl | rfl := hmark <;> simp [Text.isBlank]
  exact Text.trim_append hgap hgap' (fun c hc => hblank c (List.mem_of_head? hc))
    (fun c hc => hblank c (List.mem_of_getLast? hc))

theorem read?_eq_some_iff {text : String} {n : Nat} : read? text = some n ↔ Tells text n := by
  have hlimit : limit = 2 ^ 64 := rfl
  unfold read?
  constructor
  · intro h
    obtain ⟨gap, gap', htext, hgap, hgap'⟩ := Text.exists_trim text.toList
    obtain ⟨mark, hmark, hcs⟩ := exists_mark (Text.trim text.toList)
    split at h
    · cases h
    · rename_i hne
      obtain ⟨hvalue, hbound⟩ := Option.filter_eq_some_iff.mp h
      refine ⟨gap, mark, _, gap', ?_, hgap, hgap', hmark, hne,
        Hexadecimal.value?_eq_some_iff.mp hvalue, ?_⟩
      · rw [← hcs, ← htext]
      · rw [← hlimit]
        exact of_decide_eq_true hbound
  · rintro ⟨gap, mark, digits, gap', htext, hgap, hgap', hmark, hne, hdigits, hbound⟩
    rw [htext, trim_of_tells hgap hgap' hmark hdigits, dropMark_append hmark hdigits]
    split
    · exact absurd rfl hne
    · exact Option.filter_eq_some_iff.mpr ⟨Hexadecimal.value?_eq_some_iff.mpr hdigits,
        decide_eq_true (hlimit ▸ hbound)⟩

/-- The characters of a text that have to be digits: what stands between the white space at its
ends, without the mark. -/
def body (text : String) : List Char := dropMark (Text.trim text.toList)

/-- A text tells no quantity if no digits are there, if something else stands among them, or if the
value is beyond the limit. -/
theorem read?_eq_none_iff {text : String} : read? text = none ↔ body text = [] ∨
    (∃ c ∈ body text, ∀ d, ¬ Hexadecimal.IsDigit c d) ∨
      ∃ n, Hexadecimal.Writes (body text) n ∧ 2 ^ 64 ≤ n := by
  have hlimit : limit = 2 ^ 64 := rfl
  rw [read?, ← body]
  split
  next h => simp [h]
  next hne =>
    simp only [Option.filter_eq_none_iff, Hexadecimal.value?_eq_some_iff, decide_eq_true_eq,
      Nat.not_lt, hlimit]
    constructor
    · intro h
      by_cases hdigits : ∃ n, Hexadecimal.Writes (body text) n
      · obtain ⟨n, hn⟩ := hdigits
        exact .inr (.inr ⟨n, hn, h n hn⟩)
      · rw [Hexadecimal.exists_writes_iff] at hdigits
        push Not at hdigits
        exact .inr (.inl hdigits)
    · rintro (h | ⟨c, hc, hother⟩ | ⟨m, hm, hbeyond⟩) n hn
      · exact absurd h hne
      · obtain ⟨d, hd⟩ := Hexadecimal.exists_writes_iff.mp ⟨n, hn⟩ c hc
        exact absurd hd (hother d)
      · rwa [hn.unique hm]

/-- The law of reading a quantity. A text is read as a value exactly if it tells it, and as nothing
exactly if it has no digits, something else among them, or too large a value. So each value below
the limit is read back from its digits in either case, behind any zeros and a mark or none, between
any white space. -/
theorem read?_law :
    (∀ text n, read? text = some n ↔ Tells text n) ∧
      (∀ text, read? text = none ↔ body text = [] ∨
        (∃ c ∈ body text, ∀ d, ¬ Hexadecimal.IsDigit c d) ∨
          ∃ n, Hexadecimal.Writes (body text) n ∧ 2 ^ 64 ≤ n) ∧
      ∀ n < 2 ^ 64, ∀ digits, Hexadecimal.Spells digits n → ∀ zeros gap gap' mark,
        gap.all Text.isBlank = true → gap'.all Text.isBlank = true →
          mark ∈ [[], ['0', 'x'], ['0', 'X']] →
            read? (String.ofList
              (gap ++ (mark ++ (List.replicate zeros '0' ++ digits) ++ gap'))) = some n := by
  refine ⟨fun _ _ => read?_eq_some_iff, fun _ => read?_eq_none_iff,
    fun n hn digits hdigits zeros gap gap' mark hgap hgap' hmark => ?_⟩
  have hne : List.replicate zeros '0' ++ digits ≠ [] :=
    List.append_ne_nil_of_right_ne_nil _ hdigits.ne_nil
  exact read?_eq_some_iff.mpr ⟨gap, mark, _, gap', String.toList_ofList, hgap, hgap', hmark, hne,
    hdigits.writes.zeros zeros, hn⟩

/-- A quantity in digits of either case, behind zeros and between white space of several kinds. -/
theorem read?_law_padded :
    431 < 2 ^ 64 ∧ Hexadecimal.Spells ['1', 'a', 'F'] 431 ∧
      ['\u2003', '\t'].all Text.isBlank = true ∧ ['\u00a0', '\n'].all Text.isBlank = true ∧
      read? "\u2003\t0X00000000000000001aF\u00a0\n" = some 431 := by
  have hdigits : Hexadecimal.Spells ['1', 'a', 'F'] 431 := by
    unfold Hexadecimal.Spells
    decide
  have hbefore : ['\u2003', '\t'].all Text.isBlank = true := by decide
  have hbehind : ['\u00a0', '\n'].all Text.isBlank = true := by decide
  have htext : String.ofList (['\u2003', '\t'] ++ (['0', 'X'] ++ (List.replicate 16 '0' ++
      ['1', 'a', 'F']) ++ ['\u00a0', '\n'])) = "\u2003\t0X00000000000000001aF\u00a0\n" := by
    rw [← String.toList_inj, String.toList_ofList]
    decide
  have hread := read?_law.2.2 431 (by decide) _ hdigits 16 _ _ ['0', 'X'] hbefore hbehind
    (by decide)
  rw [htext] at hread
  exact ⟨by decide, hdigits, hbefore, hbehind, hread⟩

end Quantity

end NodeTrial
