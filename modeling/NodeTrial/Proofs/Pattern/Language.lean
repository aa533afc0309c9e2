import NodeTrial.Proofs.Pattern.Case
import NodeTrial.Proofs.Pattern.Matching
import NodeTrial.Proofs.Text.Stretches
import Mathlib.Computability.Language

/-!
The language of a pattern. A pattern that does not look around occurs in a text exactly if some
stretch of the text is in its language. Where no text of the language holds a line feed, the pattern
occurs in two texts on lines of their own exactly if it occurs in one of them.
-/

namespace NodeTrial.Pattern

/-- Whether a pattern nowhere looks at what stands around the text that it takes. -/
def isPlain : Pattern → Bool
  | .empty => true
  | .one _ => true
  | .look _ => false
  | .seq p q => p.isPlain && q.isPlain
  | .alt p q => p.isPlain && q.isPlain
  | .group p => p.isPlain
  | .many p _ _ => p.isPlain

/-- The texts that a plain pattern takes. -/
def language : Pattern → Language Char
  | .empty => 1
  | .one s => {w | ∃ c, s.holds c = true ∧ w = [c]}
  | .look _ => 0
  | .seq p q => p.language * q.language
  | .alt p q => p.language + q.language
  | .group p => p.language
  | .many p least most? =>
    {w | ∃ n, least ≤ n ∧ (∀ most ∈ most?, n ≤ max least most) ∧ w ∈ p.language ^ n}

variable {p q : Pattern} {x y : Place} {w : List Char}

theorem mem_language_one {s : CharSet} :
    w ∈ (one s).language ↔ ∃ c, s.holds c = true ∧ w = [c] := Iff.rfl

theorem mem_language_seq :
    w ∈ (seq p q).language ↔ ∃ u ∈ p.language, ∃ v ∈ q.language, u ++ v = w :=
  Language.mem_mul

theorem mem_language_alt : w ∈ (alt p q).language ↔ w ∈ p.language ∨ w ∈ q.language := Iff.rfl

theorem mem_language_many {least : Nat} {most? : Option Nat} :
    w ∈ (many p least most?).language ↔
      ∃ n, least ≤ n ∧ (∀ most ∈ most?, n ≤ max least most) ∧ w ∈ p.language ^ n := Iff.rfl

/-- A relation leads exactly over the texts of a language. -/
def LeadsOver (R : Place → Place → Prop) (L : Language Char) : Prop :=
  ∀ x y, R x y ↔ ∃ w ∈ L, Place.Past x w y

namespace LeadsOver

variable {R S : Place → Place → Prop} {L M : Language Char}

theorem one : LeadsOver (· = ·) 1 := by
  intro x y
  constructor
  · rintro rfl
    exact ⟨[], Language.nil_mem_one, Place.past_nil x⟩
  · rintro ⟨w, hw, hpast⟩
    obtain rfl : w = [] := hw
    exact hpast.eq

theorem mul (hR : LeadsOver R L) (hS : LeadsOver S M) :
    LeadsOver (Relation.Comp R S) (L * M) := by
  intro x y
  constructor
  · rintro ⟨z, hz, hy⟩
    obtain ⟨u, hu, hxz⟩ := (hR x z).mp hz
    obtain ⟨v, hv, hzy⟩ := (hS z y).mp hy
    exact ⟨u ++ v, Language.append_mem_mul hu hv, hxz.trans hzy⟩
  · rintro ⟨w, hw, hpast⟩
    obtain ⟨u, hu, v, hv, rfl⟩ := Language.mem_mul.mp hw
    obtain ⟨z, hxz, hzy⟩ := hpast.split
    exact ⟨z, (hR x z).mpr ⟨u, hu, hxz⟩, (hS z y).mpr ⟨v, hv, hzy⟩⟩

theorem times (h : LeadsOver R L) (n : Nat) : LeadsOver (Times R n) (L ^ n) := by
  induction n with
  | zero =>
      rw [pow_zero]
      exact one
  | succ n ih =>
      rw [pow_succ']
      exact h.mul ih

end LeadsOver

theorem leadsOver_language (hp : p.isPlain = true) : LeadsOver p.Takes p.language := by
  induction p with
  | empty => exact .one
  | one s =>
      intro x y
      rw [Takes, Place.advance?_eq_some_iff]
      constructor
      · rintro ⟨c, hc, hpast⟩
        exact ⟨[c], ⟨c, hc, rfl⟩, hpast⟩
      · rintro ⟨w, ⟨c, hc, rfl⟩, hpast⟩
        exact ⟨c, hc, hpast⟩
  | look l => cases hp
  | seq p q ihp ihq =>
      rw [isPlain, Bool.and_eq_true] at hp
      exact (ihp hp.1).mul (ihq hp.2)
  | alt p q ihp ihq =>
      rw [isPlain, Bool.and_eq_true] at hp
      intro x y
      rw [Takes, ihp hp.1 x y, ihq hp.2 x y]
      constructor
      · rintro (⟨w, hw, hpast⟩ | ⟨w, hw, hpast⟩)
        · exact ⟨w, .inl hw, hpast⟩
        · exact ⟨w, .inr hw, hpast⟩
      · rintro ⟨w, hw | hw, hpast⟩
        · exact .inl ⟨w, hw, hpast⟩
        · exact .inr ⟨w, hw, hpast⟩
  | group p ih => exact ih hp
  | many p least most? ih =>
      intro x y
      constructor
      · rintro ⟨n, hleast, hmost, h⟩
        obtain ⟨w, hw, hpast⟩ := ((ih hp).times n x y).mp h
        exact ⟨w, ⟨n, hleast, hmost, hw⟩, hpast⟩
      · rintro ⟨w, ⟨n, hleast, hmost, hw⟩, hpast⟩
        exact ⟨n, hleast, hmost, ((ih hp).times n x y).mpr ⟨w, hw, hpast⟩⟩

/-- A plain pattern occurs in a text if a stretch of the text is in its language. -/
theorem occursIn_iff_stretch (hp : p.isPlain = true) {text : String} :
    p.occursIn text = true ↔ ∃ w ∈ p.language, w <:+: text.toList := by
  rw [occursIn_iff_takes]
  constructor
  · rintro ⟨x, y, ⟨u, hu⟩, hxy⟩
    obtain ⟨w, hw, hpast⟩ := (leadsOver_language hp x y).mp hxy
    refine ⟨w, hw, u, y.after, ?_⟩
    rw [List.append_assoc, ← hpast.after]
    exact hu.after.symm
  · rintro ⟨w, hw, u, v, htext⟩
    obtain ⟨x, hx, hafter⟩ := Place.exists_past (x := Place.front text.toList) (w := u)
      (v := w ++ v) (by rw [← List.append_assoc, htext]; rfl)
    obtain ⟨y, hy, -⟩ := Place.exists_past hafter
    exact ⟨x, y, ⟨u, hx⟩, (leadsOver_language hp x y).mpr ⟨w, hw, hy⟩⟩

/-- Whether a pattern nowhere takes a character. -/
def avoids (c : Char) : Pattern → Bool
  | .empty => true
  | .one s => !s.holds c
  | .look _ => true
  | .seq p q => p.avoids c && q.avoids c
  | .alt p q => p.avoids c && q.avoids c
  | .group p => p.avoids c
  | .many p _ _ => p.avoids c

theorem not_mem_of_avoids {c : Char} (hp : p.avoids c = true) (hw : w ∈ p.language) : c ∉ w := by
  induction p generalizing w with
  | empty =>
      obtain rfl : w = [] := hw
      exact List.not_mem_nil
  | one s =>
      obtain ⟨d, hd, rfl⟩ := mem_language_one.mp hw
      rw [List.mem_singleton]
      rintro rfl
      simp [avoids, hd] at hp
  | look l => cases hw
  | seq p q ihp ihq =>
      rw [avoids, Bool.and_eq_true] at hp
      obtain ⟨u, hu, v, hv, rfl⟩ := mem_language_seq.mp hw
      rw [List.mem_append, not_or]
      exact ⟨ihp hp.1 hu, ihq hp.2 hv⟩
  | alt p q ihp ihq =>
      rw [avoids, Bool.and_eq_true] at hp
      exact (mem_language_alt.mp hw).elim (ihp hp.1) (ihq hp.2)
  | group p ih => exact ih hp hw
  | many p least most? ih =>
      obtain ⟨n, -, -, hpow⟩ := mem_language_many.mp hw
      obtain ⟨parts, rfl, -, hparts⟩ := Language.mem_pow.mp hpow
      rw [List.mem_flatten]
      rintro ⟨part, hmem, hc⟩
      exact ih hp (hparts part hmem) hc

/-- Whether a pattern takes something besides white space wherever it takes anything. -/
def isSolid : Pattern → Bool
  | .empty => false
  | .one s => s.isSolid
  | .look _ => false
  | .seq p q => p.isSolid || q.isSolid
  | .alt p q => p.isSolid && q.isSolid
  | .group p => p.isSolid
  | .many p least _ => least != 0 && p.isSolid

theorem not_all_isBlank_of_isSolid (hp : p.isSolid = true) (hw : w ∈ p.language) :
    w.all Text.isBlank = false := by
  induction p generalizing w with
  | empty => cases hp
  | one s =>
      obtain ⟨c, hc, rfl⟩ := mem_language_one.mp hw
      rw [List.all_cons, List.all_nil, Bool.and_true, Bool.eq_false_iff]
      intro hblank
      simp [CharSet.not_holds_of_isSolid hp hblank] at hc
  | look l => cases hp
  | seq p q ihp ihq =>
      rw [isSolid, Bool.or_eq_true] at hp
      obtain ⟨u, hu, v, hv, rfl⟩ := mem_language_seq.mp hw
      rw [List.all_append, Bool.and_eq_false_iff]
      exact hp.imp (ihp · hu) (ihq · hv)
  | alt p q ihp ihq =>
      rw [isSolid, Bool.and_eq_true] at hp
      exact (mem_language_alt.mp hw).elim (ihp hp.1) (ihq hp.2)
  | group p ih => exact ih hp hw
  | many p least most? ih =>
      rw [isSolid, Bool.and_eq_true, bne_iff_ne] at hp
      obtain ⟨n, hleast, -, hpow⟩ := mem_language_many.mp hw
      obtain ⟨parts, rfl, rfl, hparts⟩ := Language.mem_pow.mp hpow
      cases parts with
      | nil => exact absurd (Nat.le_zero.mp hleast) hp.1
      | cons part parts =>
          rw [List.flatten_cons, List.all_append, ih hp.2 (hparts part List.mem_cons_self),
            Bool.false_and]

/-- Whether a pattern tells of single lines that are not blank: it never looks around, never takes a
line feed and takes more than white space. -/
def readsLines (p : Pattern) : Bool := p.isPlain && p.avoids '\n' && p.isSolid

theorem readsLines_iff :
    p.readsLines = true ↔ p.isPlain = true ∧ p.avoids '\n' = true ∧ p.isSolid = true := by
  rw [readsLines, Bool.and_eq_true, Bool.and_eq_true, and_assoc]

theorem occursIn_lines (hp : p.readsLines = true) (a b : String) :
    p.occursIn (a ++ "\n" ++ b) = true ↔ p.occursIn a = true ∨ p.occursIn b = true := by
  obtain ⟨hplain, havoids, -⟩ := readsLines_iff.mp hp
  have htext : (a ++ "\n" ++ b).toList = a.toList ++ '\n' :: b.toList := by simp
  rw [occursIn_iff_stretch hplain, occursIn_iff_stretch hplain, occursIn_iff_stretch hplain, htext,
    ← exists_or]
  refine exists_congr fun w => ?_
  rw [← and_or_left]
  exact and_congr_right fun hw => Text.infix_append_cons_iff (not_mem_of_avoids havoids hw) _ _

theorem not_occursIn_of_blank (hp : p.readsLines = true) {text : String}
    (hblank : Text.blank text = true) : p.occursIn text = false := by
  obtain ⟨hplain, -, hsolid⟩ := readsLines_iff.mp hp
  rw [Bool.eq_false_iff, ne_eq, occursIn_iff_stretch hplain]
  rintro ⟨w, hw, h⟩
  have hfull := not_all_isBlank_of_isSolid hsolid hw
  rw [Bool.eq_false_iff, ne_eq, List.all_eq_true] at hfull
  exact hfull fun c hc => List.all_eq_true.mp hblank c (h.subset hc)

end NodeTrial.Pattern
