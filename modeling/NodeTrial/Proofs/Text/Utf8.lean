import NodeTrial.Text.Utf8
import Mathlib.Data.Nat.Basic

namespace NodeTrial.Utf8

theorem decodeFrom_last {acc : List Char} {value low high : Nat} {b : UInt8} {c : Char}
    (hb : low ≤ b.toNat ∧ b.toNat ≤ high) (hc : c.toNat = value * 64 + (b.toNat - 0x80))
    (bs : List UInt8) :
    decodeFrom acc (.inside value low high 0) (b :: bs) = decodeFrom (c :: acc) .between bs := by
  have hstep : step (.inside value low high 0) b = ([c], .between) := by
    rw [step, if_pos hb, ← hc]
    exact congrArg (fun c => ([c], State.between)) (Char.ofNat_toNat c)
  rw [decodeFrom, hstep]
  rfl

theorem decodeFrom_more {acc : List Char} {value low high more : Nat} {b : UInt8}
    (hb : low ≤ b.toNat ∧ b.toNat ≤ high) (bs : List UInt8) :
    decodeFrom acc (.inside value low high (more + 1)) (b :: bs) =
      decodeFrom acc (.inside (value * 64 + (b.toNat - 0x80)) 0x80 0xBF more) bs := by
  rw [decodeFrom, step, if_pos hb]
  rfl

theorem begin_two {b : Nat} (hlow : 0xC2 ≤ b) (hhigh : b < 0xE0) :
    begin b = ([], .inside (b - 0xC0) 0x80 0xBF 0) := by
  rw [begin, if_neg (by omega), if_neg (by omega), if_pos hhigh]

theorem begin_three {b n : Nat} (hb : 0xE0 ≤ b ∧ b < 0xF0) (hn : 0x80 ≤ n ∧ n ≤ 0xBF)
    (hlow : b = 0xE0 → 0xA0 ≤ n) (hhigh : b = 0xED → n ≤ 0x9F) :
    ∃ low high, begin b = ([], .inside (b - 0xE0) low high 1) ∧ low ≤ n ∧ n ≤ high := by
  rw [begin, if_neg (by omega), if_neg (by omega), if_neg (by omega)]
  by_cases h₀ : b = 0xE0
  · subst h₀
    exact ⟨0xA0, 0xBF, rfl, hlow rfl, hn.2⟩
  · by_cases hD : b = 0xED
    · subst hD
      exact ⟨0x80, 0x9F, rfl, hn.1, hhigh rfl⟩
    · rw [if_neg h₀, if_neg hD, if_pos hb.2]
      exact ⟨0x80, 0xBF, rfl, hn⟩

theorem begin_four {b n : Nat} (hb : 0xF0 ≤ b ∧ b ≤ 0xF4) (hn : 0x80 ≤ n ∧ n ≤ 0xBF)
    (hlow : b = 0xF0 → 0x90 ≤ n) (hhigh : b = 0xF4 → n ≤ 0x8F) :
    ∃ low high, begin b = ([], .inside (b - 0xF0) low high 2) ∧ low ≤ n ∧ n ≤ high := by
  rw [begin, if_neg (by omega), if_neg (by omega), if_neg (by omega), if_neg (by omega),
    if_neg (by omega), if_neg (by omega)]
  by_cases h₀ : b = 0xF0
  · subst h₀
    exact ⟨0x90, 0xBF, rfl, hlow rfl, hn.2⟩
  · by_cases h₄ : b = 0xF4
    · subst h₄
      exact ⟨0x80, 0x8F, rfl, hn.1, hhigh rfl⟩
    · rw [if_neg h₀, if_pos (by omega)]
      exact ⟨0x80, 0xBF, rfl, hn⟩

theorem toNat_ofNat {n : Nat} (h : n < 256) : (UInt8.ofNat n).toNat = n :=
  UInt8.toNat_ofNat_of_lt' h

theorem decodeFrom_encodeChar (acc : List Char) (c : Char) (bs : List UInt8) :
    decodeFrom acc .between (String.utf8EncodeChar c ++ bs) =
      decodeFrom (c :: acc) .between bs := by
  have hvalid : c.toNat < 0xD800 ∨ 0xDFFF < c.toNat ∧ c.toNat < 0x110000 := c.valid
  have hval : c.val.toNat = c.toNat := rfl
  rw [String.utf8EncodeChar]
  simp only [hval]
  generalize hv : c.toNat = v at hvalid
  by_cases h₁ : v ≤ 0x7F
  · rw [if_pos h₁, List.singleton_append, decodeFrom, step, toNat_ofNat (by omega), begin,
      if_pos (by omega), ← hv, Char.ofNat_toNat]
    rfl
  rw [if_neg h₁]
  by_cases h₂ : v ≤ 0x7FF
  · have hfirst : begin (UInt8.ofNat (v / 64 % 0x20 + 0xC0)).toNat =
        ([], .inside (v / 64) 0x80 0xBF 0) := by
      rw [toNat_ofNat (by omega), begin_two (by omega) (by omega), Nat.add_sub_cancel,
        Nat.mod_eq_of_lt (by omega)]
    rw [if_pos h₂, List.cons_append, decodeFrom, step, hfirst]
    refine decodeFrom_last ?_ ?_ bs <;> rw [toNat_ofNat (by omega)] <;> omega
  rw [if_neg h₂]
  by_cases h₃ : v ≤ 0xFFFF
  · obtain ⟨low, high, hfirst, hrange⟩ := begin_three (b := v / 4096 % 0x10 + 0xE0)
      (n := v / 64 % 0x40 + 0x80) (by omega) (by omega) (by omega) (by omega)
    rw [if_pos h₃, List.cons_append, decodeFrom, step, toNat_ofNat (by omega), hfirst]
    refine (decodeFrom_more ?_ _).trans (decodeFrom_last ?_ ?_ bs)
    · rw [toNat_ofNat (by omega)]
      exact hrange
    · rw [toNat_ofNat (by omega)]
      omega
    · rw [toNat_ofNat (by omega), toNat_ofNat (by omega)]
      omega
  · obtain ⟨low, high, hfirst, hrange⟩ := begin_four (b := v / 262144 % 0x08 + 0xF0)
      (n := v / 4096 % 0x40 + 0x80) (by omega) (by omega) (by omega) (by omega)
    rw [if_neg h₃, List.cons_append, decodeFrom, step, toNat_ofNat (by omega), hfirst]
    refine (decodeFrom_more ?_ _).trans ((decodeFrom_more ?_ _).trans (decodeFrom_last ?_ ?_ bs))
    · rw [toNat_ofNat (by omega)]
      exact hrange
    · rw [toNat_ofNat (by omega)]
      omega
    · rw [toNat_ofNat (by omega)]
      omega
    · rw [toNat_ofNat (by omega), toNat_ofNat (by omega), toNat_ofNat (by omega)]
      omega

theorem decodeFrom_encode (acc cs : List Char) :
    decodeFrom acc .between (encode cs) = acc.reverse ++ cs := by
  induction cs generalizing acc with
  | nil => exact (List.append_nil _).symm
  | cons c cs ih =>
      rw [encode, List.flatMap_cons, decodeFrom_encodeChar, ← encode, ih, List.reverse_cons,
        List.append_assoc, List.singleton_append]

theorem decode?_encode (cs : List Char) : decode? (encode cs) = some cs := by
  rw [decode?, decodeLossy, decodeFrom_encode, List.reverse_nil, List.nil_append]
  exact if_pos rfl

end NodeTrial.Utf8
