import NodeTrial.Proofs.Text.Utf8
import Mathlib.Data.List.Basic
import Mathlib.Data.List.Induction

/-!
What any bytes are read as. Written characters are read as they are; elsewhere the longest row of
bytes with which a character begins becomes one replacement, and so does a byte with which none
begins. The reader knows at each byte whether some character goes on with it, because the range in
which the byte has to lie is the set of all bytes that some character has there.
-/

namespace NodeTrial.Utf8

theorem exists_char {v : Nat} (h : v.isValidChar) : ∃ c : Char, c.val.toNat = v :=
  ⟨Char.ofNatAux v h, rfl⟩

theorem ofNat_eq {n : Nat} {b : UInt8} (h : n = b.toNat) : UInt8.ofNat n = b := by
  rw [h, UInt8.ofNat_toNat]

/-- A byte that goes on with a character. -/
def IsTail (b : UInt8) : Prop := 0x80 ≤ b.toNat ∧ b.toNat ≤ 0xBF

theorem written_one {a : UInt8} (ha : a.toNat < 0x80) : ∃ c, String.utf8EncodeChar c = [a] := by
  obtain ⟨c, hc⟩ := exists_char (v := a.toNat) (.inl (by omega))
  refine ⟨c, ?_⟩
  rw [String.utf8EncodeChar]
  simp only [hc]
  rw [if_pos (by omega), UInt8.ofNat_toNat]

theorem written_two {a b : UInt8} (ha : 0xC2 ≤ a.toNat ∧ a.toNat < 0xE0) (hb : IsTail b) :
    ∃ c, String.utf8EncodeChar c = [a, b] := by
  unfold IsTail at hb
  obtain ⟨c, hc⟩ := exists_char (v := (a.toNat - 0xC0) * 64 + (b.toNat - 0x80)) (.inl (by omega))
  refine ⟨c, ?_⟩
  rw [String.utf8EncodeChar]
  simp only [hc]
  rw [if_neg (by omega), if_pos (by omega), ofNat_eq (b := a) (by omega),
    ofNat_eq (b := b) (by omega)]

theorem written_three {a b d : UInt8} (ha : 0xE0 ≤ a.toNat ∧ a.toNat < 0xF0) (hb : IsTail b)
    (hlow : a.toNat = 0xE0 → 0xA0 ≤ b.toNat) (hhigh : a.toNat = 0xED → b.toNat ≤ 0x9F)
    (hd : IsTail d) : ∃ c, String.utf8EncodeChar c = [a, b, d] := by
  unfold IsTail at hb hd
  obtain ⟨c, hc⟩ := exists_char
    (v := ((a.toNat - 0xE0) * 64 + (b.toNat - 0x80)) * 64 + (d.toNat - 0x80))
    (by unfold Nat.isValidChar; omega)
  refine ⟨c, ?_⟩
  rw [String.utf8EncodeChar]
  simp only [hc]
  rw [if_neg (by omega), if_neg (by omega), if_pos (by omega), ofNat_eq (b := a) (by omega),
    ofNat_eq (b := b) (by omega), ofNat_eq (b := d) (by omega)]

theorem written_four {a b d e : UInt8} (ha : 0xF0 ≤ a.toNat ∧ a.toNat ≤ 0xF4) (hb : IsTail b)
    (hlow : a.toNat = 0xF0 → 0x90 ≤ b.toNat) (hhigh : a.toNat = 0xF4 → b.toNat ≤ 0x8F)
    (hd : IsTail d) (he : IsTail e) : ∃ c, String.utf8EncodeChar c = [a, b, d, e] := by
  unfold IsTail at hb hd he
  obtain ⟨c, hc⟩ := exists_char
    (v := (((a.toNat - 0xF0) * 64 + (b.toNat - 0x80)) * 64 + (d.toNat - 0x80)) * 64 +
      (e.toNat - 0x80)) (by unfold Nat.isValidChar; omega)
  refine ⟨c, ?_⟩
  rw [String.utf8EncodeChar]
  simp only [hc]
  rw [if_neg (by omega), if_neg (by omega), if_neg (by omega), ofNat_eq (b := a) (by omega),
    ofNat_eq (b := b) (by omega), ofNat_eq (b := d) (by omega), ofNat_eq (b := e) (by omega)]

/-- Bytes with which the written form of a character begins. -/
def Opens (bs : List UInt8) : Prop := ∃ c, bs <+: String.utf8EncodeChar c

/-- Any byte of a range, with so many bytes that go on behind it, completes a character of which
some bytes have been read. -/
def Completes (m : List UInt8) (low high more : Nat) : Prop :=
  ∀ b tails, low ≤ b.toNat ∧ b.toNat ≤ high → tails.length = more → (∀ t ∈ tails, IsTail t) →
    ∃ c, String.utf8EncodeChar c = m ++ b :: tails

section

variable {m : List UInt8} {b : UInt8} {low high more : Nat}

theorem Completes.opens (h : Completes m low high more) (hb : low ≤ b.toNat ∧ b.toNat ≤ high) :
    Opens (m ++ [b]) := by
  have htails : ∀ t ∈ List.replicate more (0x80 : UInt8), IsTail t := fun t ht => by
    rw [(List.mem_replicate.mp ht).2]
    exact ⟨Nat.le_refl _, by decide⟩
  obtain ⟨c, hc⟩ := h b _ hb List.length_replicate htails
  refine ⟨c, List.replicate more 0x80, ?_⟩
  rw [hc]
  exact (List.append_cons m b _).symm

theorem Completes.goOn (h : Completes m low high (more + 1))
    (hb : low ≤ b.toNat ∧ b.toNat ≤ high) : Completes (m ++ [b]) 0x80 0xBF more := by
  intro t tails ht hlength htails
  obtain ⟨c, hc⟩ := h b (t :: tails) hb (congrArg (· + 1) hlength)
    (List.forall_mem_cons.mpr ⟨ht, htails⟩)
  exact ⟨c, by rw [hc, List.append_cons]⟩

theorem completes_begin {a : UInt8} {value : Nat}
    (h : begin a.toNat = ([], .inside value low high more)) : Completes [a] low high more := by
  intro b tails hb hlength htails
  have hthree (ha : 0xE0 ≤ a.toNat ∧ a.toNat < 0xF0) (hmore : more = 1) (hb : IsTail b)
      (hlow : a.toNat = 0xE0 → 0xA0 ≤ b.toNat) (hhigh : a.toNat = 0xED → b.toNat ≤ 0x9F) :
      ∃ c, String.utf8EncodeChar c = [a] ++ b :: tails := by
    obtain ⟨d, rfl⟩ := List.length_eq_one_iff.mp (hlength.trans hmore)
    exact written_three ha hb hlow hhigh (htails d List.mem_cons_self)
  have hfour (ha : 0xF0 ≤ a.toNat ∧ a.toNat ≤ 0xF4) (hmore : more = 2) (hb : IsTail b)
      (hlow : a.toNat = 0xF0 → 0x90 ≤ b.toNat) (hhigh : a.toNat = 0xF4 → b.toNat ≤ 0x8F) :
      ∃ c, String.utf8EncodeChar c = [a] ++ b :: tails := by
    obtain ⟨d, e, rfl⟩ := List.length_eq_two.mp (hlength.trans hmore)
    obtain ⟨hd, he⟩ := List.forall_mem_cons.mp htails
    exact written_four ha hb hlow hhigh hd (he e List.mem_cons_self)
  unfold IsTail at hthree hfour
  unfold begin at h
  split_ifs at h with h₁ h₂ h₃ h₄ h₅ h₆ h₇ h₈ h₉ <;>
    simp only [Prod.mk.injEq, State.inside.injEq, reduceCtorEq, and_false, true_and] at h
  · obtain ⟨-, rfl, rfl, rfl⟩ := h
    obtain rfl := List.length_eq_zero_iff.mp hlength
    exact written_two (by omega) hb
  · exact hthree (by omega) (by omega) (by omega) (by omega) (by omega)
  · exact hthree (by omega) (by omega) (by omega) (by omega) (by omega)
  · exact hthree (by omega) (by omega) (by omega) (by omega) (by omega)
  · exact hfour (by omega) (by omega) (by omega) (by omega) (by omega)
  · exact hfour (by omega) (by omega) (by omega) (by omega) (by omega)
  · exact hfour (by omega) (by omega) (by omega) (by omega) (by omega)

end

theorem step_gives {s : State} {b : UInt8} {cs : List Char} (h : step s b = (cs, .between)) :
    cs ≠ [] := by
  rintro rfl
  cases s with
  | between =>
      rw [step, begin] at h
      split_ifs at h <;> simp at h
  | inside value low high more =>
      rw [step] at h
      split_ifs at h
      · cases more <;> simp at h
      · simp at h

theorem length_le_decodeFrom (acc : List Char) (s : State) (bs : List UInt8) :
    acc.length ≤ (decodeFrom acc s bs).length := by
  induction bs generalizing acc s with
  | nil =>
      rw [decodeFrom, List.length_reverse, List.length_append]
      exact Nat.le_add_left _ _
  | cons b bs ih =>
      have hrest := ih ((step s b).1.reverse ++ acc) (step s b).2
      rw [List.length_append] at hrest
      rw [decodeFrom]
      exact Nat.le_trans (Nat.le_add_left _ _) hrest

theorem length_lt_decodeFrom (acc : List Char) {s : State} {bs : List UInt8}
    (h : s ≠ .between ∨ bs ≠ []) : acc.length < (decodeFrom acc s bs).length := by
  induction bs generalizing acc s with
  | nil =>
      cases s with
      | between => exact absurd h (by simp)
      | inside value low high more => simp [decodeFrom, flush]
  | cons b bs ih =>
      rcases hstep : step s b with ⟨cs, s'⟩
      rw [decodeFrom, hstep]
      cases cs with
      | nil => exact ih acc (.inl fun hs => step_gives (hs ▸ hstep) rfl)
      | cons c cs =>
          have hrest := length_le_decodeFrom ((c :: cs).reverse ++ acc) s' bs
          rw [List.length_append, List.length_reverse, List.length_cons] at hrest
          exact Nat.lt_of_lt_of_le (by omega) hrest

/-- A byte that does not go on with a character ends it as a replacement, and is read anew. -/
theorem decodeFrom_out {acc : List Char} {value low high more : Nat} {b : UInt8}
    (hb : ¬ (low ≤ b.toNat ∧ b.toNat ≤ high)) (bs : List UInt8) :
    decodeFrom acc (.inside value low high more) (b :: bs) =
      decodeFrom (replacement :: acc) .between (b :: bs) := by
  have hstep : step (.inside value low high more) b =
      (replacement :: (begin b.toNat).1, (begin b.toNat).2) := by
    rw [step, if_neg hb]
  rw [decodeFrom, hstep, decodeFrom, step]
  dsimp only
  rw [List.reverse_cons, List.append_assoc, List.singleton_append]

/-- Behind some bytes a reader stands inside a character, at a place from where it can be
completed. -/
def LeadsInside (m : List UInt8) : Prop :=
  ∃ value low high more, Completes m low high more ∧ ∀ acc bs,
    decodeFrom acc .between (m ++ bs) = decodeFrom acc (.inside value low high more) bs

section

variable {m rest : List UInt8} {b : UInt8}

theorem leadsInside_first (hrest : rest ≠ [])
    (hwhole : (decodeFrom [] .between (b :: rest)).length = 1) : LeadsInside [b] := by
  rcases hbegin : begin b.toNat with ⟨cs, s⟩
  have hread (acc : List Char) (bs : List UInt8) :
      decodeFrom acc .between (b :: bs) = decodeFrom (cs.reverse ++ acc) s bs := by
    rw [decodeFrom, step, hbegin]
  have hmore := length_lt_decodeFrom (cs.reverse ++ []) (s := s) (.inr hrest)
  rw [← hread, hwhole, List.append_nil, List.length_reverse] at hmore
  obtain rfl : cs = [] := List.eq_nil_of_length_eq_zero (by omega)
  cases s with
  | between => exact absurd rfl (step_gives (s := .between) hbegin)
  | inside value low high more => exact ⟨value, low, high, more, completes_begin hbegin, hread⟩

theorem LeadsInside.next (h : LeadsInside m) (hrest : rest ≠ [])
    (hwhole : (decodeFrom [] .between (m ++ b :: rest)).length = 1) : LeadsInside (m ++ [b]) := by
  obtain ⟨value, low, high, more, hcompletes, hread⟩ := h
  have hb : low ≤ b.toNat ∧ b.toNat ≤ high := by
    by_contra hout
    have hmore := length_lt_decodeFrom [replacement] (s := .between)
      (.inr (List.cons_ne_nil b rest))
    rw [← decodeFrom_out hout, ← hread, hwhole] at hmore
    exact Nat.lt_irrefl 1 hmore
  cases more with
  | zero =>
      obtain ⟨d, hd⟩ := hcompletes b [] hb rfl (List.forall_mem_nil _)
      have hmore := length_lt_decodeFrom [d] (s := .between) (.inr hrest)
      rw [← decodeFrom_encodeChar, hd, ← List.append_cons, hwhole] at hmore
      exact absurd hmore (Nat.lt_irrefl 1)
  | succ more =>
      refine ⟨value * 64 + (b.toNat - 0x80), _, _, more, hcompletes.goOn hb, fun acc bs => ?_⟩
      rw [← List.append_cons, hread]
      exact decodeFrom_more hb bs

theorem leadsInside_of_written {c : Char} (hm : m ≠ []) (hrest : rest ≠ [])
    (h : String.utf8EncodeChar c = m ++ rest) : LeadsInside m := by
  have hwhole : (decodeFrom [] .between (m ++ rest)).length = 1 := by
    have hread := decodeFrom_encodeChar [] c []
    rw [List.append_nil, h] at hread
    rw [hread]
    rfl
  clear h
  induction m using List.reverseRecOn generalizing rest with
  | nil => exact absurd rfl hm
  | append_singleton m b ih =>
      rw [← List.append_cons] at hwhole
      by_cases hfirst : m = []
      · subst hfirst
        exact leadsInside_first hrest hwhole
      · exact (ih hfirst (List.cons_ne_nil b rest) hwhole).next hrest hwhole

theorem LeadsInside.decodeFrom_end (h : LeadsInside m) (acc : List Char) :
    decodeFrom acc .between m = (replacement :: acc).reverse := by
  obtain ⟨value, low, high, more, -, hread⟩ := h
  rw [← List.append_nil m, hread]
  rfl

/-- The first bytes of a character, without its last ones, become one replacement. -/
theorem decodeFrom_take_encodeChar (acc : List Char) (c : Char) {k : Nat} (hk : 0 < k)
    (hlength : k < (String.utf8EncodeChar c).length) :
    decodeFrom acc .between ((String.utf8EncodeChar c).take k) = (replacement :: acc).reverse := by
  have hfront : (String.utf8EncodeChar c).take k ≠ [] := by
    rw [← List.length_pos_iff, List.length_take]
    omega
  have hback : (String.utf8EncodeChar c).drop k ≠ [] := by
    rw [← List.length_pos_iff, List.length_drop]
    omega
  exact (leadsInside_of_written hfront hback (List.take_append_drop k _).symm).decodeFrom_end acc

theorem opens_first (h : b.toNat < 0x80 ∨ 0xC2 ≤ b.toNat ∧ b.toNat ≤ 0xF4) : Opens [b] := by
  have htail : IsTail 0x80 := ⟨Nat.le_refl _, by decide⟩
  -- The second byte has to suit the first one, and 0xA0 and 0x90 suit all that narrow it.
  rcases h with hone | ⟨hlow, hhigh⟩
  · obtain ⟨c, hc⟩ := written_one hone
    exact ⟨c, [], by rw [hc, List.append_nil]⟩
  by_cases htwo : b.toNat < 0xE0
  · obtain ⟨c, hc⟩ := written_two ⟨hlow, htwo⟩ htail
    exact ⟨c, [0x80], hc.symm⟩
  by_cases hthree : b.toNat < 0xF0
  · by_cases hD : b.toNat = 0xED
    · obtain ⟨c, hc⟩ := written_three (b := 0x80) ⟨by omega, hthree⟩ htail (by omega)
        (fun _ => by decide) htail
      exact ⟨c, [0x80, 0x80], hc.symm⟩
    · obtain ⟨c, hc⟩ := written_three (b := 0xA0) ⟨by omega, hthree⟩ ⟨by decide, by decide⟩
        (fun _ => by decide) (by omega) htail
      exact ⟨c, [0xA0, 0x80], hc.symm⟩
  · by_cases h₄ : b.toNat = 0xF4
    · obtain ⟨c, hc⟩ := written_four (b := 0x80) ⟨by omega, hhigh⟩ htail (by omega)
        (fun _ => by decide) htail htail
      exact ⟨c, [0x80, 0x80, 0x80], hc.symm⟩
    · obtain ⟨c, hc⟩ := written_four (b := 0x90) ⟨by omega, hhigh⟩ ⟨by decide, by decide⟩
        (fun _ => by decide) (by omega) htail htail
      exact ⟨c, [0x90, 0x80, 0x80], hc.symm⟩

theorem decodeFrom_stray (h : ¬ Opens [b]) (acc : List Char) (bs : List UInt8) :
    decodeFrom acc .between (b :: bs) = decodeFrom (replacement :: acc) .between bs := by
  have hrange := mt opens_first h
  have hstep : step .between b = ([replacement], .between) := by
    rw [step, begin, if_neg (by omega)]
    by_cases hlow : b.toNat < 0xC2
    · rw [if_pos hlow]
    · rw [if_neg hlow, if_neg (by omega), if_neg (by omega), if_neg (by omega), if_neg (by omega),
        if_neg (by omega), if_neg (by omega), if_neg (by omega)]
  rw [decodeFrom, hstep]
  rfl

end

/-- What bytes are read as. A written character is read as it is. Elsewhere the longest row of bytes
with which a character begins becomes one replacement, and so does a byte with which none begins. -/
inductive Reads : List UInt8 → List Char → Prop
  | nil : Reads [] []
  | char {bs : List UInt8} {cs : List Char} (c : Char) (rest : Reads bs cs) :
      Reads (String.utf8EncodeChar c ++ bs) (c :: cs)
  | stray {b : UInt8} {bs : List UInt8} {cs : List Char} (h : ¬ Opens [b]) (rest : Reads bs cs) :
      Reads (b :: bs) (replacement :: cs)
  | part {m missing bs : List UInt8} {cs : List Char} {c : Char} (hm : m ≠ [])
      (hmissing : missing ≠ []) (hc : String.utf8EncodeChar c = m ++ missing)
      (hlongest : ∀ b ∈ bs.head?, ¬ Opens (m ++ [b])) (rest : Reads bs cs) :
      Reads (m ++ bs) (replacement :: cs)

theorem decodeFrom_of_reads {bs : List UInt8} {cs : List Char} (h : Reads bs cs)
    (acc : List Char) : decodeFrom acc .between bs = acc.reverse ++ cs := by
  induction h generalizing acc with
  | nil => exact (List.append_nil _).symm
  | char c _ ih => rw [decodeFrom_encodeChar, ih, List.reverse_cons, ← List.append_cons]
  | stray h _ ih => rw [decodeFrom_stray h, ih, List.reverse_cons, ← List.append_cons]
  | @part m missing bs cs c hm hmissing hc hlongest _ ih =>
      have hinside := leadsInside_of_written hm hmissing hc
      have hend : decodeFrom acc .between (m ++ bs) =
          decodeFrom (replacement :: acc) .between bs := by
        cases bs with
        | nil =>
            rw [List.append_nil, hinside.decodeFrom_end]
            rfl
        | cons b bs =>
            obtain ⟨value, low, high, more, hcompletes, hread⟩ := hinside
            rw [hread]
            exact decodeFrom_out (fun hb => hlongest b rfl (hcompletes.opens hb)) bs
      rw [hend, ih, List.reverse_cons, ← List.append_cons]

theorem Opens.exists_longest {m : List UInt8} (h : Opens m) (bs : List UInt8) :
    ∃ more rest, bs = more ++ rest ∧ Opens (m ++ more) ∧
      ∀ b ∈ rest.head?, ¬ Opens (m ++ more ++ [b]) := by
  induction bs generalizing m with
  | nil => exact ⟨[], [], rfl, by rwa [List.append_nil], fun b hb => nomatch hb⟩
  | cons b bs ih =>
      by_cases hb : Opens (m ++ [b])
      · obtain ⟨more, rest, rfl, hmore, hlongest⟩ := ih hb
        rw [← List.append_cons] at hmore hlongest
        exact ⟨b :: more, rest, rfl, hmore, hlongest⟩
      · refine ⟨[], b :: bs, rfl, by rwa [List.append_nil], ?_⟩
        rw [List.append_nil]
        rintro d hd
        cases hd
        exact hb

theorem exists_reads (bs : List UInt8) : ∃ cs, Reads bs cs := by
  induction hlength : bs.length using Nat.strong_induction_on generalizing bs with
  | _ n ih =>
  subst hlength
  cases bs with
  | nil => exact ⟨[], .nil⟩
  | cons b bs =>
      by_cases hopens : Opens [b]
      · obtain ⟨more, rest, rfl, ⟨c, missing, hc⟩, hlongest⟩ := hopens.exists_longest bs
        have hless : rest.length < (b :: (more ++ rest)).length := by
          rw [List.length_cons, List.length_append]
          omega
        obtain ⟨cs, hcs⟩ := ih rest.length hless rest rfl
        rw [← List.cons_append, ← List.singleton_append (x := b) (l := more)]
        by_cases hmissing : missing = []
        · subst hmissing
          rw [← List.append_nil ([b] ++ more), hc]
          exact ⟨_, .char c hcs⟩
        · exact ⟨_, .part (List.cons_ne_nil b more) hmissing hc.symm hlongest hcs⟩
      · obtain ⟨cs, hcs⟩ := ih bs.length (Nat.lt_succ_self _) bs rfl
        exact ⟨_, .stray hopens hcs⟩

/-- The law of reading: bytes are read as one row of characters, and as no other. -/
theorem decodeLossy_eq_iff {bs : List UInt8} {cs : List Char} :
    decodeLossy bs = cs ↔ Reads bs cs := by
  have hread {cs : List Char} (h : Reads bs cs) : decodeLossy bs = cs := decodeFrom_of_reads h []
  refine ⟨?_, hread⟩
  rintro rfl
  obtain ⟨cs, hcs⟩ := exists_reads bs
  rwa [hread hcs]

end NodeTrial.Utf8
