import NodeTrial.Capture
import NodeTrial.Proofs.Text.Replacement

namespace NodeTrial

namespace Capture

variable {limit : Nat} {c : Capture} {bs : List UInt8}

/-- A capture has received some bytes, and kept as many of them as the limit allows. -/
structure Received (limit : Nat) (c : Capture) (bs : List UInt8) : Prop where
  bytes : c.bytes = bs.take limit
  size : c.size = (bs.take limit).length
  dropped : c.dropped = (bs.drop limit).length

theorem received_empty (limit : Nat) : Received limit empty [] where
  bytes := List.take_nil.symm
  size := by
    rw [List.take_nil]
    rfl
  dropped := by
    rw [List.drop_nil]
    rfl

theorem Received.receive (h : Received limit c bs) (piece : List UInt8) :
    Received limit (c.receive limit piece) (bs ++ piece) := by
  have hroom : limit - c.size = limit - bs.length := by
    rw [h.size, List.length_take]
    omega
  have hbytes : (c.receive limit piece).bytes = (bs ++ piece).take limit := by
    rw [List.take_append, ← h.bytes, ← hroom, Capture.bytes, Capture.receive, List.reverse_cons,
      List.flatten_append, List.flatten_singleton]
    rfl
  refine ⟨hbytes, ?_, ?_⟩
  · rw [List.take_append, List.length_append, ← h.size, ← hroom]
    rfl
  · change c.dropped + (piece.length - (piece.take (limit - c.size)).length) = _
    rw [h.dropped, hroom, List.drop_append, List.length_append, List.length_drop (l := piece),
      List.length_take]
    omega

theorem Received.foldl (h : Received limit c bs) (stream : List (List UInt8)) :
    Received limit (stream.foldl (Capture.receive limit) c) (bs ++ stream.flatten) := by
  induction stream generalizing c bs with
  | nil =>
      rw [List.flatten_nil, List.append_nil]
      exact h
  | cons piece stream ih =>
      rw [List.flatten_cons, ← List.append_assoc]
      exact ih (h.receive piece)

theorem received_drain (limit : Nat) (stream : List (List UInt8)) :
    Received limit (drain limit stream) stream.flatten :=
  (received_empty limit).foldl stream

end Capture

namespace Utf8

theorem encode_append (cs cs' : List Char) : encode (cs ++ cs') = encode cs ++ encode cs' :=
  List.flatMap_append

theorem encode_singleton (c : Char) : encode [c] = String.utf8EncodeChar c :=
  List.flatMap_singleton _ c

/-- The longest front of a text whose written form has at most so many bytes. -/
structure Fits (limit : Nat) (cs front back : List Char) : Prop where
  whole : cs = front ++ back
  fits : (encode front).length ≤ limit
  longest : ∀ c tail, back = c :: tail → limit < (encode (front ++ [c])).length

theorem Fits.covers {limit : Nat} {cs front back pre post : List Char}
    (h : Fits limit cs front back) (hsplit : cs = pre ++ post)
    (hlength : (encode pre).length ≤ limit) : ∃ more, front = pre ++ more := by
  rcases List.append_eq_append_iff.mp (hsplit.symm.trans h.whole) with
    ⟨more, hfront, -⟩ | ⟨more, hpre, hback⟩
  · exact ⟨more, hfront⟩
  · cases more with
    | nil => exact ⟨[], by rw [hpre, List.append_nil, List.append_nil]⟩
    | cons c more =>
        have hlonger := h.longest c (more ++ post) hback
        rw [hpre, List.append_cons, encode_append, List.length_append] at hlength
        omega

theorem Fits.cuts {limit : Nat} {cs front back pre post : List Char} (h : Fits limit cs front back)
    (hsplit : cs = pre ++ post) (hlength : limit < (encode pre).length) :
    ∃ more, more ≠ [] ∧ pre = front ++ more := by
  have hfits := h.fits
  rcases List.append_eq_append_iff.mp (hsplit.symm.trans h.whole) with
    ⟨more, hfront, -⟩ | ⟨more, hpre, -⟩
  · rw [hfront, encode_append, List.length_append] at hfits
    omega
  · refine ⟨more, ?_, hpre⟩
    rintro rfl
    rw [hpre, List.append_nil] at hlength
    omega

/-- A limit cuts a character of a text in two: it ends behind the first byte of the character, or
behind another one but the last. -/
def Cuts (limit : Nat) (cs : List Char) : Prop :=
  ∃ pre c post, cs = pre ++ c :: post ∧ (encode pre).length < limit ∧
    limit < (encode (pre ++ [c])).length

theorem Fits.cuts_iff {limit : Nat} {cs front back : List Char} (h : Fits limit cs front back) :
    Cuts limit cs ↔ ¬ (back = [] ∨ (encode front).length = limit) := by
  constructor
  · rintro ⟨pre, c, post, hcs, hlow, hhigh⟩
    obtain ⟨more, hfront⟩ := h.covers hcs (Nat.le_of_lt hlow)
    obtain ⟨rest, hrest, hpre⟩ := h.cuts (by rw [hcs, List.append_cons]) hhigh
    rw [hfront, List.append_assoc, List.append_cancel_left_eq] at hpre
    obtain ⟨rfl, -⟩ | ⟨-, rfl⟩ := List.append_eq_singleton_iff.mp hpre.symm
    · rw [List.append_nil] at hfront
      subst hfront
      have hback := h.whole.symm.trans hcs
      rw [List.append_cancel_left_eq] at hback
      rw [hback, not_or]
      exact ⟨List.cons_ne_nil c post, Nat.ne_of_lt hlow⟩
    · exact absurd rfl hrest
  · rw [not_or]
    rintro ⟨hback, hne⟩
    obtain ⟨c, tail, rfl⟩ := List.exists_cons_of_ne_nil hback
    exact ⟨front, c, tail, h.whole, Nat.lt_of_le_of_ne h.fits hne, h.longest c tail rfl⟩

theorem decodeFrom_take_encode (acc cs : List Char) (limit : Nat) :
    ∃ front back, Fits limit cs front back ∧
      decodeFrom acc .between ((encode cs).take limit) =
        acc.reverse ++ (front ++
          if back = [] ∨ (encode front).length = limit then [] else [replacement]) := by
  induction cs generalizing acc limit with
  | nil =>
      refine ⟨[], [], ⟨rfl, Nat.zero_le _, fun c tail h => (nomatch h)⟩, ?_⟩
      rw [if_pos (.inl rfl)]
      exact (congrArg (decodeFrom acc .between) List.take_nil).trans (List.append_nil _).symm
  | cons c cs ih =>
      have hencode : encode (c :: cs) = String.utf8EncodeChar c ++ encode cs := List.flatMap_cons
      by_cases hc : (String.utf8EncodeChar c).length ≤ limit
      · obtain ⟨front, back, hfits, hread⟩ :=
          ih (c :: acc) (limit - (String.utf8EncodeChar c).length)
        have hlength : ∀ cs', (encode (c :: cs')).length =
            (String.utf8EncodeChar c).length + (encode cs').length := fun cs' => by
          rw [encode, List.flatMap_cons, List.length_append, ← encode]
        refine ⟨c :: front, back, ⟨congrArg (c :: ·) hfits.whole, ?_, fun d tail hback => ?_⟩, ?_⟩
        · rw [hlength]
          have := hfits.fits
          omega
        · rw [List.cons_append, hlength]
          have := hfits.longest d tail hback
          omega
        · have hcut : (encode (c :: front)).length = limit ↔
              (encode front).length = limit - (String.utf8EncodeChar c).length := by
            rw [hlength]
            omega
          rw [hencode, List.take_append, List.take_of_length_le hc, decodeFrom_encodeChar, hread]
          simp only [hcut, List.reverse_cons, List.append_assoc, List.cons_append, List.nil_append]
      · have hcut : (encode (c :: cs)).take limit = (String.utf8EncodeChar c).take limit := by
          rw [hencode, List.take_append_of_le_length (by omega)]
        refine ⟨[], c :: cs, ⟨rfl, Nat.zero_le _, fun d tail hback => ?_⟩, ?_⟩
        · obtain ⟨rfl, -⟩ := List.cons.inj hback
          rw [List.nil_append, encode_singleton]
          omega
        · rw [hcut, List.nil_append]
          rcases Nat.eq_zero_or_pos limit with rfl | hlimit
          · rw [if_pos (.inr rfl), List.take_zero, List.append_nil]
            rfl
          · have hpositive : (encode []).length ≠ limit := Nat.ne_of_lt hlimit
            rw [decodeFrom_take_encodeChar acc c hlimit (by omega), List.reverse_cons,
              if_neg (by simp [hpositive])]

theorem decodeLossy_take_encode (cs : List Char) (limit : Nat) :
    ∃ front back, Fits limit cs front back ∧
      decodeLossy ((encode cs).take limit) =
        front ++ if back = [] ∨ (encode front).length = limit then [] else [replacement] :=
  decodeFrom_take_encode [] cs limit

end Utf8

/-- Of a written text a capture keeps the characters that fit, and a replacement if another was cut
in two. -/
theorem Capture.text_drain (limit : Nat) {stream : List (List UInt8)} {cs : List Char}
    (h : stream.flatten = Utf8.encode cs) :
    ∃ front back cut, Utf8.Fits limit cs front back ∧ (cut = [] ∨ cut = [Utf8.replacement]) ∧
      (drain limit stream).text = String.ofList (front ++ cut) := by
  obtain ⟨front, back, hfits, hread⟩ := Utf8.decodeLossy_take_encode cs limit
  refine ⟨front, back, if back = [] ∨ (Utf8.encode front).length = limit then [] else
    [Utf8.replacement], hfits, ?_, ?_⟩
  · split
    · exact .inl rfl
    · exact .inr rfl
  · rw [Capture.text, (received_drain limit stream).bytes, h, hread]

namespace Capture

theorem text_eq_ofList_iff (limit : Nat) (stream : List (List UInt8)) (cs : List Char) :
    (drain limit stream).text = String.ofList cs ↔ Utf8.Reads (stream.flatten.take limit) cs := by
  rw [text, (received_drain limit stream).bytes, String.ofList_inj, Utf8.decodeLossy_eq_iff]

/-- The law of a capture. Of a stream of bytes, in whatever pieces it came, the first ones are kept,
as many as the limit allows, and read with replacements for what is not UTF-8; the others are
counted. Of a written text the longest front is kept that fits into the limit, and a replacement
stands behind it exactly if the limit cuts a character in two. -/
theorem drain_law (limit : Nat) (stream : List (List UInt8)) :
    (∀ cs, (drain limit stream).text = String.ofList cs ↔
        Utf8.Reads (stream.flatten.take (min limit stream.flatten.length)) cs) ∧
      (drain limit stream).dropped =
        stream.flatten.length - min limit stream.flatten.length ∧
      (∀ stream', stream'.flatten = stream.flatten →
        (drain limit stream').text = (drain limit stream).text ∧
          (drain limit stream').dropped = (drain limit stream).dropped) ∧
      ∀ cs, stream.flatten = Utf8.encode cs → ∃ front,
        (front <+: cs ∧ (Utf8.encode front).length ≤ limit ∧
          ∀ pre, pre <+: cs → (Utf8.encode pre).length ≤ limit → pre <+: front) ∧
        (Utf8.Cuts limit cs →
          (drain limit stream).text = String.ofList (front ++ [Utf8.replacement])) ∧
        (¬ Utf8.Cuts limit cs → (drain limit stream).text = String.ofList front) := by
  have hreceived := received_drain limit stream
  refine ⟨fun cs => ?_, ?_, fun stream' hsame => ⟨?_, ?_⟩, fun cs hcs => ?_⟩
  · rw [text_eq_ofList_iff, List.take_eq_take_min]
  · rw [hreceived.dropped, List.length_drop]
    omega
  · rw [text, text, (received_drain limit stream').bytes, hsame, hreceived.bytes]
  · rw [(received_drain limit stream').dropped, hsame, hreceived.dropped]
  · obtain ⟨front, back, hfits, hread⟩ := Utf8.decodeLossy_take_encode cs limit
    have htext : (drain limit stream).text = String.ofList (front ++
        if back = [] ∨ (Utf8.encode front).length = limit then [] else [Utf8.replacement]) := by
      rw [text, hreceived.bytes, hcs, hread]
    refine ⟨front, ⟨⟨back, hfits.whole.symm⟩, hfits.fits, ?_⟩, fun hcut => ?_, fun hcut => ?_⟩
    · rintro pre ⟨post, hpre⟩ hlength
      obtain ⟨more, hfront⟩ := hfits.covers hpre.symm hlength
      exact ⟨more, hfront.symm⟩
    · rw [htext, if_neg (hfits.cuts_iff.mp hcut)]
    · rw [htext, if_pos (Decidable.not_not.mp (mt hfits.cuts_iff.mpr hcut)), List.append_nil]

/-- A stream of a text whose last character is cut in two, in pieces that end inside characters. -/
def cutStream : List (List UInt8) := [[0x61, 0xC3], [0xA4, 0xE2], [0x82, 0xAC]]

theorem drain_law_cut :
    cutStream.flatten = Utf8.encode "aä€".toList ∧ Utf8.Cuts 5 "aä€".toList ∧
      (drain 5 cutStream).text = "aä\uFFFD" ∧ (drain 5 cutStream).dropped = 1 ∧
      (drain 5 [cutStream.flatten]).text = (drain 5 cutStream).text ∧
      ∃ front, front <+: "aä€".toList ∧ ['a', 'ä'] <+: front ∧
        (drain 5 cutStream).text = String.ofList (front ++ [Utf8.replacement]) := by
  obtain ⟨hread, hdropped, hpieces, hwritten⟩ := drain_law 5 cutStream
  have hstream : cutStream.flatten = Utf8.encode "aä€".toList := by decide
  have hcut : Utf8.Cuts 5 "aä€".toList := ⟨['a', 'ä'], '€', [], by decide, by decide, by decide⟩
  have hpart : Utf8.Reads ([0xE2, 0x82] ++ []) [Utf8.replacement] :=
    .part (List.cons_ne_nil _ _) (List.cons_ne_nil 0xAC []) (c := '€') (by decide) nofun .nil
  obtain ⟨front, ⟨hfront, -, hlongest⟩, htext, -⟩ := hwritten _ hstream
  exact ⟨hstream, hcut, (hread _).mpr (.char 'a' (.char 'ä' hpart)), hdropped,
    (hpieces _ (by decide)).1, front, hfront, hlongest _ (by decide) (by decide), htext hcut⟩

end Capture

end NodeTrial
