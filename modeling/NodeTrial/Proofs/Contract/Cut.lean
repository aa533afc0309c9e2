import NodeTrial.Proofs.Capture
import NodeTrial.Proofs.Contract.FirstObject
import NodeTrial.Proofs.Contract.Success

namespace NodeTrial.Contract

open Json

/-- What stands behind the first opening brace. -/
def behindBrace (cs : List Char) : List Char := (cs.dropWhile (· ≠ '{')).tail

/-- `v` is the first object that can be read inside of what is kept of an object. It is sought at each
further opening brace in turn, also at one inside of a string. -/
def Nested (kept : String) (v : Json) : Prop := IsFirstObject (behindBrace kept.toList) v

theorem behindBrace_append {gap : List Char} (h : '{' ∉ gap) (cs : List Char) :
    behindBrace (gap ++ '{' :: cs) = cs := by
  rw [behindBrace, List.dropWhile_append_of_pos]
  · rfl
  · intro c hc
    simpa using ne_of_mem_of_not_mem hc h

theorem behindBrace_of_not_mem {cs : List Char} (h : '{' ∉ cs) : behindBrace cs = [] := by
  rw [behindBrace, List.dropWhile_eq_nil_iff.mpr]
  · rfl
  · intro c hc
    simpa using ne_of_mem_of_not_mem hc h

theorem not_mem_of_cut {cut : List Char} (h : cut = [] ∨ cut = [Utf8.replacement]) :
    '{' ∉ cut ∧ '}' ∉ cut := by
  rcases h with rfl | rfl <;> decide

theorem ObjectText.readFront_cut {text front back cut : List Char}
    {members : List (String × Json)} (h : ObjectText text members)
    (hsplit : text = '{' :: front ++ back) (hback : back ≠ []) (hcut : '}' ∉ cut) :
    readFront ('{' :: (front ++ cut)) = none := by
  rw [Option.eq_none_iff_forall_ne_some]
  rintro ⟨v, rest⟩ hread
  obtain ⟨rest', hfront⟩ := readFront_append hcut hread
  obtain ⟨members', rfl⟩ := isObject_of_readFront hfront
  -- With its end behind it the same object would be read, and that end would be left over.
  have hwhole := readObject_append hfront back
  rw [← hsplit, h.readFront_self] at hwhole
  obtain ⟨-, hrest⟩ := Prod.mk.inj (Option.some.inj hwhole)
  exact hback (List.append_eq_nil_iff.mp hrest.symm).2

section

variable {gap text front back cut : List Char} {members : List (String × Json)}

theorem document?_of_blank (hfront : front.all Text.isBlank = true)
    (hcut : cut = [] ∨ cut = [Utf8.replacement]) :
    document? (String.ofList (front ++ cut)) = none := by
  have htrim : Text.trim (front ++ cut) = cut := by
    rcases hcut with rfl | rfl
    · rw [List.append_nil]
      exact (Text.trim_eq_nil_iff front).mpr hfront
    · rw [Text.trim, Text.trimStart_append hfront]
      rfl
  rw [document?, String.toList_ofList, htrim]
  rcases hcut with rfl | rfl <;> with_unfolding_all rfl

/-- Of an object that is cut off the document is the first object inside of it. -/
theorem document?_of_cut (hgap : gap.all Text.isBlank = true) (htext : ObjectText text members)
    (hsplit : gap ++ text = front ++ back) (hback : back ≠ [])
    (hcut : cut = [] ∨ cut = [Utf8.replacement]) :
    document? (String.ofList (front ++ cut)) = firstObject? (behindBrace (front ++ cut)) := by
  obtain ⟨hopen, hclose⟩ := not_mem_of_cut hcut
  have hblank : front.all Text.isBlank = true →
      document? (String.ofList (front ++ cut)) = firstObject? (behindBrace (front ++ cut)) := by
    intro hfront
    have hbrace : '{' ∉ front ++ cut :=
      fun hmem => (List.mem_append.mp hmem).elim (not_mem_of_isBlank hfront).1 hopen
    rw [document?_of_blank hfront hcut, behindBrace_of_not_mem hbrace]
    rfl
  rcases List.append_eq_append_iff.mp hsplit with ⟨kept, rfl, htail⟩ | ⟨more, rfl, -⟩
  · obtain ⟨inner, hinner⟩ := htext.opens
    rcases kept with _ | ⟨c, kept⟩
    · exact hblank (by rwa [List.append_nil])
    · obtain rfl : '{' = c := List.head_eq_of_cons_eq (hinner.symm.trans htail)
      have hnone := htext.readFront_cut htail hback hclose
      rw [List.append_assoc, List.cons_append, document?_of_brace hgap,
        firstObject?_behind hnone, behindBrace_append (not_mem_of_isBlank hgap).1]
  · rw [List.all_append, Bool.and_eq_true] at hgap
    exact hblank hgap.1

theorem nested_iff_document? (hgap : gap.all Text.isBlank = true) (htext : ObjectText text members)
    (hsplit : gap ++ text = front ++ back) (hback : back ≠ [])
    (hcut : cut = [] ∨ cut = [Utf8.replacement]) {v : Json} :
    Nested (String.ofList (front ++ cut)) v ↔ document? (String.ofList (front ++ cut)) = some v := by
  rw [document?_of_cut hgap htext hsplit hback hcut, firstObject?_eq_some_iff, Nested,
    String.toList_ofList]

theorem Nested.stands {v : Json} (hcut : cut = [] ∨ cut = [Utf8.replacement])
    (h : Nested (String.ofList (front ++ cut)) v) :
    ∃ tail rest, tail <:+ behindBrace (front ++ back) ∧ readFront tail = some (v, rest) := by
  obtain ⟨hopen, hclose⟩ := not_mem_of_cut hcut
  rw [Nested, String.toList_ofList, ← firstObject?_eq_some_iff] at h
  by_cases hbrace : '{' ∈ front
  · obtain ⟨pre, inner, rfl, hpre⟩ := List.eq_append_cons_of_mem hbrace
    rw [List.append_assoc, List.cons_append, behindBrace_append hpre,
      firstObject?_append hopen hclose] at h
    obtain ⟨tail, members, rest, ⟨skipped, rfl⟩, rfl, hread⟩ := readFront_of_firstObject? h
    rw [List.append_assoc, List.cons_append, behindBrace_append hpre]
    exact ⟨tail ++ back, rest ++ back, ⟨skipped, (List.append_assoc ..).symm⟩,
      readObject_append hread back⟩
  · rw [behindBrace_of_not_mem fun hmem => (List.mem_append.mp hmem).elim hbrace hopen] at h
    cases h

end

/-- The output of a reverted call, of which a limited number of bytes is kept. If the object is kept
as a whole, the call is no success. If it is cut, the verdict is that on the first text behind its
opening brace that can be read as an object, wherever that text stands, and without such a text, or
with one that does not decode as a call, what is kept is searched for the words of success. -/
theorem callSucceeded_of_cut {output kept : String} {members : List (String × Json)} {limit : Nat}
    {stream : List (List UInt8)} (houtput : Json.ofText? output = some (.object members))
    (hdecodes : Decodes (.object members))
    (hreverted : Json.member? "reverted" members = some (.bool true))
    (hstream : stream.flatten = Utf8.encode output.toList)
    (hkept : (Capture.drain limit stream).text = kept) :
    ((Utf8.encode (Text.trimEnd output.toList)).length ≤ limit → callSucceeded kept = false) ∧
    (limit < (Utf8.encode (Text.trimEnd output.toList)).length →
      (callSucceeded kept = true ↔
        (∃ v, Nested kept v ∧ Decodes v ∧ SaysSuccess v) ∨
          (∀ v, Nested kept v → ¬ Decodes v) ∧
            ∃ word ∈ Call.successMarkers, word.toList <:+: kept.toList) ∧
      ∀ v, Nested kept v →
        ∃ tail rest, tail <:+ behindBrace output.toList ∧ readFront tail = some (v, rest)) := by
  obtain ⟨gap, text, gap', hcs, hgap, hgap', htext⟩ := exists_gaps houtput
  obtain ⟨front, back, cut, hfits, hcut, hread⟩ := Capture.text_drain limit hstream
  obtain rfl : kept = String.ofList (front ++ cut) := hkept.symm.trans hread
  have hsplit : output.toList = (gap ++ text) ++ gap' := by rw [hcs, List.append_assoc]
  have hend : Text.trimEnd output.toList = gap ++ text := by
    have hlast : ∀ c, (gap ++ text).getLast? = some c → Text.isBlank c = false := by
      obtain ⟨body, hbody⟩ := htext.closes
      intro c hc
      rw [hbody, ← List.append_assoc, List.getLast?_concat] at hc
      exact htext.last_solid c (by rw [hbody, List.getLast?_concat, hc])
    rw [hsplit, Text.trimEnd_append hgap', Text.trimEnd_of_getLast hlast]
  rw [hend]
  constructor
  · intro hlength
    obtain ⟨more, rfl⟩ := hfits.covers hsplit hlength
    have hdocument := document?_of_whole hgap htext (more ++ cut)
    rw [← List.append_assoc text, ← List.append_assoc, ← List.append_assoc] at hdocument
    rw [Bool.eq_false_iff, ne_eq, callSucceeded_of_decodes hdocument hdecodes]
    exact not_saysSuccess_of_reverted hreverted
  · intro hlength
    obtain ⟨more, hmore, htail⟩ := hfits.cuts hsplit hlength
    constructor
    · rw [callSucceeded_iff]
      simp only [nested_iff_document? hgap htext htail hmore hcut]
    · intro v hv
      rw [hfits.whole]
      exact hv.stands hcut

/-- Braces inside of a string are taken for an object, which says nothing of a success. -/
example : callSucceeded "\x7b\"reverted\":true,\"note\":\"\x7b\x7d\",\"data\":\x7b\"Ok\":null" = false := by
  with_unfolding_all rfl

/-- The output of a call that was reverted, with an object inside that says success. -/
def revertedStatus : String :=
  "\x7b\"reverted\":true,\"data\":\x7b\"status\":\"success\"\x7d,\"gas\":\x7b\"used\":3\x7d\x7d"

/-- With all of the output the call is no success, and with its first 48 bytes it is one. -/
theorem callSucceeded_of_cut_status :
    ∃ members, Json.ofText? revertedStatus = some (.object members) ∧
      Decodes (.object members) ∧ Json.member? "reverted" members = some (.bool true) ∧
      callSucceeded (Capture.drain 100 [Utf8.encode revertedStatus.toList]).text = false ∧
      callSucceeded (Capture.drain 48 [Utf8.encode revertedStatus.toList]).text = true := by
  have houtput : Json.ofText? revertedStatus = some (.object
      [("data", .object [("status", .string "success")]),
        ("gas", .object [("used", .number (.natural 3))]), ("reverted", .bool true)]) := by
    with_unfolding_all rfl
  have hdecodes : Decodes (.object
      [("data", .object [("status", .string "success")]),
        ("gas", .object [("used", .number (.natural 3))]), ("reverted", .bool true)]) :=
    ⟨_, _, _, .object _, .inr (.inr ⟨true, rfl⟩), .inl rfl⟩
  have hstream : [Utf8.encode revertedStatus.toList].flatten = Utf8.encode revertedStatus.toList :=
    List.flatten_singleton
  refine ⟨_, houtput, hdecodes, rfl, ?_, ?_⟩
  · exact (callSucceeded_of_cut houtput hdecodes rfl hstream rfl).1 (by decide +kernel)
  · have hlimit : 48 < (Utf8.encode (Text.trimEnd revertedStatus.toList)).length := by
      decide +kernel
    obtain ⟨hverdict, -⟩ := (callSucceeded_of_cut houtput hdecodes rfl hstream rfl).2 hlimit
    have hnested : Nested (Capture.drain 48 [Utf8.encode revertedStatus.toList]).text
        (.object [("status", .string "success")]) := by
      refine firstObject?_eq_some_iff.mp ?_
      with_unfolding_all rfl
    refine hverdict.mpr (.inl ⟨_, hnested, ?_, ?_⟩)
    · exact ⟨_, _, _, .object _, .inl rfl, .inr (.inr ⟨"success", rfl⟩)⟩
    · exact ⟨_, _, _, .object _, nofun, "success", by decide, .inr ⟨rfl, rfl⟩⟩

/-- The output of a call that was reverted, with a word of success in its data. -/
def revertedTuple : String :=
  "\x7b\"reverted\":true,\"data\":\x7b\"Tuple\":\x7b\"ident\":\"Ok\",\"values\":[]\x7d\x7d\x7d"

/-- Without its last three bytes the output of a reverted call holds no object, and the word of
success in it makes the call count as one. -/
theorem callSucceeded_cut_short :
    ∃ members, Json.ofText? revertedTuple = some (.object members) ∧ Decodes (.object members) ∧
      Json.member? "reverted" members = some (.bool true) ∧ callSucceeded revertedTuple = false ∧
      callSucceeded (Capture.drain 58 [Utf8.encode revertedTuple.toList]).text = true := by
  have houtput : Json.ofText? revertedTuple = some (.object
      [("data", .object [("Tuple", .object [("ident", .string "Ok"), ("values", .array [])])]),
        ("reverted", .bool true)]) := by
    with_unfolding_all rfl
  have hdecodes : Decodes (.object
      [("data", .object [("Tuple", .object [("ident", .string "Ok"), ("values", .array [])])]),
        ("reverted", .bool true)]) :=
    ⟨_, _, _, .object _, .inr (.inr ⟨true, rfl⟩), .inl rfl⟩
  refine ⟨_, houtput, hdecodes, rfl, ?_, ?_⟩
  · rw [Bool.eq_false_iff, ne_eq,
      callSucceeded_of_decodes (document?_of_ofText? houtput) hdecodes]
    exact not_saysSuccess_of_reverted rfl
  · have hdocument :
        document? (Capture.drain 58 [Utf8.encode revertedTuple.toList]).text = none := by
      with_unfolding_all rfl
    refine (callSucceeded_of_undecoded fun v hv => ?_).mpr ⟨"Ok", by decide, by decide +kernel⟩
    rw [hdocument] at hv
    cases hv

end NodeTrial.Contract
