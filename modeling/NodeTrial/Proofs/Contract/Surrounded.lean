import NodeTrial.Contract.Address
import NodeTrial.Proofs.Contract.FirstObject
import NodeTrial.Proofs.Contract.Success
import NodeTrial.Proofs.Json.Braces

namespace NodeTrial.Contract

open Json

theorem unopening_of_isSpace {c : Char} (h : isSpace c = true) : Unopening c := by
  simp only [isSpace, Bool.or_eq_true, decide_eq_true_eq] at h
  rcases h with ((rfl | rfl) | rfl) | rfl <;> exact ⟨by decide, by decide, by decide⟩

theorem read?_of_unopening {c : Char} {cs : List Char} (hc : Unopening c)
    (hsolid : Text.isBlank c = false) (hbrace : '{' ∈ c :: cs) : Json.read? (c :: cs) = none := by
  rw [Option.eq_none_iff_forall_ne_some]
  intro v hread
  obtain ⟨rest, hfront, hrest⟩ := readFront_of_read? hread
  have hspace : isSpace c = false := by
    rw [Bool.eq_false_iff]
    intro h
    rw [isBlank_of_isSpace h] at hsolid
    cases hsolid
  rw [readFront, skipSpace_cons hspace] at hfront
  have hleft : '{' ∈ rest := readValue_leavesBrace hc hfront hbrace
  exact (not_mem_of_isBlank (all_isBlank_of_skipSpace hrest)).1 hleft

theorem firstObject?_of_objectText {front text : List Char} {members : List (String × Json)}
    (hfront : ∀ c ∈ front, Unopening c) (htext : ObjectText text members) (behind : List Char) :
    firstObject? (front ++ (text ++ behind)) = some (.object members) := by
  have hread := readObject_append htext.readFront_self behind
  have hbrace : '{' ∉ front := fun hmem => (hfront _ hmem).1 rfl
  rw [firstObject?_append_of_not_mem hbrace]
  obtain ⟨inner, rfl⟩ := htext.opens
  exact firstObject?_of_readFront hread

/-- An object is the document of an output, whatever stands behind it, if nothing in front of it
opens a text, an array or an object. -/
theorem document?_of_objectText {front text : List Char} {members : List (String × Json)}
    (hfront : ∀ c ∈ front, Unopening c) (htext : ObjectText text members) (behind : List Char) :
    document? (String.ofList (front ++ (text ++ behind))) = some (.object members) := by
  by_cases hblank : front.all Text.isBlank = true
  · exact document?_of_whole hblank htext behind
  obtain ⟨c, kept, hkept⟩ : ∃ c kept, Text.trimStart front = c :: kept := by
    refine List.exists_cons_of_ne_nil ?_
    rwa [ne_eq, Text.trimStart_eq_nil_iff]
  have hsuffix : c :: kept <:+ front := hkept ▸ List.dropWhile_suffix _
  have hopening : ∀ d ∈ c :: kept, Unopening d := fun d hd => hfront d (hsuffix.subset hd)
  have hsolid : Text.isBlank c = false := by
    have hhead := List.head?_dropWhile_not Text.isBlank front
    rw [← Text.trimStart, hkept] at hhead
    exact hhead
  have htrimStart :
      Text.trimStart (front ++ (text ++ behind)) = c :: (kept ++ (text ++ behind)) := by
    rw [Text.trimStart, List.dropWhile_append, ← Text.trimStart, hkept]
    rfl
  have htrim : Text.trim (front ++ (text ++ behind)) =
      c :: Text.trimEnd (kept ++ (text ++ behind)) := by
    rw [Text.trim, htrimStart, Text.trimEnd_cons hsolid]
  obtain ⟨gap, hwhole, hgap⟩ := Text.exists_trimEnd (kept ++ (text ++ behind))
  obtain ⟨hopen, hclose⟩ := not_mem_of_isBlank hgap
  have hbrace : '{' ∈ c :: Text.trimEnd (kept ++ (text ++ behind)) := by
    obtain ⟨inner, hinner⟩ := htext.opens
    have hmem : '{' ∈ kept ++ (text ++ behind) := by simp [hinner]
    rw [hwhole] at hmem
    exact List.mem_cons_of_mem c ((List.mem_append.mp hmem).resolve_right hopen)
  have hfirst : firstObject? (c :: Text.trimEnd (kept ++ (text ++ behind))) =
      some (.object members) := by
    rw [← firstObject?_append hopen hclose, List.cons_append, ← hwhole]
    exact firstObject?_of_objectText hopening htext behind
  rw [document?, String.toList_ofList, htrim, read?_of_unopening (hopening c (by simp)) hsolid hbrace]
  exact hfirst

/-- What stands around an object in an output makes no difference: not to the document, not to the
address that is found in it, and, if it decodes as a call, not to the verdict on the call. -/
theorem decoded_among_lines {before output behind : String} {members : List (String × Json)}
    (houtput : Json.ofText? output = some (.object members))
    (hbefore : ∀ c ∈ before.toList, c ≠ '{' ∧ c ≠ '[' ∧ c ≠ '"') :
    document? (before ++ output ++ behind) = some (.object members) ∧
      instantiatedAddress? (before ++ output ++ behind) = instantiatedAddress? output ∧
      (Decodes (.object members) →
        callSucceeded (before ++ output ++ behind) = callSucceeded output) := by
  have halone : document? output = some (.object members) := document?_of_ofText? houtput
  have hdocument : document? (before ++ output ++ behind) = some (.object members) := by
    obtain ⟨gap', hfront, -⟩ := readFront_of_read? houtput
    obtain ⟨text, hskip, htext⟩ := exists_objectText hfront
    obtain ⟨gap, hsplit, hgap⟩ := skipSpace_split output.toList
    have hwhole : before ++ output ++ behind =
        String.ofList ((before.toList ++ gap) ++ (text ++ (gap' ++ behind.toList))) := by
      rw [← String.toList_inj]
      simp only [String.toList_append, String.toList_ofList, List.append_assoc]
      rw [hsplit, hskip]
      simp only [List.append_assoc]
    rw [hwhole]
    refine document?_of_objectText (fun c hc => ?_) htext _
    rcases List.mem_append.mp hc with hc | hc
    · exact hbefore c hc
    · exact unopening_of_isSpace (hgap c hc)
  refine ⟨hdocument, ?_, fun hdecodes => ?_⟩
  · rw [instantiatedAddress?, instantiatedAddress?, hdocument, halone]
  · rw [Bool.eq_iff_iff, callSucceeded_of_decodes hdocument hdecodes,
      callSucceeded_of_decodes halone hdecodes]

/-- The output of a tool that creates a contract and reports how its constructor ended. -/
def createdOutput : String :=
  " \x7b\"reverted\":false,\"data\":\x7b\"Ok\":null\x7d,\"contract\":\"5GrwvaEF\"\x7d\n"

/-- Neither the number and the word in front of the object nor the failed call behind it are read. -/
theorem decoded_among_lines_progress :
    ∃ members, Json.ofText? createdOutput = some (.object members) ∧
      (∀ c ∈ "100 %: true\n\u00a0".toList, c ≠ '{' ∧ c ≠ '[' ∧ c ≠ '"') ∧
      Decodes (.object members) ∧
      document? ("100 %: true\n\u00a0" ++ createdOutput ++ "\x7b\"reverted\":true\x7d [") =
        some (.object members) ∧
      instantiatedAddress?
        ("100 %: true\n\u00a0" ++ createdOutput ++ "\x7b\"reverted\":true\x7d [") =
          some "5GrwvaEF" ∧
      callSucceeded ("100 %: true\n\u00a0" ++ createdOutput ++ "\x7b\"reverted\":true\x7d [") =
        true := by
  have houtput : Json.ofText? createdOutput = some (.object
      [("contract", .string "5GrwvaEF"), ("data", .object [("Ok", .null)]),
        ("reverted", .bool false)]) := by
    with_unfolding_all rfl
  have hdecodes : Decodes (.object
      [("contract", .string "5GrwvaEF"), ("data", .object [("Ok", .null)]),
        ("reverted", .bool false)]) :=
    ⟨_, _, _, .object _, .inr (.inr ⟨false, rfl⟩), .inl rfl⟩
  have hbefore : ∀ c ∈ "100 %: true\n\u00a0".toList, c ≠ '{' ∧ c ≠ '[' ∧ c ≠ '"' := by simp
  obtain ⟨hdocument, haddress, hsucceeded⟩ :
      document? ("100 %: true\n\u00a0" ++ createdOutput ++ "\x7b\"reverted\":true\x7d [") = _ ∧ _ :=
    decoded_among_lines houtput hbefore
  have halone := document?_of_ofText? houtput
  refine ⟨_, houtput, hbefore, hdecodes, hdocument, ?_, ?_⟩
  · rw [haddress, instantiatedAddress?, halone]
    rfl
  · rw [hsucceeded hdecodes, callSucceeded_of_decodes halone hdecodes]
    exact ⟨_, _, _, .object _, nofun, "Ok", by decide, .inl rfl⟩

end NodeTrial.Contract
