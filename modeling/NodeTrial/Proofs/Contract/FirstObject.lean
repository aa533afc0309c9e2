import NodeTrial.Proofs.Contract.Document

namespace NodeTrial.Contract

open Json

theorem isObject_of_readFront {cs rest : List Char} {v : Json}
    (h : readFront ('{' :: cs) = some (v, rest)) : ∃ members, v = .object members := by
  rw [readFront, skipSpace_cons rfl, maxDepth, readValue_brace] at h
  obtain ⟨⟨members, tail⟩, -, heq⟩ := Option.map_eq_some_iff.mp h
  cases heq
  exact ⟨members, rfl⟩

theorem firstObject?_cons_of_ne {c : Char} (h : c ≠ '{') (cs : List Char) :
    firstObject? (c :: cs) = firstObject? cs := by
  rw [firstObject?, if_neg h]

theorem firstObject?_append_of_not_mem {front : List Char} (h : '{' ∉ front) (cs : List Char) :
    firstObject? (front ++ cs) = firstObject? cs := by
  induction front with
  | nil => rfl
  | cons c front ih =>
      obtain ⟨hc, hfront⟩ := List.ne_and_not_mem_of_not_mem_cons h
      rw [List.cons_append, firstObject?_cons_of_ne hc.symm, ih hfront]

theorem firstObject?_of_not_mem {cs : List Char} (h : '{' ∉ cs) : firstObject? cs = none := by
  rw [← List.append_nil cs, firstObject?_append_of_not_mem h]
  rfl

theorem firstObject?_of_readFront {cs rest : List Char} {v : Json}
    (h : readFront ('{' :: cs) = some (v, rest)) : firstObject? ('{' :: cs) = some v := by
  obtain ⟨members, rfl⟩ := isObject_of_readFront h
  rw [firstObject?, if_pos rfl, h]

theorem firstObject?_behind {cs : List Char} (h : readFront ('{' :: cs) = none) :
    firstObject? ('{' :: cs) = firstObject? cs := by
  rw [firstObject?, if_pos rfl, h]

/-- `v` can be read at a brace of the text, and nothing can be read at a brace before that one. Every
opening brace counts, also one inside of a string. -/
def IsFirstObject (cs : List Char) (v : Json) : Prop :=
  ∃ skipped text rest, cs = skipped ++ '{' :: text ∧ readFront ('{' :: text) = some (v, rest) ∧
    ∀ before behind, skipped = before ++ '{' :: behind →
      readFront ('{' :: (behind ++ '{' :: text)) = none

theorem isFirstObject_of_readFront {cs rest : List Char} {v : Json}
    (h : readFront ('{' :: cs) = some (v, rest)) : IsFirstObject ('{' :: cs) v := by
  refine ⟨[], cs, rest, rfl, h, ?_⟩
  intro before behind hnil
  cases before <;> cases hnil

theorem isFirstObject_cons_iff {c : Char} {cs : List Char} {v : Json}
    (h : c = '{' → readFront ('{' :: cs) = none) :
    IsFirstObject (c :: cs) v ↔ IsFirstObject cs v := by
  constructor
  · rintro ⟨skipped, text, rest, hcs, hread, hnone⟩
    cases skipped with
    | nil =>
        obtain ⟨rfl, rfl⟩ := List.cons.inj hcs
        rw [h rfl] at hread
        cases hread
    | cons d skipped =>
        obtain ⟨rfl, rfl⟩ := List.cons.inj hcs
        refine ⟨skipped, text, rest, rfl, hread, ?_⟩
        intro before behind hskipped
        exact hnone (c :: before) behind (congrArg (c :: ·) hskipped)
  · rintro ⟨skipped, text, rest, rfl, hread, hnone⟩
    refine ⟨c :: skipped, text, rest, rfl, hread, ?_⟩
    intro before behind hskipped
    cases before with
    | nil =>
        obtain ⟨rfl, rfl⟩ := List.cons.inj hskipped
        exact h rfl
    | cons d before => exact hnone before behind (List.cons.inj hskipped).2

theorem firstObject?_eq_some_iff {cs : List Char} {v : Json} :
    firstObject? cs = some v ↔ IsFirstObject cs v := by
  induction cs with
  | nil =>
      constructor
      · nofun
      · rintro ⟨skipped, text, rest, hcs, -⟩
        cases skipped <;> cases hcs
  | cons c cs ih =>
      by_cases hc : c = '{'
      · subst hc
        cases hread : readFront ('{' :: cs) with
        | none =>
            rw [firstObject?_behind hread, ih]
            exact (isFirstObject_cons_iff fun _ => hread).symm
        | some found =>
            rw [firstObject?_of_readFront hread]
            constructor
            · intro hv
              cases hv
              exact isFirstObject_of_readFront hread
            · rintro ⟨skipped, text, rest, hcs, hread', hnone⟩
              cases skipped with
              | nil =>
                  obtain ⟨-, rfl⟩ := List.cons.inj hcs
                  cases hread.symm.trans hread'
                  rfl
              | cons d skipped =>
                  obtain ⟨rfl, rfl⟩ := List.cons.inj hcs
                  cases hread.symm.trans (hnone [] skipped rfl)
      · rw [firstObject?_cons_of_ne hc, ih]
        exact (isFirstObject_cons_iff fun h => absurd h hc).symm

theorem readFront_append {cs back : List Char} (h : '}' ∉ back) {v : Json} {rest : List Char}
    (hread : readFront ('{' :: cs ++ back) = some (v, rest)) :
    ∃ rest', readFront ('{' :: cs) = some (v, rest') := by
  obtain ⟨members, rfl⟩ := isObject_of_readFront hread
  obtain ⟨text, hsplit, htext⟩ := exists_objectText hread
  rw [List.cons_append, skipSpace_cons rfl, ← List.cons_append] at hsplit
  rcases List.append_eq_append_iff.mp hsplit with ⟨more, hmore, hback⟩ | ⟨rest', hcs, -⟩
  · -- The object would have to end behind the text, with a brace that is not there.
    obtain ⟨body, hclosing⟩ := htext.closes
    rcases List.eq_nil_or_concat more with rfl | ⟨front, last, rfl⟩
    · rw [List.append_nil] at hmore
      exact ⟨[], hmore ▸ htext.readFront_self⟩
    · rw [hclosing, List.concat_eq_append, ← List.append_assoc] at hmore
      obtain ⟨-, hlast⟩ := List.append_inj' hmore rfl
      obtain rfl : '}' = last := List.head_eq_of_cons_eq hlast
      exact absurd (by rw [hback]; simp) h
  · have hread' := htext.reads [] rest' (List.forall_mem_nil _)
    rw [List.nil_append, ← hcs] at hread'
    exact ⟨rest', hread'⟩

/-- Characters behind a text that open and close no brace make no difference to its first object. -/
theorem firstObject?_append {back : List Char} (hopen : '{' ∉ back) (hclose : '}' ∉ back)
    (cs : List Char) : firstObject? (cs ++ back) = firstObject? cs := by
  induction cs with
  | nil => exact firstObject?_of_not_mem hopen
  | cons c cs ih =>
      by_cases hc : c = '{'
      · subst hc
        rcases hread : readFront ('{' :: cs) with _ | ⟨v, rest⟩
        · have hnone : readFront ('{' :: (cs ++ back)) = none := by
            rw [Option.eq_none_iff_forall_ne_some]
            rintro ⟨v, rest⟩ hfound
            obtain ⟨rest', hread'⟩ := readFront_append hclose hfound
            rw [hread] at hread'
            cases hread'
          rw [firstObject?_behind hread, List.cons_append, firstObject?_behind hnone, ih]
        · obtain ⟨members, rfl⟩ := isObject_of_readFront hread
          rw [firstObject?_of_readFront hread]
          exact firstObject?_of_readFront (readObject_append hread back)
      · rw [List.cons_append, firstObject?_cons_of_ne hc, firstObject?_cons_of_ne hc, ih]

theorem not_mem_of_isBlank {gap : List Char} (h : gap.all Text.isBlank = true) :
    '{' ∉ gap ∧ '}' ∉ gap := by
  rw [List.all_eq_true] at h
  constructor
  · intro hmem
    exact absurd (h _ hmem) (by decide)
  · intro hmem
    exact absurd (h _ hmem) (by decide)

theorem document?_of_brace {gap : List Char} (hgap : gap.all Text.isBlank = true)
    (cs : List Char) :
    document? (String.ofList (gap ++ '{' :: cs)) = firstObject? ('{' :: cs) := by
  have htrim : Text.trim (gap ++ '{' :: cs) = '{' :: Text.trimEnd cs := by
    rw [Text.trim, Text.trimStart_append hgap, Text.trimStart_of_head (by rintro c ⟨⟩; rfl),
      Text.trimEnd_cons rfl]
  have hfirst : firstObject? ('{' :: cs) = firstObject? ('{' :: Text.trimEnd cs) := by
    obtain ⟨gap', hcs, hgap'⟩ := Text.exists_trimEnd cs
    obtain ⟨hopen, hclose⟩ := not_mem_of_isBlank hgap'
    have hwhole : '{' :: cs = '{' :: Text.trimEnd cs ++ gap' := congrArg ('{' :: ·) hcs
    rw [hwhole, firstObject?_append hopen hclose]
  rw [document?, String.toList_ofList, htrim, hfirst]
  split
  next v hread =>
    obtain ⟨rest, hfront, -⟩ := readFront_of_read? hread
    exact (firstObject?_of_readFront hfront).symm
  next => rfl

theorem document?_of_whole {gap text : List Char} {members : List (String × Json)}
    (hgap : gap.all Text.isBlank = true) (htext : ObjectText text members) (more : List Char) :
    document? (String.ofList (gap ++ (text ++ more))) = some (.object members) := by
  have hread := readObject_append htext.readFront_self more
  obtain ⟨inner, rfl⟩ := htext.opens
  rw [List.cons_append, document?_of_brace hgap]
  exact firstObject?_of_readFront hread

end NodeTrial.Contract
