import NodeTrial.Contract.Document
import NodeTrial.Proofs.Json.Extent
import NodeTrial.Proofs.Text.Trimming

namespace NodeTrial.Contract

open Json

theorem isBlank_of_isSpace {c : Char} (h : isSpace c = true) : Text.isBlank c = true := by
  simp only [isSpace, Bool.or_eq_true, decide_eq_true_eq] at h
  rcases h with ((rfl | rfl) | rfl) | rfl <;> rfl

theorem readFront_of_read? {cs : List Char} {v : Json} (h : Json.read? cs = some v) :
    ∃ rest, readFront cs = some (v, rest) ∧ skipSpace rest = [] := by
  unfold Json.read? at h
  split at h
  next v' rest hfront =>
    split at h
    next hempty =>
      cases h
      exact ⟨rest, hfront, List.isEmpty_iff.mp hempty⟩
    next => cases h
  next => cases h

theorem all_isBlank_of_skipSpace {cs : List Char} (h : skipSpace cs = []) :
    cs.all Text.isBlank = true := by
  rw [List.all_eq_true]
  exact fun c hc => isBlank_of_isSpace (List.dropWhile_eq_nil_iff.mp h c hc)

/-- The text of an object, from its opening brace to its closing one. It is read as that object
whatever stands behind it. -/
structure ObjectText (text : List Char) (members : List (String × Json)) : Prop where
  opens : ∃ inner, text = '{' :: inner
  closes : ∃ body, text = body ++ ['}']
  reads : ∀ gap rest, (∀ c ∈ gap, isSpace c = true) →
    readFront (gap ++ (text ++ rest)) = some (.object members, rest)

theorem exists_objectText {cs rest : List Char} {members : List (String × Json)}
    (h : readFront cs = some (.object members, rest)) :
    ∃ text, skipSpace cs = text ++ rest ∧ ObjectText text members := by
  obtain ⟨tail, htail⟩ := exists_brace_of_readValue h
  obtain ⟨body, hbody⟩ := readObject_closing h
  obtain ⟨text, hcs, hread⟩ := readObject_takes h
  have hclosing : text = body ++ ['}'] := by
    rw [hcs] at hbody
    have hcancel : body ++ ['}'] ++ rest = text ++ rest := by simpa using hbody
    exact (List.append_cancel_right hcancel).symm
  have hopening : ∃ inner, text = '{' :: inner := by
    rw [hcs, hclosing] at htail
    cases body with
    | nil => cases htail
    | cons c inner =>
        cases htail
        exact ⟨inner ++ ['}'], hclosing⟩
  refine ⟨text, hcs, hopening, ⟨body, hclosing⟩, fun gap rest' hgap => ?_⟩
  have hskip : skipSpace (gap ++ (text ++ rest')) = text ++ rest' := by
    rw [skipSpace_append hgap]
    obtain ⟨inner, rfl⟩ := hopening
    exact skipSpace_cons rfl
  rw [readFront, hskip]
  refine hread _ rest' ?_ trivial
  simp only [List.length_append]
  omega

theorem ObjectText.readFront_self {text : List Char} {members : List (String × Json)}
    (h : ObjectText text members) : readFront text = some (.object members, []) := by
  have hwhole := h.reads [] [] (List.forall_mem_nil _)
  rwa [List.nil_append, List.append_nil] at hwhole

theorem skipSpace_split (cs : List Char) :
    ∃ gap, cs = gap ++ skipSpace cs ∧ ∀ c ∈ gap, isSpace c = true :=
  ⟨cs.takeWhile isSpace, (List.takeWhile_append_dropWhile ..).symm, fun _ => List.mem_takeWhile_imp⟩

theorem all_isBlank_of_isSpace {gap : List Char} (h : ∀ c ∈ gap, isSpace c = true) :
    gap.all Text.isBlank = true :=
  List.all_eq_true.mpr fun c hc => isBlank_of_isSpace (h c hc)

/-- An object is read in the same way with more behind it. -/
theorem readObject_append {cs rest : List Char} {members : List (String × Json)}
    (h : readFront cs = some (.object members, rest)) (back : List Char) :
    readFront (cs ++ back) = some (.object members, rest ++ back) := by
  obtain ⟨text, hcs, htext⟩ := exists_objectText h
  obtain ⟨gap, hsplit, hgap⟩ := skipSpace_split cs
  have hread := htext.reads gap (rest ++ back) hgap
  rwa [← List.append_assoc text, ← hcs, ← List.append_assoc, ← hsplit] at hread

theorem exists_gaps {cs : List Char} {members : List (String × Json)}
    (h : Json.read? cs = some (.object members)) :
    ∃ gap text gap', cs = gap ++ (text ++ gap') ∧ gap.all Text.isBlank = true ∧
      gap'.all Text.isBlank = true ∧ ObjectText text members := by
  obtain ⟨gap', hfront, hrest⟩ := readFront_of_read? h
  obtain ⟨text, hcs, htext⟩ := exists_objectText hfront
  obtain ⟨gap, hsplit, hgap⟩ := skipSpace_split cs
  rw [hcs] at hsplit
  exact ⟨gap, text, gap', hsplit, all_isBlank_of_isSpace hgap, all_isBlank_of_skipSpace hrest,
    htext⟩

theorem ObjectText.head_solid {text : List Char} {members : List (String × Json)}
    (h : ObjectText text members) : ∀ c, text.head? = some c → Text.isBlank c = false := by
  obtain ⟨inner, rfl⟩ := h.opens
  rintro c ⟨⟩
  rfl

theorem ObjectText.last_solid {text : List Char} {members : List (String × Json)}
    (h : ObjectText text members) : ∀ c, text.getLast? = some c → Text.isBlank c = false := by
  obtain ⟨body, rfl⟩ := h.closes
  rw [List.getLast?_concat]
  rintro c ⟨⟩
  rfl

theorem read?_trim {cs : List Char} {members : List (String × Json)}
    (h : Json.read? cs = some (.object members)) :
    Json.read? (Text.trim cs) = some (.object members) := by
  obtain ⟨gap, text, gap', rfl, hgap, hgap', htext⟩ := exists_gaps h
  rw [Text.trim_append hgap hgap' htext.head_solid htext.last_solid, Json.read?,
    htext.readFront_self]
  rfl

theorem readFront_of_firstObject? {cs : List Char} {v : Json} (h : firstObject? cs = some v) :
    ∃ tail members rest, tail <:+ cs ∧ v = .object members ∧
      readFront tail = some (.object members, rest) := by
  induction cs with
  | nil => cases h
  | cons c cs ih =>
      have hlater (h : firstObject? cs = some v) : ∃ tail members rest, tail <:+ c :: cs ∧
          v = .object members ∧ readFront tail = some (.object members, rest) := by
        obtain ⟨tail, members, rest, hsuffix, hread⟩ := ih h
        exact ⟨tail, members, rest, hsuffix.trans (List.suffix_cons c cs), hread⟩
      rw [firstObject?] at h
      split at h
      next =>
        split at h
        next members rest hread =>
          cases h
          exact ⟨c :: cs, members, rest, List.suffix_rfl, rfl, hread⟩
        next => exact hlater h
      next => exact hlater h

theorem readFront_of_document? {output : String} {v : Json} (h : document? output = some v) :
    ∃ cs rest, readFront cs = some (v, rest) := by
  unfold document? at h
  dsimp only at h
  split at h
  next v' hread =>
    cases h
    obtain ⟨rest, hfront, -⟩ := readFront_of_read? hread
    exact ⟨_, rest, hfront⟩
  next =>
    obtain ⟨tail, members, rest, -, rfl, hread⟩ := readFront_of_firstObject? h
    exact ⟨tail, rest, hread⟩

/-- An output that is an object, with white space around it, has that object as its document. -/
theorem document?_of_ofText? {output : String} {members : List (String × Json)}
    (h : Json.ofText? output = some (.object members)) :
    document? output = some (.object members) := by
  rw [document?, read?_trim h]

end NodeTrial.Contract
