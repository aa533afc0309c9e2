import NodeTrial.Text.Lines
import Mathlib.Data.List.TakeWhile

namespace NodeTrial.Text

theorem pieces_ne_nil (separator : Char) (cs : List Char) : pieces separator cs ≠ [] := by
  cases cs with
  | nil => exact List.cons_ne_nil _ _
  | cons c cs =>
      rw [pieces, List.foldr_cons]
      split
      · exact List.cons_ne_nil _ _
      · split <;> exact List.cons_ne_nil _ _

theorem pieces_cons (separator c : Char) (cs : List Char) :
    pieces separator (c :: cs) =
      if c = separator then [] :: pieces separator cs
      else (pieces separator cs).modifyHead (c :: ·) := by
  rw [pieces, List.foldr_cons, ← pieces]
  cases h : pieces separator cs with
  | nil => exact absurd h (pieces_ne_nil separator cs)
  | cons piece rest => rfl

theorem pieces_eq_splitOn (separator : Char) (cs : List Char) :
    pieces separator cs = cs.splitOn separator := by
  induction cs with
  | nil => rfl
  | cons c cs ih =>
      rw [pieces_cons, ih, List.splitOn, List.splitOn, List.splitOnP_cons_eq_if_modifyHead]
      simp only [beq_iff_eq]

/-- Texts without a separator are the pieces of what they are put together to. -/
theorem pieces_intercalate {separator : Char} {parts : List (List Char)}
    (hparts : ∀ part ∈ parts, separator ∉ part) (hne : parts ≠ []) :
    pieces separator ([separator].intercalate parts) = parts := by
  rw [pieces_eq_splitOn]
  exact List.splitOn_intercalate separator hparts hne

theorem pieces_append_separator (separator : Char) (cs ds : List Char) :
    pieces separator (cs ++ separator :: ds) = pieces separator cs ++ pieces separator ds := by
  induction cs with
  | nil =>
      rw [List.nil_append, pieces_cons, if_pos rfl]
      rfl
  | cons c cs ih =>
      rw [List.cons_append, pieces_cons, pieces_cons, ih]
      split
      · rfl
      · cases h : pieces separator cs with
        | nil => exact absurd h (pieces_ne_nil separator cs)
        | cons piece rest => rfl

theorem toList_join (separator : String) (parts : List (List Char)) :
    (join separator parts).toList = separator.toList.intercalate parts :=
  String.toList_ofList

theorem not_mem_intercalate {c : Char} {separator : List Char} {parts : List (List Char)}
    (hseparator : c ∉ separator) (hparts : ∀ part ∈ parts, c ∉ part) :
    c ∉ separator.intercalate parts := by
  induction parts with
  | nil => exact List.not_mem_nil
  | cons part parts ih =>
      obtain ⟨hfirst, hrest⟩ := List.forall_mem_cons.mp hparts
      cases parts with
      | nil =>
          rw [List.intercalate_singleton]
          exact hfirst
      | cons next parts =>
          rw [List.intercalate_cons_cons, List.mem_append, List.mem_append]
          rintro ((h | h) | h)
          · exact hfirst h
          · exact hseparator h
          · exact ih hrest h

theorem mem_intercalate_of_mem {c : Char} {separator part : List Char}
    {parts : List (List Char)} (hpart : part ∈ parts) (hc : c ∈ part) :
    c ∈ separator.intercalate parts := by
  induction parts with
  | nil => cases hpart
  | cons first parts ih =>
      cases parts with
      | nil => rwa [List.intercalate_singleton, ← List.mem_singleton.mp hpart]
      | cons next parts =>
          rw [List.intercalate_cons_cons, List.mem_append, List.mem_append]
          rcases List.mem_cons.mp hpart with rfl | hrest
          · exact .inl (.inl hc)
          · exact .inr (ih hrest)

theorem not_mem_of_mem_pieces {separator : Char} {cs piece : List Char}
    (h : piece ∈ pieces separator cs) : separator ∉ piece := by
  induction cs generalizing piece with
  | nil =>
      rw [List.mem_singleton.mp h]
      exact List.not_mem_nil
  | cons c cs ih =>
      rw [pieces_cons] at h
      split at h
      · rcases List.mem_cons.mp h with rfl | h
        · exact List.not_mem_nil
        · exact ih h
      next hc =>
        cases hrest : pieces separator cs with
        | nil => exact absurd hrest (pieces_ne_nil separator cs)
        | cons first rest =>
            rw [hrest, List.modifyHead_cons] at h
            rw [hrest] at ih
            rcases List.mem_cons.mp h with rfl | h
            · rw [List.mem_cons, not_or]
              exact ⟨Ne.symm hc, ih List.mem_cons_self⟩
            · exact ih (List.mem_cons_of_mem first h)

theorem pieces_append {separator : Char} {u : List Char} (hu : separator ∉ u) (cs : List Char) :
    ∃ front last, pieces separator cs = front ++ [last] ∧
      pieces separator (cs ++ u) = front ++ [last ++ u] ∧
      (last = [] → cs = [] ∨ cs.getLast? = some separator) := by
  induction cs with
  | nil =>
      have hpieces := pieces_intercalate (List.forall_mem_singleton.mpr hu) (List.cons_ne_nil u [])
      rw [List.intercalate_singleton] at hpieces
      exact ⟨[], [], rfl, hpieces, fun _ => .inl rfl⟩
  | cons c cs ih =>
      obtain ⟨front, last, hcs, happend, hlast⟩ := ih
      have hback (h : cs ≠ []) (hempty : last = []) : (c :: cs).getLast? = some separator := by
        rw [List.getLast?_cons_of_ne_nil h]
        exact (hlast hempty).resolve_left h
      rw [List.cons_append, pieces_cons, pieces_cons, hcs, happend]
      by_cases hc : c = separator
      · rw [if_pos hc, if_pos hc]
        refine ⟨[] :: front, last, rfl, rfl, fun hempty => .inr ?_⟩
        by_cases hne : cs = []
        · rw [hne, List.getLast?_singleton, hc]
        · exact hback hne hempty
      · rw [if_neg hc, if_neg hc]
        cases front with
        | nil => exact ⟨[], c :: last, rfl, rfl, fun hempty => nomatch hempty⟩
        | cons first front =>
            refine ⟨(c :: first) :: front, last, rfl, rfl, fun hempty => .inr (hback ?_ hempty)⟩
            rintro rfl
            have hlength := congrArg List.length hcs
            simp [pieces] at hlength

theorem mem_of_mem_trim {c : Char} {cs : List Char} (h : c ∈ trim cs) : c ∈ cs := by
  have hback : c ∈ (trimStart cs).reverse :=
    (List.dropWhile_sublist _).mem (List.mem_reverse.mp h)
  exact (List.dropWhile_sublist _).mem (List.mem_reverse.mp hback)

theorem mem_of_mem_dropReturn {c : Char} {line : List Char} (h : c ∈ dropReturn line) :
    c ∈ line := by
  rw [dropReturn] at h
  split at h
  next rest hrest =>
    rw [← List.mem_reverse, hrest]
    exact List.mem_cons_of_mem _ (List.mem_reverse.mp h)
  next => exact h

theorem exists_piece_of_mem_linesOfPieces {line : List Char} {ps : List (List Char)}
    (h : line ∈ linesOfPieces ps) : ∃ piece ∈ ps, ∀ c ∈ line, c ∈ piece := by
  induction ps with
  | nil => cases h
  | cons p ps ih =>
      cases ps with
      | nil =>
          rw [linesOfPieces] at h
          split at h
          · cases h
          · rw [List.mem_singleton.mp h]
            exact ⟨p, List.mem_cons_self, fun c => id⟩
      | cons q ps =>
          rcases List.mem_cons.mp h with rfl | h
          · exact ⟨p, List.mem_cons_self, fun c => mem_of_mem_dropReturn⟩
          · obtain ⟨piece, hpiece, hline⟩ := ih h
            exact ⟨piece, List.mem_cons_of_mem p hpiece, hline⟩

theorem not_mem_of_mem_fullLines {line cs : List Char} (h : line ∈ fullLines cs) :
    '\n' ∉ line := by
  obtain ⟨raw, hraw, rfl⟩ := List.mem_map.mp (List.mem_filter.mp h).1
  obtain ⟨piece, hpiece, hline⟩ := exists_piece_of_mem_linesOfPieces hraw
  exact fun hmem => not_mem_of_mem_pieces hpiece (hline _ (mem_of_mem_trim hmem))

end NodeTrial.Text
