import NodeTrial.Proofs.Text.FirstLines

namespace NodeTrial.Text

/-- Nothing that holds no separator reaches from one side of a separator to the other. -/
theorem infix_append_cons_iff {separator : Char} {w : List Char} (hw : separator ∉ w)
    (cs ds : List Char) : w <:+: cs ++ separator :: ds ↔ w <:+: cs ∨ w <:+: ds := by
  have hfront {v : List Char} (hv : separator ∉ v) (h : v <+: separator :: ds) : v = [] := by
    rcases List.prefix_cons_iff.mp h with rfl | ⟨rest, rfl, -⟩
    · rfl
    · exact absurd List.mem_cons_self hv
  constructor
  · intro h
    rcases List.infix_append_iff.mp h with hcs | hds | ⟨u, v, rfl, hu, hv⟩
    · exact .inl hcs
    · rcases List.infix_cons_iff.mp hds with hprefix | hrest
      · rw [hfront hw hprefix]
        exact .inl List.nil_infix
      · exact .inr hrest
    · rw [hfront (fun hmem => hw (List.mem_append_right u hmem)) hv, List.append_nil]
      exact .inl hu.isInfix
  · rintro (h | h)
    · exact h.trans (List.prefix_append cs _).isInfix
    · exact h.trans ((List.suffix_cons separator ds).trans (List.suffix_append cs _)).isInfix

theorem infix_intercalate_iff {separator : Char} {w : List Char} (hw : separator ∉ w)
    {parts : List (List Char)} (hparts : parts ≠ []) :
    w <:+: [separator].intercalate parts ↔ ∃ part ∈ parts, w <:+: part := by
  induction parts with
  | nil => exact absurd rfl hparts
  | cons part parts ih =>
      cases parts with
      | nil => simp
      | cons next parts =>
          rw [List.intercalate_cons_cons, List.append_assoc, List.singleton_append,
            infix_append_cons_iff hw, ih (List.cons_ne_nil next parts)]
          exact (List.exists_mem_cons_iff _ _ _).symm

theorem infix_iff_piece {separator : Char} {w : List Char} (hw : separator ∉ w)
    (cs : List Char) : w <:+: cs ↔ ∃ piece ∈ pieces separator cs, w <:+: piece := by
  have hcs : [separator].intercalate (pieces separator cs) = cs := by
    rw [pieces_eq_splitOn, List.intercalate_splitOn]
  rw [← infix_intercalate_iff hw (pieces_ne_nil separator cs), hcs]

theorem Tight.reverse {w : List Char} (h : Tight w) : Tight w.reverse :=
  ⟨by simpa using h.last, by simpa using h.first⟩

theorem Tight.infix_of_gap {gap w cs : List Char} (hw : Tight w) (hgap : gap.all isBlank = true)
    (h : w <:+: gap ++ cs) : w <:+: cs := by
  induction gap with
  | nil => exact h
  | cons c gap ih =>
      rw [List.all_cons, Bool.and_eq_true] at hgap
      rcases List.infix_cons_iff.mp h with hfront | hrest
      · rcases List.prefix_cons_iff.mp hfront with rfl | ⟨rest, rfl, -⟩
        · exact List.nil_infix
        · exact absurd hgap.1 (by simp [hw.first c rfl])
      · exact ih hgap.2 hrest

theorem Tight.infix_trim_iff {w : List Char} (hw : Tight w) (cs : List Char) :
    w <:+: trim cs ↔ w <:+: cs := by
  obtain ⟨gap, gap', hcs, hgap, hgap'⟩ := exists_trim cs
  constructor
  · intro h
    rw [hcs]
    exact h.trans (List.infix_append' gap (trim cs) gap')
  · intro h
    rw [hcs] at h
    -- The white space behind is white space in front of the reversed text.
    have hback := List.reverse_infix.mpr (hw.infix_of_gap hgap h)
    rw [List.reverse_append] at hback
    exact List.reverse_infix.mp (hw.reverse.infix_of_gap (by rwa [List.all_reverse]) hback)

theorem trim_dropReturn (line : List Char) : trim (dropReturn line) = trim line := by
  rw [dropReturn]
  split
  next rest hrest =>
    have hline : line = rest.reverse ++ ['\r'] := by
      rw [← List.reverse_reverse line, hrest, List.reverse_cons]
    obtain ⟨gap, gap', hcs, hgap, hgap'⟩ := exists_trim rest.reverse
    have hend : (gap' ++ ['\r']).all isBlank = true := by
      rw [List.all_append, hgap']
      rfl
    have htight := tight_trim rest.reverse
    rw [hline]
    conv => rhs; rw [hcs, List.append_assoc, List.append_assoc]
    exact (trim_append hgap hend htight.first htight.last).symm
  next => rfl

/-- The lines that hold anything are the trimmed pieces between line feeds. What ends a line besides
its line feed is white space and goes with it. -/
theorem fullLines_eq_pieces (cs : List Char) :
    fullLines cs = ((pieces '\n' cs).map trim).filter (!·.isEmpty) := by
  have hlines (ps : List (List Char)) :
      ((linesOfPieces ps).map trim).filter (!·.isEmpty) = (ps.map trim).filter (!·.isEmpty) := by
    induction ps with
    | nil => rfl
    | cons p ps ih =>
        cases ps with
        | nil =>
            cases p with
            | nil => rfl
            | cons c cs => rfl
        | cons q ps =>
            have hcons : linesOfPieces (p :: q :: ps) =
                dropReturn p :: linesOfPieces (q :: ps) := rfl
            rw [hcons, List.map_cons, trim_dropReturn, List.map_cons, List.filter_cons,
              List.filter_cons, ih]
  exact hlines (pieces '\n' cs)

theorem Tight.infix_iff_fullLine {w : List Char} (hw : Tight w) (hne : w ≠ [])
    (hline : '\n' ∉ w) (cs : List Char) :
    w <:+: cs ↔ ∃ line ∈ fullLines cs, w <:+: line := by
  rw [infix_iff_piece hline, fullLines_eq_pieces]
  constructor
  · rintro ⟨piece, hpiece, h⟩
    have htrim := (hw.infix_trim_iff piece).mpr h
    refine ⟨trim piece, List.mem_filter.mpr ⟨List.mem_map_of_mem hpiece, ?_⟩, htrim⟩
    have hfull : trim piece ≠ [] := fun hnil => hne (List.infix_nil.mp (hnil ▸ htrim))
    simpa using hfull
  · rintro ⟨line, hmem, h⟩
    obtain ⟨piece, hpiece, rfl⟩ := List.mem_map.mp (List.mem_filter.mp hmem).1
    exact ⟨piece, hpiece, (hw.infix_trim_iff piece).mp h⟩

theorem Tight.exists_between {cs : List Char} {c : Char} (h : Tight cs) (hmem : c ∈ cs)
    (hc : isBlank c = true) : ∃ x u v y, isBlank x = false ∧ isBlank y = false ∧
      cs = x :: u ++ c :: v ++ [y] := by
  obtain ⟨front, back, rfl⟩ := List.append_of_mem hmem
  have hnot (hblank : isBlank c = false) : False := by simp [hc] at hblank
  cases front with
  | nil => exact (hnot (h.first c rfl)).elim
  | cons x u =>
      rcases List.eq_nil_or_concat back with rfl | ⟨v, y, rfl⟩
      · exact (hnot (h.last c List.getLast?_concat)).elim
      · have hwhole : x :: u ++ c :: v.concat y = x :: u ++ c :: v ++ [y] := by simp
        rw [hwhole] at h
        exact ⟨x, u, v, y, h.first x rfl, h.last y List.getLast?_concat, hwhole⟩

end NodeTrial.Text
