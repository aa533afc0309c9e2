import NodeTrial.Proofs.Report.Reading
import NodeTrial.Proofs.Text.Stretches

namespace NodeTrial

namespace Report

theorem mem_escaped_iff {c : Char} (hc : c ≠ '\\') {cs : List Char} :
    c ∈ escaped cs ↔ c ∈ cs := by
  induction cs with
  | nil => exact Iff.rfl
  | cons d cs ih =>
      by_cases hd : d = '|'
      · rw [hd, escaped_bar, List.mem_cons, List.mem_cons, List.mem_cons, ih,
          or_iff_right hc]
      · rw [escaped_cons hd, List.mem_cons, List.mem_cons, ih]

theorem mem_cell_iff {c : Char} (hbackslash : c ≠ '\\') (hblank : c ≠ ' ') (text : String) :
    c ∈ (cell text).toList ↔ ∃ line ∈ Text.fullLines text.toList, c ∈ line := by
  rw [toList_cell, mem_escaped_iff hbackslash, Text.flattened, Text.toList_join]
  constructor
  · intro h
    by_contra hnone
    push Not at hnone
    exact Text.not_mem_intercalate (by simpa using hblank) hnone h
  · rintro ⟨line, hline, hc⟩
    exact Text.mem_intercalate_of_mem hline hc

/-- Which ends of lines a cell holds, for every text. A line feed is never among them. A carriage
return is among them exactly if one stands inside a line of the text, with characters that are not
white space on both of its sides before the next line feed. -/
theorem cell_line_ends (text : String) :
    '\n' ∉ (cell text).toList ∧
      ('\r' ∈ (cell text).toList ↔
        ∃ x u v y, Text.isBlank x = false ∧ Text.isBlank y = false ∧
          '\n' ∉ x :: u ++ '\r' :: v ++ [y] ∧ x :: u ++ '\r' :: v ++ [y] <:+: text.toList) := by
  refine ⟨oneLine_cell text, ?_⟩
  rw [mem_cell_iff (by decide) (by decide)]
  constructor
  · rintro ⟨line, hline, hreturn⟩
    have htight := (Text.fullLine_of_mem hline).2
    have hfeed := Text.not_mem_of_mem_fullLines hline
    obtain ⟨x, u, v, y, hx, hy, rfl⟩ := htight.exists_between hreturn (by decide)
    have hstands := htight.infix_iff_fullLine (by simp) hfeed text.toList
    exact ⟨x, u, v, y, hx, hy, hfeed, hstands.mpr ⟨_, hline, List.infix_rfl⟩⟩
  · rintro ⟨x, u, v, y, hx, hy, hfeed, hstands⟩
    have htight : Text.Tight (x :: u ++ '\r' :: v ++ [y]) := by
      refine ⟨fun c hc => ?_, fun c hc => ?_⟩
      · rw [← Option.some.inj hc]
        exact hx
      · rw [List.getLast?_concat] at hc
        rw [← Option.some.inj hc]
        exact hy
    obtain ⟨line, hline, hinfix⟩ :=
      (htight.infix_iff_fullLine (by simp) hfeed text.toList).mp hstands
    exact ⟨line, hline, hinfix.subset (by simp)⟩

example : cell " 1 of 2\r2 of 2\r\n done\r" = "1 of 2\r2 of 2 done" := by decide +kernel

end Report

end NodeTrial
