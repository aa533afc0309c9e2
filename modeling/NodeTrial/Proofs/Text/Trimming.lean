import NodeTrial.Text.Blank
import Mathlib.Data.List.TakeWhile

namespace NodeTrial.Text

theorem trimStart_append {gap cs : List Char} (h : gap.all isBlank = true) :
    trimStart (gap ++ cs) = trimStart cs :=
  List.dropWhile_append_of_pos (List.all_eq_true.mp h)

theorem trimStart_of_head {cs : List Char} (h : ∀ c, cs.head? = some c → isBlank c = false) :
    trimStart cs = cs := by
  cases cs with
  | nil => rfl
  | cons c cs => exact List.dropWhile_cons_of_neg (by simp [h c rfl])

theorem trimEnd_append {cs gap : List Char} (h : gap.all isBlank = true) :
    trimEnd (cs ++ gap) = trimEnd cs := by
  rw [trimEnd, List.reverse_append, trimStart_append (by rwa [List.all_reverse])]
  rfl

theorem trimEnd_of_getLast {cs : List Char} (h : ∀ c, cs.getLast? = some c → isBlank c = false) :
    trimEnd cs = cs := by
  rw [trimEnd, trimStart_of_head (by rwa [List.head?_reverse]), List.reverse_reverse]

theorem getLast?_trimEnd {cs : List Char} {c : Char} (h : (trimEnd cs).getLast? = some c) :
    isBlank c = false := by
  rw [trimEnd, List.getLast?_reverse] at h
  have hhead := List.head?_dropWhile_not isBlank cs.reverse
  rw [← trimStart, h] at hhead
  simpa using hhead

theorem exists_trimEnd (cs : List Char) :
    ∃ gap, cs = trimEnd cs ++ gap ∧ gap.all isBlank = true := by
  refine ⟨(cs.reverse.takeWhile isBlank).reverse, ?_, ?_⟩
  · rw [trimEnd, trimStart, ← List.reverse_append, List.takeWhile_append_dropWhile,
      List.reverse_reverse]
  · rw [List.all_reverse]
    exact List.all_takeWhile

theorem exists_trim (cs : List Char) :
    ∃ gap gap' : List Char, cs = gap ++ (trim cs ++ gap') ∧ gap.all isBlank = true ∧
      gap'.all isBlank = true := by
  obtain ⟨gap', hend, hgap'⟩ := exists_trimEnd (trimStart cs)
  refine ⟨cs.takeWhile isBlank, gap', ?_, List.all_takeWhile, hgap'⟩
  rw [trim, ← hend, trimStart, List.takeWhile_append_dropWhile]

theorem trimEnd_cons {c : Char} (h : isBlank c = false) (cs : List Char) :
    trimEnd (c :: cs) = c :: trimEnd cs := by
  obtain ⟨gap, hcs, hgap⟩ := exists_trimEnd cs
  have hwhole : c :: cs = (c :: trimEnd cs) ++ gap := congrArg (c :: ·) hcs
  rw [hwhole, trimEnd_append hgap, trimEnd_of_getLast]
  intro d hd
  cases hend : trimEnd cs with
  | nil =>
      rw [hend] at hd
      cases hd
      exact h
  | cons e es =>
      rw [hend, List.getLast?_cons_cons, ← hend] at hd
      exact getLast?_trimEnd hd

theorem trim_append {gap cs gap' : List Char} (hgap : gap.all isBlank = true)
    (hgap' : gap'.all isBlank = true) (hfirst : ∀ c, cs.head? = some c → isBlank c = false)
    (hlast : ∀ c, cs.getLast? = some c → isBlank c = false) : trim (gap ++ (cs ++ gap')) = cs := by
  rw [trim, trimStart_append hgap]
  cases cs with
  | nil =>
      rw [List.nil_append, (trimStart_eq_nil_iff gap').mpr hgap']
      rfl
  | cons c cs =>
      rw [trimStart_of_head (by simpa using hfirst), trimEnd_append hgap', trimEnd_of_getLast hlast]

end NodeTrial.Text
