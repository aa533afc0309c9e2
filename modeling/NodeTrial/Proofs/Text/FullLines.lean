import NodeTrial.Text.Lines
import Mathlib.Data.List.Infix

namespace NodeTrial.Text

theorem occursIn_iff {needle cs : List Char} : occursIn needle cs = true ↔ needle <:+: cs := by
  induction cs with
  | nil => rw [occursIn, List.isEmpty_iff, List.infix_nil]
  | cons c cs ih =>
      rw [occursIn, Bool.or_eq_true, List.isPrefixOf_iff_prefix, ih, List.infix_cons_iff]

theorem contains_iff {text needle : String} :
    contains text needle = true ↔ needle.toList <:+: text.toList :=
  occursIn_iff

theorem blank_append (a b : String) : blank (a ++ b) = (blank a && blank b) := by
  rw [blank, String.toList_append, List.all_append]
  rfl

theorem not_blank_append_left {a : String} (h : blank a = false) (b : String) :
    blank (a ++ b) = false := by
  rw [blank_append, h, Bool.false_and]

theorem not_blank_append_right (a : String) {b : String} (h : blank b = false) :
    blank (a ++ b) = false := by
  rw [blank_append, h, Bool.and_false]

theorem all_isBlank_trim (cs : List Char) : (trim cs).all isBlank = cs.all isBlank := by
  rw [trim, trimEnd, List.all_reverse, all_isBlank_trimStart, List.all_reverse,
    all_isBlank_trimStart]

theorem all_isBlank_pieces {separator : Char} (h : isBlank separator = true) (cs : List Char) :
    (pieces separator cs).all (·.all isBlank) = cs.all isBlank := by
  induction cs with
  | nil => rfl
  | cons c cs ih =>
      rw [List.all_cons, ← ih, pieces, List.foldr_cons, ← pieces]
      split
      next hc => rw [List.all_cons, List.all_nil, Bool.true_and, hc, h, Bool.true_and]
      next =>
        split
        next hnone => simp [hnone]
        next piece rest hcons =>
          rw [hcons, List.all_cons, List.all_cons, List.all_cons, Bool.and_assoc]

theorem all_isBlank_dropReturn (line : List Char) :
    (dropReturn line).all isBlank = line.all isBlank := by
  rw [dropReturn, ← List.all_reverse (l := line)]
  split
  next rest hrest =>
    rw [hrest, List.all_reverse, List.all_cons]
    rfl
  next => rw [List.all_reverse]

theorem all_isBlank_linesOfPieces (ps : List (List Char)) :
    (linesOfPieces ps).all (·.all isBlank) = ps.all (·.all isBlank) := by
  induction ps with
  | nil => rfl
  | cons p ps ih =>
      cases ps with
      | nil => cases p <;> simp [linesOfPieces]
      | cons q ps =>
          rw [linesOfPieces, List.all_cons, ih, all_isBlank_dropReturn, List.all_cons (l := q :: ps)]
          simp

theorem all_isBlank_lines (cs : List Char) : (lines cs).all (·.all isBlank) = cs.all isBlank := by
  rw [lines, all_isBlank_linesOfPieces, all_isBlank_pieces (by decide)]

theorem fullLines_eq_nil_iff {cs : List Char} : fullLines cs = [] ↔ cs.all isBlank = true := by
  rw [← all_isBlank_lines, fullLines, List.filter_eq_nil_iff, List.all_eq_true]
  simp [trim_eq_nil_iff]

theorem not_blank_of_mem_fullLines {line cs : List Char} (h : line ∈ fullLines cs) :
    line.all isBlank = false := by
  obtain ⟨hmem, hfull⟩ := List.mem_filter.mp h
  obtain ⟨raw, -, rfl⟩ := List.mem_map.mp hmem
  rw [all_isBlank_trim, Bool.eq_false_iff, ne_eq, ← trim_eq_nil_iff]
  simpa using hfull

theorem blank_join_cons {separator : String} {part : List Char} (h : part.all isBlank = false)
    (parts : List (List Char)) : blank (join separator (part :: parts)) = false := by
  rw [join, blank, String.toList_ofList]
  cases parts with
  | nil => simpa using h
  | cons next parts => rw [List.intercalate_cons_cons, List.all_append, List.all_append, h]; rfl

theorem blank_firstLines_iff {text : String} {n : Nat} :
    blank (firstLines text n) = true ↔ n = 0 ∨ blank text = true := by
  rw [blank.eq_def text, ← fullLines_eq_nil_iff, firstLines]
  cases n with
  | zero => simp [join, blank]
  | succ n =>
      cases hlines : fullLines text.toList with
      | nil => simp [join, blank]
      | cons line rest =>
          have hmem : line ∈ fullLines text.toList := by
            rw [hlines]
            exact List.mem_cons_self
          rw [List.take_succ_cons, blank_join_cons (not_blank_of_mem_fullLines hmem)]
          simp

theorem firstLines_eq_empty {text : String} {n : Nat} (h : blank (firstLines text n) = true) :
    firstLines text n = "" := by
  rcases blank_firstLines_iff.mp h with rfl | hblank
  · rfl
  · rw [firstLines, fullLines_eq_nil_iff.mpr hblank, List.take_nil]
    rfl

end NodeTrial.Text
