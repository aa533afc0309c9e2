import NodeTrial.Report.Cell
import NodeTrial.Proofs.Text.Pieces

namespace NodeTrial

/-- A text on one line: each line trimmed, blank lines dropped, and the others joined by single
blanks. -/
def Text.flattened (text : String) : String := join " " (fullLines text.toList)

namespace Report

/-- A text with a backslash before each bar. -/
def escaped (cs : List Char) : List Char := cs.flatMap escapeBar

/-- A text without the backslash that stands right before a bar. -/
def unescaped : List Char → List Char
  | '\\' :: '|' :: cs => '|' :: unescaped cs
  | c :: cs => c :: unescaped cs
  | [] => []

theorem escaped_bar (cs : List Char) : escaped ('|' :: cs) = '\\' :: '|' :: escaped cs := rfl

theorem escaped_cons {c : Char} (hc : c ≠ '|') (cs : List Char) :
    escaped (c :: cs) = c :: escaped cs := by
  rw [escaped, List.flatMap_cons, escapeBar, if_neg hc]
  rfl

theorem escaped_append (cs ds : List Char) : escaped (cs ++ ds) = escaped cs ++ escaped ds :=
  List.flatMap_append

theorem escaped_eq_nil_iff {cs : List Char} : escaped cs = [] ↔ cs = [] := by
  cases cs with
  | nil => exact iff_of_true rfl rfl
  | cons c cs =>
      refine iff_of_false ?_ (List.cons_ne_nil c cs)
      by_cases hc : c = '|'
      · rw [hc, escaped_bar]
        exact List.cons_ne_nil _ _
      · rw [escaped_cons hc]
        exact List.cons_ne_nil _ _

theorem escaped_of_not_mem {cs : List Char} (h : '|' ∉ cs) : escaped cs = cs := by
  induction cs with
  | nil => rfl
  | cons c cs ih =>
      rw [List.mem_cons, not_or] at h
      rw [escaped_cons (Ne.symm h.1), ih h.2]

theorem unescaped_cons {c : Char} {cs : List Char} (h : cs.head? ≠ some '|') :
    unescaped (c :: cs) = c :: unescaped cs := by
  rw [unescaped.eq_def]
  split
  next heq =>
    obtain ⟨-, rfl⟩ := List.cons_eq_cons.mp heq
    exact absurd rfl h
  next heq =>
    obtain ⟨rfl, rfl⟩ := List.cons_eq_cons.mp heq
    rfl
  next heq => cases heq

theorem head?_escaped_ne (cs : List Char) : (escaped cs).head? ≠ some '|' := by
  cases cs with
  | nil => exact nofun
  | cons c cs =>
      by_cases hc : c = '|'
      · rw [hc, escaped_bar, List.head?_cons]
        decide
      · rw [escaped_cons hc, List.head?_cons]
        exact fun h => hc (Option.some.inj h)

theorem unescaped_escaped (cs : List Char) : unescaped (escaped cs) = cs := by
  induction cs with
  | nil => rfl
  | cons c cs ih =>
      by_cases hc : c = '|'
      · rw [hc, escaped_bar, unescaped, ih]
      · rw [escaped_cons hc, unescaped_cons (head?_escaped_ne cs), ih]

theorem pieces_escaped (cs : List Char) :
    Text.pieces '\n' (escaped cs) = (Text.pieces '\n' cs).map escaped := by
  induction cs with
  | nil => rfl
  | cons c cs ih =>
      by_cases hbar : c = '|'
      · subst hbar
        rw [escaped_bar, Text.pieces_cons, if_neg (by decide), Text.pieces_cons,
          if_neg (by decide), ih, Text.pieces_cons, if_neg (by decide)]
        cases Text.pieces '\n' cs <;> rfl
      · rw [escaped_cons hbar, Text.pieces_cons, ih, Text.pieces_cons]
        split
        · rfl
        · cases Text.pieces '\n' cs with
          | nil => rfl
          | cons piece rest =>
              rw [List.map_cons, List.modifyHead_cons, List.modifyHead_cons, List.map_cons,
                escaped_cons hbar]

theorem dropReturn_append_return (line : List Char) : Text.dropReturn (line ++ ['\r']) = line := by
  rw [Text.dropReturn, List.reverse_append]
  exact List.reverse_reverse line

theorem dropReturn_of_getLast {line : List Char} (h : line.getLast? ≠ some '\r') :
    Text.dropReturn line = line := by
  rw [Text.dropReturn]
  split
  next rest hrest =>
    rw [← List.head?_reverse, hrest] at h
    exact absurd rfl h
  next => rfl

theorem dropReturn_escaped (line : List Char) :
    Text.dropReturn (escaped line) = escaped (Text.dropReturn line) := by
  rcases List.eq_nil_or_concat line with rfl | ⟨front, c, rfl⟩
  · rfl
  · rw [List.concat_eq_append, escaped_append]
    by_cases hreturn : c = '\r'
    · subst hreturn
      rw [dropReturn_append_return]
      exact dropReturn_append_return (escaped front)
    · have hlast : (escaped [c]).getLast? = some c := by
        by_cases hbar : c = '|'
        · subst hbar
          rfl
        · rw [escaped_cons hbar]
          rfl
      rw [dropReturn_of_getLast, dropReturn_of_getLast, escaped_append]
      · rw [List.getLast?_append]
        simpa using hreturn
      · rw [List.getLast?_append, hlast]
        simpa using hreturn

theorem linesOfPieces_escaped (ps : List (List Char)) :
    Text.linesOfPieces (ps.map escaped) = (Text.linesOfPieces ps).map escaped := by
  induction ps with
  | nil => rfl
  | cons p ps ih =>
      cases ps with
      | nil =>
          cases p with
          | nil => rfl
          | cons c cs =>
              have hfull : (escaped (c :: cs)).isEmpty = false := by
                rw [List.isEmpty_eq_false_iff, ne_eq, escaped_eq_nil_iff]
                exact List.cons_ne_nil c cs
              rw [List.map_singleton, Text.linesOfPieces, hfull]
              rfl
      | cons q ps =>
          have hescaped : Text.linesOfPieces ((p :: q :: ps).map escaped) =
              Text.dropReturn (escaped p) :: Text.linesOfPieces ((q :: ps).map escaped) := rfl
          rw [hescaped, ih, dropReturn_escaped]
          rfl

theorem trimStart_flatMap {f : Char → List Char} (hblank : ∀ c, Text.isBlank c = true → f c = [c])
    (hfull : ∀ c, Text.isBlank c = false → ∃ d ds, f c = d :: ds ∧ Text.isBlank d = false)
    (cs : List Char) : Text.trimStart (cs.flatMap f) = (Text.trimStart cs).flatMap f := by
  induction cs with
  | nil => rfl
  | cons c cs ih =>
      cases hc : Text.isBlank c with
      | true =>
          rw [Text.trimStart_cons_of_blank hc, List.flatMap_cons, hblank c hc,
            List.singleton_append, Text.trimStart_cons_of_blank hc, ih]
      | false =>
          obtain ⟨d, ds, hd, hdblank⟩ := hfull c hc
          rw [Text.trimStart, List.flatMap_cons, hd, List.cons_append,
            List.dropWhile_cons_of_neg (by simp [hdblank]), Text.trimStart,
            List.dropWhile_cons_of_neg (by simp [hc]), List.flatMap_cons, hd, List.cons_append]

theorem escapeBar_of_blank {c : Char} (h : Text.isBlank c = true) : escapeBar c = [c] := by
  have hbar : c ≠ '|' := by
    rintro rfl
    revert h
    decide
  exact if_neg hbar

theorem trim_escaped (cs : List Char) : Text.trim (escaped cs) = escaped (Text.trim cs) := by
  have hstart : Text.trimStart (escaped cs) = escaped (Text.trimStart cs) := by
    refine trimStart_flatMap (fun c => escapeBar_of_blank) (fun c hc => ?_) cs
    by_cases hbar : c = '|'
    · exact ⟨'\\', ['|'], if_pos hbar, by decide⟩
    · exact ⟨c, [], if_neg hbar, hc⟩
  have hend (ds : List Char) : Text.trimEnd (escaped ds) = escaped (Text.trimEnd ds) := by
    -- From behind, a bar comes before its backslash.
    rw [Text.trimEnd, escaped, List.reverse_flatMap, trimStart_flatMap, List.reverse_flatMap]
    · exact congrArg (Text.trimEnd ds).flatMap (funext fun c => List.reverse_reverse (escapeBar c))
    · intro c hc
      rw [Function.comp_apply, escapeBar_of_blank hc]
      rfl
    · intro c hc
      by_cases hbar : c = '|'
      · refine ⟨'|', ['\\'], ?_, by decide⟩
        rw [Function.comp_apply, escapeBar, if_pos hbar]
        rfl
      · refine ⟨c, [], ?_, hc⟩
        rw [Function.comp_apply, escapeBar, if_neg hbar]
        rfl
  rw [Text.trim, hstart, hend]
  rfl

theorem fullLines_escaped (cs : List Char) :
    Text.fullLines (escaped cs) = (Text.fullLines cs).map escaped := by
  rw [Text.fullLines, Text.lines, pieces_escaped, linesOfPieces_escaped, Text.fullLines, Text.lines,
    List.map_map, List.filter_map, List.filter_map, List.map_map]
  congr 1
  · funext line
    exact trim_escaped line
  · congr 1
    funext line
    have hempty : (escaped (Text.trim line)).isEmpty = (Text.trim line).isEmpty := by
      rw [Bool.eq_iff_iff, List.isEmpty_iff, List.isEmpty_iff, escaped_eq_nil_iff]
    rw [Function.comp_apply, Function.comp_apply, Function.comp_apply, trim_escaped, hempty]

theorem escaped_intercalate (separator : List Char) (parts : List (List Char)) :
    escaped (separator.intercalate parts) =
      (escaped separator).intercalate (parts.map escaped) := by
  induction parts with
  | nil => rfl
  | cons part parts ih =>
      cases parts with
      | nil =>
          rw [List.map_singleton, List.intercalate_singleton, List.intercalate_singleton]
      | cons next parts =>
          rw [List.intercalate_cons_cons, escaped_append, escaped_append, ih]
          exact List.intercalate_cons_cons.symm

/-- A cell is the flattened text with its bars escaped. -/
theorem toList_cell (text : String) :
    (cell text).toList = escaped (Text.flattened text).toList := by
  rw [cell, Text.flattened, Text.toList_join, Text.toList_join, escaped_intercalate,
    ← fullLines_escaped]
  rfl

theorem not_mem_flattened (text : String) : '\n' ∉ (Text.flattened text).toList := by
  rw [Text.flattened, Text.toList_join]
  exact Text.not_mem_intercalate (by decide) fun line => Text.not_mem_of_mem_fullLines

end Report

end NodeTrial
