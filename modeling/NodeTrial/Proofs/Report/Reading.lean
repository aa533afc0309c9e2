import NodeTrial.Proofs.Ledger.Growth
import NodeTrial.Proofs.Report.Cell
import NodeTrial.Report.Page

/-!
Reading a report. A reader looks for the lines that begin with a numbered cell and takes each of
them apart at the bars that have no backslash before them. Whatever was recorded, there is one such
line for each check, in order, and it holds the number, the name, the result and the detail of the
check.
-/

namespace NodeTrial.Report

/-- The parts of a line between its bars, bars right behind a backslash left out; `behind` tells
whether the line itself stands right behind a backslash. -/
def barParts (behind : Bool) : List Char → List (List Char)
  | [] => [[]]
  | c :: cs =>
    if c = '|' ∧ behind = false then [] :: barParts false cs
    else (barParts (c = '\\') cs).modifyHead (c :: ·)

/-- A text without a blank that it begins with. -/
def dropBlank : List Char → List Char
  | ' ' :: cs => cs
  | cs => cs

/-- The text in a part between two bars: one blank at either end is left out, and bars lose their
backslashes. -/
def readCell (part : List Char) : String :=
  String.ofList (unescaped (dropBlank (dropBlank part.reverse).reverse))

/-- The texts in a line of four cells. -/
def readRow? (line : List Char) : Option (List String) :=
  match barParts false line with
  | [[], a, b, c, d, []] => some [readCell a, readCell b, readCell c, readCell d]
  | _ => none

/-- A line begins with a cell that holds a decimal number. -/
def Numbered (line : List Char) : Prop :=
  ∃ digits rest, digits ≠ [] ∧ (∀ c ∈ digits, c.isDigit = true) ∧
    line = '|' :: ' ' :: (digits ++ ' ' :: '|' :: rest)

theorem barParts_cons {behind : Bool} {c : Char} (h : c ≠ '|' ∨ behind = true) (cs : List Char) :
    barParts behind (c :: cs) = (barParts (c = '\\') cs).modifyHead (c :: ·) := by
  rw [barParts, if_neg]
  rintro ⟨hbar, hbehind⟩
  rcases h with h | h
  · exact h hbar
  · rw [h] at hbehind
    cases hbehind

theorem barParts_escaped (behind : Bool) (cs rest : List Char) :
    barParts behind (escaped cs ++ ' ' :: rest) =
      (barParts false rest).modifyHead fun part => escaped cs ++ ' ' :: part := by
  induction cs generalizing behind with
  | nil => exact barParts_cons (.inl (by decide)) rest
  | cons c cs ih =>
      by_cases hbar : c = '|'
      · subst hbar
        rw [escaped_bar, List.cons_append, List.cons_append, barParts_cons (.inl (by decide)),
          barParts_cons (.inr (by decide)), ih, List.modifyHead_modifyHead,
          List.modifyHead_modifyHead]
        rfl
      · rw [escaped_cons hbar, List.cons_append, barParts_cons (.inl hbar), ih,
          List.modifyHead_modifyHead]
        rfl

/-- A cell as it stands between two bars. -/
def padded (cs : List Char) : List Char := ' ' :: (escaped cs ++ [' '])

theorem readCell_padded (cs : List Char) : readCell (padded cs) = String.ofList cs := by
  have hback : dropBlank (padded cs).reverse = (' ' :: escaped cs).reverse := by
    rw [padded, ← List.cons_append, List.reverse_append]
    rfl
  rw [readCell, hback, List.reverse_reverse, dropBlank, unescaped_escaped]

theorem barParts_cells (cs : List Char) (rest : List (List Char)) :
    barParts false
        (' ' :: ([' ', '|', ' '].intercalate ((cs :: rest).map escaped) ++ [' ', '|'])) =
      (cs :: rest).map padded ++ [[]] := by
  induction rest generalizing cs with
  | nil =>
      rw [List.map_singleton, List.intercalate_singleton, barParts_cons (.inl (by decide)),
        barParts_escaped]
      rfl
  | cons next rest ih =>
      have hcells : [' ', '|', ' '].intercalate ((cs :: next :: rest).map escaped) ++ [' ', '|'] =
          escaped cs ++ ' ' :: '|' ::
            (' ' :: ([' ', '|', ' '].intercalate ((next :: rest).map escaped) ++ [' ', '|'])) := by
        rw [List.map_cons, List.map_cons, List.intercalate_cons_cons, List.append_assoc,
          List.append_assoc]
        rfl
      rw [hcells, barParts_cons (.inl (by decide)), barParts_escaped, barParts,
        if_pos ⟨rfl, rfl⟩, ih]
      rfl

theorem toList_row (cells : List String) :
    (row cells).toList = '|' :: ' ' ::
      ([' ', '|', ' '].intercalate (cells.map String.toList) ++ [' ', '|']) := by
  rw [row, String.toList_append, String.toList_append, String.toList_intercalate]
  rfl

theorem readRow?_row {cells texts : List String} (hlength : texts.length = 4)
    (h : cells.map String.toList = texts.map fun text => escaped text.toList) :
    readRow? (row cells).toList = some texts := by
  obtain ⟨a, b, c, d, rfl⟩ := List.length_eq_four.mp hlength
  have hparts := barParts_cells a.toList [b.toList, c.toList, d.toList]
  have hrow : (row cells).toList = '|' :: ' ' :: ([' ', '|', ' '].intercalate
      ([a.toList, b.toList, c.toList, d.toList].map escaped) ++ [' ', '|']) := by
    rw [toList_row, h]
    rfl
  rw [readRow?, hrow, barParts, if_pos ⟨rfl, rfl⟩, hparts]
  simp only [List.map_cons, List.map_nil, List.cons_append, List.nil_append, readCell_padded,
    String.ofList_toList]

/-- What the row of a check tells, with its number. -/
def texts (r : Record) (number : Nat) : List String :=
  [toString number, Text.flattened r.name, r.outcome.icon ++ " " ++ r.outcome.label,
    (r.detail?.map Text.flattened).getD "-"]

theorem toList_toString (n : Nat) : (toString n).toList = Nat.toDigits 10 n := Nat.toList_repr

theorem not_mem_toDigits {c : Char} (hc : c.isDigit = false) (n : Nat) :
    c ∉ Nat.toDigits 10 n := by
  intro h
  rw [Nat.isDigit_of_mem_toDigits (by decide) (by decide) h] at hc
  cases hc

theorem readRow?_resultRow (r : Record) :
    readRow? (resultRow r).toList = some (texts r r.index) := by
  refine readRow?_row rfl ?_
  have hindex : (toString r.index).toList = escaped (toString r.index).toList := by
    rw [toList_toString, escaped_of_not_mem (not_mem_toDigits (by decide) _)]
  have hresult : (r.outcome.icon ++ " " ++ r.outcome.label).toList =
      escaped (r.outcome.icon ++ " " ++ r.outcome.label).toList := by
    rw [escaped_of_not_mem]
    cases r.outcome <;> decide
  have hnone : escaped "-".toList = "-".toList := escaped_of_not_mem (by decide)
  have hdetail : ((r.detail?.map cell).getD "-").toList =
      escaped ((r.detail?.map Text.flattened).getD "-").toList := by
    cases r.detail? with
    | none => exact hnone.symm
    | some detail => exact toList_cell detail
  simp only [texts, List.map_cons, List.map_nil, List.cons.injEq, and_true]
  exact ⟨hindex, toList_cell r.name, hresult, hdetail⟩

theorem numbered_resultRow (r : Record) : Numbered (resultRow r).toList := by
  rw [resultRow, toList_row, List.map_cons, List.map_cons, List.intercalate_cons_cons,
    List.append_assoc, List.append_assoc, toList_toString]
  exact ⟨_, _, Nat.toDigits_ne_nil,
    fun c => Nat.isDigit_of_mem_toDigits (by decide) (by decide), rfl⟩

/-- Whether a line begins like one with a numbered cell. -/
def beginsNumbered : List Char → Bool
  | '|' :: ' ' :: c :: _ => c.isDigit
  | _ => false

theorem Numbered.begins {line : List Char} (h : Numbered line) : beginsNumbered line = true := by
  obtain ⟨digits, rest, hne, hdigits, rfl⟩ := h
  obtain ⟨c, digits, rfl⟩ := List.exists_cons_of_ne_nil hne
  exact hdigits c List.mem_cons_self

theorem beginsNumbered_headLines (t : Tally) (f : Facts) :
    ∀ line ∈ headLines t f, beginsNumbered line.toList = false := by
  have hverdict : beginsNumbered (verdict t).toList = false := by
    unfold verdict
    split <;> simp [beginsNumbered]
  simpa [headLines, toList_row, beginsNumbered, List.intercalate_cons_cons] using hverdict

theorem beginsNumbered_causeRow (e : CauseCount) :
    beginsNumbered (causeRow e).toList = false := by
  rw [causeRow, toList_row, List.map_cons, List.map_cons, List.intercalate_cons_cons]
  cases e.cause <;> rfl

theorem beginsNumbered_causeLines (es : List CauseCount) :
    ∀ line ∈ causeLines es, beginsNumbered line.toList = false := by
  unfold causeLines
  split
  · exact List.forall_mem_nil _
  · refine List.forall_mem_append.mpr ⟨by simp [beginsNumbered], ?_⟩
    exact List.forall_mem_map.mpr fun e _ => beginsNumbered_causeRow e

theorem beginsNumbered_factLines (f : Facts) :
    ∀ line ∈ factLines f, beginsNumbered line.toList = false := by
  simp [factLines, beginsNumbered]

def Facts.texts (f : Facts) : List String :=
  [f.generatedAt, f.platform, f.workingDirectory, f.rustc, f.cargo, f.cargoContract, f.node]

theorem oneLine_row {cells : List String} (h : ∀ cell ∈ cells, '\n' ∉ cell.toList) :
    '\n' ∉ (row cells).toList := by
  have hcells : '\n' ∉ [' ', '|', ' '].intercalate (cells.map String.toList) :=
    Text.not_mem_intercalate (by decide) (List.forall_mem_map.mpr h)
  rw [toList_row]
  simp [hcells]

theorem oneLine_toString (n : Nat) : '\n' ∉ (toString n).toList := by
  rw [toList_toString]
  exact not_mem_toDigits (by decide) n

theorem oneLine_cell (text : String) : '\n' ∉ (cell text).toList := by
  rw [toList_cell, escaped, List.mem_flatMap]
  rintro ⟨c, hc, hmem⟩
  have hline : c ≠ '\n' := fun h => not_mem_flattened text (h ▸ hc)
  unfold escapeBar at hmem
  split at hmem
  · revert hmem
    decide
  · exact hline (List.mem_singleton.mp hmem).symm

theorem oneLine_resultRow (r : Record) : '\n' ∉ (resultRow r).toList := by
  have hresult : '\n' ∉ (r.outcome.icon ++ " " ++ r.outcome.label).toList := by
    cases r.outcome <;> decide
  have hdetail : '\n' ∉ ((r.detail?.map cell).getD "-").toList := by
    cases r.detail? with
    | none => decide
    | some detail => exact oneLine_cell detail
  apply oneLine_row
  simp only [List.forall_mem_cons]
  exact ⟨oneLine_toString _, oneLine_cell _, hresult, hdetail, List.forall_mem_nil _⟩

theorem oneLine_countRow (first : String) (hfirst : '\n' ∉ first.toList) (counts : List Nat) :
    '\n' ∉ (row (first :: counts.map toString)).toList := by
  refine oneLine_row (List.forall_mem_cons.mpr ⟨hfirst, ?_⟩)
  exact List.forall_mem_map.mpr fun n _ => oneLine_toString n

theorem oneLine_headLines (t : Tally) {f : Facts} (hf : ∀ text ∈ f.texts, '\n' ∉ text.toList) :
    ∀ line ∈ headLines t f, '\n' ∉ line.toList := by
  have hverdict : '\n' ∉ (verdict t).toList := by
    unfold verdict
    split <;> simp [not_mem_toDigits]
  have hcount (name : String) (hname : '\n' ∉ name.toList) (n : Nat) :
      '\n' ∉ (row [name, n.repr]).toList := oneLine_countRow name hname [n]
  simp only [Facts.texts, List.forall_mem_cons] at hf
  simp [headLines, hverdict, hcount, hf]

theorem oneLine_causeLines (es : List CauseCount) :
    ∀ line ∈ causeLines es, '\n' ∉ line.toList := by
  unfold causeLines
  split
  · exact List.forall_mem_nil _
  · refine List.forall_mem_append.mpr ⟨by simp, List.forall_mem_map.mpr fun e _ => ?_⟩
    exact oneLine_countRow _ (by cases e.cause <;> decide) [e.failed, e.skipped]

theorem oneLine_factLines {f : Facts} (hf : ∀ text ∈ f.texts, '\n' ∉ text.toList) :
    ∀ line ∈ factLines f, '\n' ∉ line.toList := by
  simp only [Facts.texts, List.forall_mem_cons] at hf
  simp [factLines, hf]

/-- The lines of a page are those that it was put together from. -/
theorem pieces_render (rs : List Record) (t : Tally) {f : Facts}
    (hf : ∀ text ∈ f.texts, '\n' ∉ text.toList) :
    Text.pieces '\n' (render rs t f).toList =
      (headLines t f ++ rs.map resultRow ++ causeLines (breakdown rs) ++ factLines f).map
        String.toList := by
  have hlines : ∀ line ∈ headLines t f ++ rs.map resultRow ++ causeLines (breakdown rs) ++
      factLines f, '\n' ∉ line.toList := by
    simp only [List.forall_mem_append]
    exact ⟨⟨⟨oneLine_headLines t hf, List.forall_mem_map.mpr fun r _ => oneLine_resultRow r⟩,
      oneLine_causeLines _⟩, oneLine_factLines hf⟩
  rw [render, String.toList_intercalate]
  refine Text.pieces_intercalate (List.forall_mem_map.mpr hlines) ?_
  rw [headLines]
  exact List.cons_ne_nil _ _

/-- The table of results can be read back from a report. For every ledger that was reached by
recording checks, and facts that stand on one line each, the lines of the page that begin with a
number are as many as the checks, stand together, and give in order the number, the name, the result
and the detail of each check. -/
theorem render_readable {l : Ledger} (hl : l.Recorded) {f : Facts}
    (hf : ∀ text ∈ f.texts, '\n' ∉ text.toList) :
    ∃ front rows back,
      Text.pieces '\n' (render l.records l.tally f).toList = front ++ rows ++ back ∧
      rows.length = l.tally.total ∧ (∀ line ∈ front ++ back, ¬ Numbered line) ∧
      (∀ line ∈ rows, Numbered line) ∧
      rows.map readRow? = (l.records.zipIdx 1).map fun e => some (texts e.1 e.2) := by
  refine ⟨(headLines l.tally f).map String.toList, l.records.map fun r => (resultRow r).toList,
    (causeLines (breakdown l.records) ++ factLines f).map String.toList, ?_, ?_, ?_, ?_, ?_⟩
  · rw [pieces_render _ _ hf]
    simp only [List.map_append, List.map_map, List.append_assoc]
    rfl
  · rw [List.length_map, hl.total_eq]
  · -- No line before or behind the rows begins with a digit behind its bar.
    have hothers : ∀ line ∈ headLines l.tally f ++ (causeLines (breakdown l.records) ++
        factLines f), beginsNumbered line.toList = false :=
      List.forall_mem_append.mpr ⟨beginsNumbered_headLines _ _,
        List.forall_mem_append.mpr ⟨beginsNumbered_causeLines _, beginsNumbered_factLines _⟩⟩
    rw [← List.map_append]
    refine List.forall_mem_map.mpr fun line hline hnumbered => ?_
    exact absurd hnumbered.begins (Bool.eq_false_iff.mp (hothers line hline))
  · exact List.forall_mem_map.mpr fun r _ => numbered_resultRow r
  · rw [hl.zipIdx_eq]
    simp only [List.map_map, Function.comp_def, readRow?_resultRow]

def Facts.unknown : Facts := ⟨"", "", "", "", "", "", ""⟩

/-- A ledger whose texts hold bars, backslashes and line feeds. -/
def barredLedger : Ledger :=
  (Ledger.empty.record "a|b\n  \\|" .pass none " ").record "\\" .fail (some .timeout) "|\n\n| 3 |"

theorem render_readable_barred :
    ∃ front rows back,
      Text.pieces '\n' (render barredLedger.records barredLedger.tally .unknown).toList =
        front ++ rows ++ back ∧ rows.length = 2 ∧ (∀ line ∈ front ++ back, ¬ Numbered line) ∧
      rows.map readRow? = [some ["1", "a|b \\|", "✅ PASS", "-"],
        some ["2", "\\", "❌ FAIL", "| | 3 |"]] := by
  have hrecorded : barredLedger.Recorded := .record (.record .empty _ _ _ _) _ _ _ _
  have hfacts : ∀ text ∈ Facts.unknown.texts, '\n' ∉ text.toList := by decide
  obtain ⟨front, rows, back, hlines, hlength, hothers, -, hrows⟩ := render_readable hrecorded hfacts
  refine ⟨front, rows, back, hlines, hlength, hothers, hrows.trans ?_⟩
  rfl

end NodeTrial.Report
