import NodeTrial.Proofs.Text.FullLines
import NodeTrial.Proofs.Text.Pieces
import NodeTrial.Proofs.Text.Trimming

namespace NodeTrial.Text

/-- A text that neither begins nor ends with white space. -/
structure Tight (cs : List Char) : Prop where
  first : ∀ c, cs.head? = some c → isBlank c = false
  last : ∀ c, cs.getLast? = some c → isBlank c = false

theorem tight_nil : Tight [] := ⟨nofun, nofun⟩

theorem Tight.trim_eq {cs : List Char} (h : Tight cs) : trim cs = cs := by
  rw [trim, trimStart_of_head h.first, trimEnd_of_getLast h.last]

theorem tight_trim (cs : List Char) : Tight (trim cs) := by
  refine ⟨fun c hc => ?_, fun c => getLast?_trimEnd⟩
  have hhead := List.head?_dropWhile_not isBlank cs
  rw [trim] at hc
  cases hstart : trimStart cs with
  | nil =>
      rw [hstart] at hc
      cases hc
  | cons d ds =>
      rw [← trimStart, hstart] at hhead
      have hd : isBlank d = false := by simpa using hhead
      rw [hstart, trimEnd_cons hd] at hc
      rw [← Option.some.inj hc]
      exact hd

theorem Tight.append {cs ds : List Char} (hcs : Tight cs) (hds : Tight ds) (hne : cs ≠ [])
    (hne' : ds ≠ []) (between : List Char) : Tight (cs ++ between ++ ds) := by
  refine ⟨fun c hc => hcs.first c ?_, fun c hc => hds.last c ?_⟩
  · rwa [List.append_assoc, List.head?_append_of_ne_nil _ hne] at hc
  · rwa [List.getLast?_append_of_ne_nil _ hne'] at hc

theorem intercalate_ne_nil {separator part : List Char} (hpart : part ≠ [])
    (parts : List (List Char)) : separator.intercalate (part :: parts) ≠ [] := by
  cases parts with
  | nil => rwa [List.intercalate_singleton]
  | cons next parts =>
      rw [List.intercalate_cons_cons, List.append_assoc]
      exact List.append_ne_nil_of_left_ne_nil hpart _

theorem tight_intercalate (separator : List Char) {parts : List (List Char)}
    (hparts : ∀ part ∈ parts, part ≠ [] ∧ Tight part) : Tight (separator.intercalate parts) := by
  induction parts with
  | nil => exact tight_nil
  | cons part parts ih =>
      obtain ⟨⟨hne, htight⟩, hrest⟩ := List.forall_mem_cons.mp hparts
      cases parts with
      | nil => rwa [List.intercalate_singleton]
      | cons next parts =>
          rw [List.intercalate_cons_cons]
          have hnext := (hrest next List.mem_cons_self).1
          exact htight.append (ih hrest) hne (intercalate_ne_nil hnext parts) separator

theorem fullLine_of_mem {line cs : List Char} (h : line ∈ fullLines cs) :
    line ≠ [] ∧ Tight line := by
  obtain ⟨hmem, hfull⟩ := List.mem_filter.mp h
  obtain ⟨raw, -, rfl⟩ := List.mem_map.mp hmem
  exact ⟨by simpa using hfull, tight_trim raw⟩

theorem fullLines_of_tight {cs : List Char} (htight : Tight cs) (hline : '\n' ∉ cs)
    (hne : cs ≠ []) : fullLines cs = [cs] := by
  have hpieces := pieces_intercalate (List.forall_mem_singleton.mpr hline) (List.cons_ne_nil cs [])
  rw [List.intercalate_singleton] at hpieces
  have hfull : cs.isEmpty = false := List.isEmpty_eq_false_iff.mpr hne
  rw [fullLines, lines, hpieces, linesOfPieces, hfull, if_neg Bool.false_ne_true,
    List.map_singleton, htight.trim_eq, List.filter_cons_of_pos (by rw [hfull]; rfl),
    List.filter_nil]

theorem intercalate_append_prefix (separator : List Char) (parts more : List (List Char)) :
    separator.intercalate parts <+: separator.intercalate (parts ++ more) := by
  induction parts with
  | nil => exact List.nil_prefix
  | cons part parts ih =>
      cases parts with
      | nil =>
          rw [List.intercalate_singleton]
          cases more with
          | nil => rw [List.append_nil, List.intercalate_singleton]
          | cons next more =>
              rw [List.singleton_append, List.intercalate_cons_cons, List.append_assoc]
              exact List.prefix_append _ _
      | cons next parts =>
          rw [List.cons_append, List.cons_append, List.intercalate_cons_cons,
            List.intercalate_cons_cons]
          exact (List.prefix_append_right_inj _).mpr ih

theorem toList_firstLines (text : String) (n : Nat) :
    (firstLines text n).toList = " | ".toList.intercalate ((fullLines text.toList).take n) :=
  toList_join " | " _

theorem tight_firstLines (text : String) (n : Nat) : Tight (firstLines text n).toList := by
  rw [toList_firstLines]
  exact tight_intercalate _ fun part hpart => fullLine_of_mem (List.mem_of_mem_take hpart)

theorem not_mem_firstLines (text : String) (n : Nat) : '\n' ∉ (firstLines text n).toList := by
  rw [toList_firstLines]
  exact not_mem_intercalate (by decide) fun part hpart =>
    not_mem_of_mem_fullLines (List.mem_of_mem_take hpart)

theorem firstLines_eq_empty_iff {text : String} {n : Nat} :
    firstLines text n = "" ↔ n = 0 ∨ blank text = true := by
  constructor
  · intro h
    refine blank_firstLines_iff.mp ?_
    rw [h]
    rfl
  · exact fun h => firstLines_eq_empty (blank_firstLines_iff.mpr h)

theorem firstLines_prefix (text : String) {n m : Nat} (h : n ≤ m) :
    (firstLines text n).toList <+: (firstLines text m).toList := by
  obtain ⟨more, hmore⟩ := List.take_prefix_take_left (l := fullLines text.toList) h
  rw [toList_firstLines, toList_firstLines, ← hmore]
  exact intercalate_append_prefix _ _ _

theorem firstLines_of_tight {text : String} (htight : Tight text.toList)
    (hline : '\n' ∉ text.toList) (m : Nat) : firstLines text (m + 1) = text := by
  by_cases hne : text.toList = []
  · rw [String.toList_eq_nil_iff.mp hne]
    rfl
  · rw [firstLines, fullLines_of_tight htight hline hne, List.take_succ_cons, List.take_nil, join,
      List.intercalate_singleton, String.ofList_toList]

/-- The laws of cutting a text down to its first lines: nothing is left only where no line is asked
for or none holds anything; what is left is a single line without white space at its ends; more
lines only add at the end; and what is left is not cut down any further. -/
theorem firstLines_laws (text : String) (n m : Nat) :
    (firstLines text n = "" ↔ n = 0 ∨ blank text = true) ∧
      '\n' ∉ (firstLines text n).toList ∧
      (∀ c, (firstLines text n).toList.head? = some c → isBlank c = false) ∧
      (∀ c, (firstLines text n).toList.getLast? = some c → isBlank c = false) ∧
      (firstLines text n).toList <+: (firstLines text (n + 1)).toList ∧
      firstLines (firstLines text n) (m + 1) = firstLines text n := by
  have htight := tight_firstLines text n
  have hline := not_mem_firstLines text n
  exact ⟨firstLines_eq_empty_iff, hline, htight.first, htight.last,
    firstLines_prefix text (Nat.le_succ n), firstLines_of_tight htight hline m⟩

example : firstLines "\nerror: one\r\n\n  two\rthree  \nfour" 2 = "error: one | two\rthree" := by
  decide +kernel

end NodeTrial.Text
