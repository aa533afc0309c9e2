import NodeTrial.Toml.Writer
import Mathlib.Data.List.Infix
import Mathlib.Data.List.TakeWhile

namespace NodeTrial.Toml

/-- No more than `k` of a character stand side by side in a text. -/
def RunsAtMost (k : Nat) (c : Char) (cs : List Char) : Prop :=
  ∀ tail, tail <:+ cs → (tail.takeWhile (· = c)).length ≤ k

theorem RunsAtMost.head {k : Nat} {c : Char} {cs : List Char} (h : RunsAtMost k c cs) :
    (cs.takeWhile (· = c)).length ≤ k :=
  h cs (List.suffix_refl cs)

theorem RunsAtMost.tail {k : Nat} {c d : Char} {cs : List Char} (h : RunsAtMost k c (d :: cs)) :
    RunsAtMost k c cs :=
  fun tail htail => h tail (htail.trans (List.suffix_cons d cs))

theorem RunsAtMost.mono {k l : Nat} {c : Char} {cs : List Char} (h : RunsAtMost k c cs)
    (hkl : k ≤ l) : RunsAtMost l c cs :=
  fun tail htail => (h tail htail).trans hkl

theorem RunsAtMost.not_mem {c : Char} {cs : List Char} (h : RunsAtMost 0 c cs) : c ∉ cs := by
  intro hmem
  obtain ⟨front, back, rfl⟩ := List.append_of_mem hmem
  have hrun := h (c :: back) (List.suffix_append front (c :: back))
  rw [List.takeWhile_cons_of_pos (by simp), List.length_cons] at hrun
  omega

/-- One step of the search for the longest run: the best so far, and the run that goes on. -/
def runStep (c : Char) (found : Nat × Nat) (d : Char) : Nat × Nat :=
  if d = c then (max found.1 (found.2 + 1), found.2 + 1) else (found.1, 0)

theorem longestRun_eq (c : Char) (cs : List Char) :
    longestRun c cs = (cs.foldl (runStep c) (0, 0)).1 := rfl

theorem runStep_le (c : Char) (found : Nat × Nat) (d : Char) :
    (runStep c found d).2 ≤ (runStep c found d).1 := by
  unfold runStep
  split
  · exact Nat.le_max_right _ _
  · exact Nat.zero_le _

theorem best_le_foldl (c : Char) (cs : List Char) (found : Nat × Nat) :
    found.1 ≤ (cs.foldl (runStep c) found).1 := by
  induction cs generalizing found with
  | nil => exact Nat.le_refl _
  | cons d cs ih =>
      refine Nat.le_trans ?_ (ih (runStep c found d))
      unfold runStep
      split
      · exact Nat.le_max_left _ _
      · exact Nat.le_refl _

theorem run_le_foldl {c : Char} (cs : List Char) {found : Nat × Nat} (h : found.2 ≤ found.1) :
    found.2 + (cs.takeWhile (· = c)).length ≤ (cs.foldl (runStep c) found).1 := by
  induction cs generalizing found with
  | nil => exact h
  | cons d cs ih =>
      by_cases hd : d = c
      · have hrest := ih (runStep_le c found d)
        have hstep : (runStep c found d).2 = found.2 + 1 := by rw [runStep, if_pos hd]
        rw [hstep] at hrest
        rw [List.takeWhile_cons_of_pos (by simp [hd]), List.length_cons, List.foldl_cons]
        omega
      · rw [List.takeWhile_cons_of_neg (by simp [hd])]
        exact h.trans (best_le_foldl c (d :: cs) found)

theorem runsAtMost_foldl {c : Char} (cs : List Char) {found : Nat × Nat} (h : found.2 ≤ found.1) :
    RunsAtMost (cs.foldl (runStep c) found).1 c cs := by
  induction cs generalizing found with
  | nil =>
      intro tail htail
      rw [List.suffix_nil.mp htail]
      exact Nat.zero_le _
  | cons d cs ih =>
      intro tail htail
      rcases List.suffix_cons_iff.mp htail with rfl | htail
      · exact (Nat.le_add_left _ _).trans (run_le_foldl (d :: cs) h)
      · exact ih (runStep_le c found d) tail htail

theorem runsAtMost_longestRun (c : Char) (cs : List Char) : RunsAtMost (longestRun c cs) c cs := by
  rw [longestRun_eq]
  exact runsAtMost_foldl cs (Nat.le_refl 0)

/-- A text holds no control characters but tabs and line feeds. -/
def Plain (cs : List Char) : Prop := ∀ c ∈ cs, isControl c = true → c = '\n'

theorem plain_of_hasControl {cs : List Char} (h : (Shape.ofText cs).hasControl = false) :
    Plain cs := by
  intro c hc hcontrol
  have hall := List.any_eq_false.mp h c hc
  simpa [hcontrol] using hall

theorem not_mem_of_hasLineFeed {cs : List Char} (h : (Shape.ofText cs).hasLineFeed = false) :
    '\n' ∉ cs := by
  intro hmem
  simpa using List.any_eq_false.mp h '\n' hmem

theorem form_cases (cs : List Char) :
    (Shape.ofText cs).form = .basic ∨
      ((Shape.ofText cs).form = .literal ∧ Plain cs ∧ '\'' ∉ cs ∧ '\n' ∉ cs) ∨
      (Shape.ofText cs).form = .multiBasic ∨
      ((Shape.ofText cs).form = .multiLiteral ∧ Plain cs ∧ RunsAtMost 2 '\'' cs) := by
  have hruns := runsAtMost_longestRun '\'' cs
  unfold Shape.form
  split
  · exact .inl rfl
  split
  next h =>
    simp only [Bool.and_eq_true, Bool.not_eq_true', decide_eq_true_eq] at h
    obtain ⟨⟨hcontrol, hnone⟩, hline⟩ := h
    have hzero : longestRun '\'' cs = 0 := hnone
    rw [hzero] at hruns
    exact .inr (.inl
      ⟨rfl, plain_of_hasControl hcontrol, hruns.not_mem, not_mem_of_hasLineFeed hline⟩)
  split
  · exact .inr (.inr (.inl rfl))
  split
  next h =>
    simp only [Bool.and_eq_true, Bool.not_eq_true', decide_eq_true_eq] at h
    exact .inr (.inr (.inr ⟨rfl, plain_of_hasControl h.1, hruns.mono h.2⟩))
  split
  · exact .inr (.inr (.inl rfl))
  · exact .inl rfl

end NodeTrial.Toml
