import NodeTrial.Proofs.Ledger.Calls
import NodeTrial.Proofs.Report.Reading
import Mathlib.Algebra.BigOperators.Group.List.Basic
import Mathlib.Algebra.GroupWithZero.Nat

namespace NodeTrial

/-- How many checks ended in an outcome for a cause. -/
def countFor (o : Outcome) (c : Cause) (rs : List Record) : Nat :=
  rs.countP fun r => r.outcome = o ∧ r.cause? = some c

theorem countFor_concat (o : Outcome) (c : Cause) (rs : List Record) (r : Record) :
    countFor o c (rs ++ [r]) =
      countFor o c rs + if r.outcome = o ∧ r.cause? = some c then 1 else 0 := by
  rw [countFor, List.countP_append, List.countP_singleton]
  simp only [countFor, decide_eq_true_eq]

theorem countFor_pos_iff {o : Outcome} {c : Cause} {rs : List Record} :
    0 < countFor o c rs ↔ ∃ r ∈ rs, r.outcome = o ∧ r.cause? = some c := by
  simp [countFor, List.countP_pos_iff]

theorem Cause.mem_all (c : Cause) : c ∈ all := by
  cases c <;> decide

theorem Cause.sorted_all : all.Pairwise fun c d => c.rank < d.rank := by
  decide

theorem sum_countFor {o : Outcome} {rs : List Record}
    (h : ∀ r ∈ rs, r.outcome = o → ∃ c, r.cause? = some c) :
    (Cause.all.map fun c => countFor o c rs).sum = countOf o rs := by
  induction rs using List.reverseRecOn with
  | nil => rfl
  | append_singleton rs r ih =>
      obtain ⟨hrs, hr⟩ := List.forall_mem_append.mp h
      have hone : (Cause.all.map fun c =>
          if r.outcome = o ∧ r.cause? = some c then 1 else 0).sum =
            if r.outcome = o then 1 else 0 := by
        by_cases ho : r.outcome = o
        · obtain ⟨c, hc⟩ := hr r List.mem_cons_self ho
          rw [hc, if_pos ho]
          cases c <;> simp [ho, Cause.all]
        · simp [ho]
      simp only [countFor_concat]
      rw [List.sum_map_add, ih hrs, hone, countOf, countOf, List.countP_append,
        List.countP_singleton]
      simp only [decide_eq_true_eq]

namespace Report

/-- The lines of some causes, without those where nothing was counted. -/
def table (line : Cause → CauseCount) (cs : List Cause) : List CauseCount :=
  (cs.map line).filter fun e => 0 < e.failed + e.skipped

def lineFor (rs : List Record) (c : Cause) : CauseCount :=
  ⟨c, countFor .fail c rs, countFor .skip c rs⟩

theorem listed_add (e : CauseCount) {o : Outcome} (ho : o ≠ .pass) :
    0 < (e.add o).failed + (e.add o).skipped := by
  cases o with
  | pass => exact absurd rfl ho
  | fail => exact Nat.lt_of_lt_of_le (Nat.succ_pos e.failed) (Nat.le_add_right _ _)
  | skip => exact Nat.lt_of_lt_of_le (Nat.succ_pos e.skipped) (Nat.le_add_left _ _)

theorem eq_of_not_pos {e : CauseCount} (h : ¬ 0 < e.failed + e.skipped) : e = ⟨e.cause, 0, 0⟩ := by
  obtain ⟨cause, failed, skipped⟩ := e
  obtain ⟨hfailed, hskipped⟩ := Nat.add_eq_zero_iff.mp (Nat.eq_zero_of_not_pos h)
  rw [show failed = 0 from hfailed, show skipped = 0 from hskipped]

theorem countCause_of_lt {c : Cause} {es : List CauseCount}
    (h : ∀ e ∈ es, c.rank < e.cause.rank) (o : Outcome) :
    countCause c o es = CauseCount.add ⟨c, 0, 0⟩ o :: es := by
  cases es with
  | nil => rfl
  | cons e es =>
      have hlt := h e List.mem_cons_self
      have hne : e.cause ≠ c := fun heq => Nat.lt_irrefl _ (heq ▸ hlt)
      rw [countCause, if_neg hne, if_pos hlt]

section

variable {line line' : Cause → CauseCount} {c : Cause} {o : Outcome} {cs : List Cause}

theorem table_congr (h : ∀ d ∈ cs, line' d = line d) : table line' cs = table line cs := by
  rw [table, table, List.map_congr_left h]

theorem table_cons_of_pos (h : 0 < (line c).failed + (line c).skipped) (cs : List Cause) :
    table line (c :: cs) = line c :: table line cs :=
  List.filter_cons_of_pos (decide_eq_true h)

theorem table_cons_of_not_pos (h : ¬ 0 < (line c).failed + (line c).skipped) (cs : List Cause) :
    table line (c :: cs) = table line cs :=
  List.filter_cons_of_neg (by simpa using h)

theorem exists_of_mem_table {e : CauseCount} (h : e ∈ table line cs) : ∃ d ∈ cs, line d = e :=
  List.mem_map.mp (List.mem_filter.mp h).1

theorem countCause_table (hline : ∀ d, (line d).cause = d) (ho : o ≠ .pass)
    (hnew : line' c = (line c).add o) (hsame : ∀ d, d ≠ c → line' d = line d)
    (hsorted : cs.Pairwise fun d e => d.rank < e.rank) (hc : c ∈ cs) :
    countCause c o (table line cs) = table line' cs := by
  have hcounted := listed_add (line c) ho
  rw [← hnew] at hcounted
  induction cs with
  | nil => cases hc
  | cons d cs ih =>
      obtain ⟨hfirst, hsorted⟩ := List.pairwise_cons.mp hsorted
      by_cases hd : d = c
      · subst hd
        have hrest : table line' cs = table line cs :=
          table_congr fun e he => hsame e fun heq => Nat.lt_irrefl _ (heq ▸ hfirst e he)
        rw [table_cons_of_pos hcounted, hrest, hnew]
        by_cases hlisted : 0 < (line d).failed + (line d).skipped
        · rw [table_cons_of_pos hlisted, countCause, if_pos (hline d)]
        · have hempty := eq_of_not_pos hlisted
          rw [hline] at hempty
          rw [table_cons_of_not_pos hlisted, countCause_of_lt, hempty]
          intro e he
          obtain ⟨d', hd', rfl⟩ := exists_of_mem_table he
          rw [hline]
          exact hfirst d' hd'
      · have hc := (List.mem_cons.mp hc).resolve_left (Ne.symm hd)
        by_cases hlisted : 0 < (line d).failed + (line d).skipped
        · have hlisted' : 0 < (line' d).failed + (line' d).skipped := by rwa [hsame d hd]
          rw [table_cons_of_pos hlisted, table_cons_of_pos hlisted', hsame d hd, countCause,
            hline, if_neg hd, if_neg (Nat.lt_asymm (hfirst c hc)), ih hsorted hc]
        · have hlisted' : ¬ 0 < (line' d).failed + (line' d).skipped := by rwa [hsame d hd]
          rw [table_cons_of_not_pos hlisted, table_cons_of_not_pos hlisted', ih hsorted hc]

end

theorem lineFor_concat (rs : List Record) (r : Record) (c : Cause) :
    lineFor (rs ++ [r]) c =
      if r.cause? = some c then (lineFor rs c).add r.outcome else lineFor rs c := by
  by_cases hc : r.cause? = some c
  · rw [if_pos hc]
    cases ho : r.outcome <;> simp [lineFor, countFor_concat, CauseCount.add, ho, hc]
  · rw [if_neg hc]
    simp [lineFor, countFor_concat, hc]

/-- The breakdown is the table of all causes. -/
theorem breakdown_eq (rs : List Record) : breakdown rs = table (lineFor rs) Cause.all := by
  induction rs using List.reverseRecOn with
  | nil => rfl
  | append_singleton rs r ih =>
      have hstep : breakdown (rs ++ [r]) = countRecord (table (lineFor rs) Cause.all) r := by
        rw [← ih, breakdown, breakdown, List.foldl_append]
        rfl
      have hunchanged (h : r.outcome = .pass ∨ r.cause? = none) (c : Cause) :
          lineFor (rs ++ [r]) c = lineFor rs c := by
        rw [lineFor_concat]
        rcases h with h | h <;> simp [h, CauseCount.add]
      rw [hstep, countRecord]
      split
      next hpass => exact (table_congr fun c _ => hunchanged (.inl hpass) c).symm
      next hnone _ => exact (table_congr fun c _ => hunchanged (.inr hnone) c).symm
      next c hcause hpass =>
        refine countCause_table (fun _ => rfl) hpass ?_ (fun d hd => ?_) Cause.sorted_all c.mem_all
        · rw [lineFor_concat, if_pos hcause]
        · rw [lineFor_concat, if_neg fun h => hd (Option.some.inj (h.symm.trans hcause))]

theorem pairwise_breakdown (rs : List Record) :
    (breakdown rs).Pairwise fun e e' => e.cause.rank < e'.cause.rank := by
  rw [breakdown_eq, table]
  refine List.Pairwise.filter _ ?_
  exact List.pairwise_map.mpr Cause.sorted_all

theorem mem_breakdown_iff {rs : List Record} {e : CauseCount} :
    e ∈ breakdown rs ↔ e = lineFor rs e.cause ∧ 0 < e.failed + e.skipped := by
  rw [breakdown_eq, table, List.mem_filter, decide_eq_true_eq, List.mem_map]
  refine and_congr_left fun _ => ⟨?_, fun h => ⟨e.cause, e.cause.mem_all, h.symm⟩⟩
  rintro ⟨c, -, rfl⟩
  rfl

theorem exists_line_iff {rs : List Record} {c : Cause} :
    (∃ e ∈ breakdown rs, e.cause = c) ↔ ∃ r ∈ rs, r.outcome ≠ .pass ∧ r.cause? = some c := by
  have hline : (∃ e ∈ breakdown rs, e.cause = c) ↔
      0 < countFor .fail c rs ∨ 0 < countFor .skip c rs := by
    rw [← Nat.add_pos_iff_pos_or_pos]
    constructor
    · rintro ⟨e, he, rfl⟩
      obtain ⟨hline, hpos⟩ := mem_breakdown_iff.mp he
      rwa [hline] at hpos
    · exact fun h => ⟨lineFor rs c, mem_breakdown_iff.mpr ⟨rfl, h⟩, rfl⟩
  rw [hline, countFor_pos_iff, countFor_pos_iff, ← exists_or]
  refine exists_congr fun r => ?_
  rw [← and_or_left, ← or_and_right]
  cases r.outcome <;> simp

theorem sum_table {number : CauseCount → Nat}
    (h : ∀ e : CauseCount, ¬ 0 < e.failed + e.skipped → number e = 0)
    (line : Cause → CauseCount) (cs : List Cause) :
    ((table line cs).map number).sum = (cs.map fun c => number (line c)).sum := by
  induction cs with
  | nil => rfl
  | cons c cs ih =>
      by_cases hlisted : 0 < (line c).failed + (line c).skipped
      · rw [table_cons_of_pos hlisted, List.map_cons, List.map_cons, List.sum_cons, List.sum_cons,
          ih]
      · rw [table_cons_of_not_pos hlisted, List.map_cons, List.sum_cons, h _ hlisted, ih,
          Nat.zero_add]

theorem sum_failed_breakdown {rs : List Record}
    (h : ∀ r ∈ rs, r.outcome = .fail → ∃ c, r.cause? = some c) :
    ((breakdown rs).map (·.failed)).sum = countOf .fail rs := by
  rw [breakdown_eq, sum_table fun e he => by omega]
  exact sum_countFor h

theorem sum_skipped_breakdown {rs : List Record}
    (h : ∀ r ∈ rs, r.outcome = .skip → ∃ c, r.cause? = some c) :
    ((breakdown rs).map (·.skipped)).sum = countOf .skip rs := by
  rw [breakdown_eq, sum_table fun e he => by omega]
  exact sum_countFor h

theorem breakdown_eq_nil_iff {rs : List Record}
    (h : ∀ r ∈ rs, r.outcome ≠ .pass → ∃ c, r.cause? = some c) :
    breakdown rs = [] ↔ ∀ r ∈ rs, r.outcome = .pass := by
  constructor
  · intro hnil r hr
    by_contra hpass
    obtain ⟨c, hc⟩ := h r hr hpass
    obtain ⟨e, he, -⟩ := exists_line_iff.mpr ⟨r, hr, hpass, hc⟩
    rw [hnil] at he
    cases he
  · intro hpass
    refine List.eq_nil_iff_forall_not_mem.mpr fun e he => ?_
    obtain ⟨r, hr, hother, -⟩ := exists_line_iff.mp ⟨e, he, rfl⟩
    exact hother (hpass r hr)

theorem causeLines_eq_nil_iff {es : List CauseCount} : causeLines es = [] ↔ es = [] := by
  cases es with
  | nil => exact ⟨fun _ => rfl, fun _ => rfl⟩
  | cons e es => exact ⟨fun h => (nomatch h), fun h => (nomatch h)⟩

/-- Whether a line begins like the heading of the breakdown. -/
def beginsBreakdown : List Char → Bool
  | '#' :: '#' :: ' ' :: 'N' :: _ => true
  | _ => false

theorem beginsBreakdown_headLines (t : Tally) (f : Facts) :
    ∀ line ∈ headLines t f, beginsBreakdown line.toList = false := by
  unfold headLines verdict
  split <;> simp [toList_row, beginsBreakdown]

theorem beginsBreakdown_resultRow (r : Record) :
    beginsBreakdown (resultRow r).toList = false := by
  rw [resultRow, toList_row]
  rfl

theorem beginsBreakdown_factLines (f : Facts) :
    ∀ line ∈ factLines f, beginsBreakdown line.toList = false := by
  simp [factLines, beginsBreakdown]

theorem heading_mem_iff (rs : List Record) (t : Tally) {f : Facts}
    (hf : ∀ text ∈ f.texts, '\n' ∉ text.toList) :
    "## Non-passing checks by kind".toList ∈ Text.pieces '\n' (render rs t f).toList ↔
      breakdown rs ≠ [] := by
  rw [pieces_render rs t hf]
  constructor
  · rintro h hnil
    obtain ⟨line, hline, hheading⟩ := List.mem_map.mp h
    have hothers : ∀ line ∈ headLines t f ++ rs.map resultRow ++ causeLines (breakdown rs) ++
        factLines f, beginsBreakdown line.toList = false := by
      rw [causeLines_eq_nil_iff.mpr hnil, List.append_nil]
      have hrows : ∀ line ∈ rs.map resultRow, beginsBreakdown line.toList = false :=
        List.forall_mem_map.mpr fun r _ => beginsBreakdown_resultRow r
      exact List.forall_mem_append.mpr
        ⟨List.forall_mem_append.mpr ⟨beginsBreakdown_headLines t f, hrows⟩,
          beginsBreakdown_factLines f⟩
    have hbegins := hothers line hline
    rw [hheading] at hbegins
    exact absurd hbegins (by decide)
  · intro hne
    refine List.mem_map_of_mem (List.mem_append_left _ (List.mem_append_right _ ?_))
    rw [causeLines, if_neg (by simpa using hne)]
    exact List.mem_append_left _ (by simp)

end Report

namespace Ledger

/-- A call that names the outcome itself, and with it whether there is a cause. -/
def Call.IsShort : Call → Prop
  | .record .. => False
  | _ => True

instance (c : Call) : Decidable c.IsShort :=
  match c with
  | .record .. => inferInstanceAs (Decidable False)
  | .pass .. => inferInstanceAs (Decidable True)
  | .fail .. => inferInstanceAs (Decidable True)
  | .skip .. => inferInstanceAs (Decidable True)

theorem Call.IsShort.exists_cause {c : Call} (h : c.IsShort) (ho : c.outcome ≠ .pass) :
    ∃ k, c.cause? = some k := by
  cases c with
  | record => exact h.elim
  | pass => exact absurd rfl ho
  | fail _ k => exact ⟨k, rfl⟩
  | skip _ k => exact ⟨k, rfl⟩

theorem exists_call_of_mem {calls : List Call} {r : Record} (h : r ∈ (ofCalls calls).records) :
    ∃ c ∈ calls, c.ToldBy r := by
  have htold := told_ofCalls calls
  generalize (ofCalls calls).records = rs at h htold
  induction htold with
  | nil => cases h
  | cons hfirst _ ih =>
      rcases List.mem_cons.mp h with rfl | h
      · exact ⟨_, List.mem_cons_self, hfirst⟩
      · obtain ⟨c, hc, hr⟩ := ih h
        exact ⟨c, List.mem_cons_of_mem _ hc, hr⟩

theorem exists_cause_ofCalls {calls : List Call} (h : ∀ c ∈ calls, c.IsShort) :
    ∀ r ∈ (ofCalls calls).records, r.outcome ≠ .pass → ∃ k, r.cause? = some k := by
  intro r hr hpass
  obtain ⟨c, hc, htold⟩ := exists_call_of_mem hr
  rw [htold.outcome_eq] at hpass
  rw [htold.cause_eq]
  exact (h c hc).exists_cause hpass

end Ledger

namespace Report

open Ledger

/-- The law of the breakdown of a ledger, after any calls on a new one that name the outcome
themselves. Its lines stand in the order of the causes, there is one for each cause for which a
check did not pass, and it counts the checks that failed and that were skipped for it; together the
lines count all that the tally counts. The report has the section exactly if some check did not
pass. -/
theorem breakdown_law {calls : List Call} (h : ∀ c ∈ calls, c.IsShort) :
    ((breakdown (ofCalls calls).records).Pairwise fun e e' => e.cause.rank < e'.cause.rank) ∧
      (∀ k, (∃ e ∈ breakdown (ofCalls calls).records, e.cause = k) ↔
        ∃ r ∈ (ofCalls calls).records, r.outcome ≠ .pass ∧ r.cause? = some k) ∧
      (∀ e ∈ breakdown (ofCalls calls).records,
        e.failed = countFor .fail e.cause (ofCalls calls).records ∧
          e.skipped = countFor .skip e.cause (ofCalls calls).records ∧
          ¬ (e.failed = 0 ∧ e.skipped = 0)) ∧
      ((breakdown (ofCalls calls).records).map (·.failed)).sum = (ofCalls calls).tally.failed ∧
      ((breakdown (ofCalls calls).records).map (·.skipped)).sum = (ofCalls calls).tally.skipped ∧
      (causeLines (breakdown (ofCalls calls).records) ≠ [] ↔
        ∃ r ∈ (ofCalls calls).records, r.outcome ≠ .pass) ∧
      ∀ f : Facts, (∀ text ∈ f.texts, '\n' ∉ text.toList) →
        ("## Non-passing checks by kind".toList ∈
            Text.pieces '\n' (render (ofCalls calls).records (ofCalls calls).tally f).toList ↔
          ∃ r ∈ (ofCalls calls).records, r.outcome ≠ .pass) := by
  have hcause := exists_cause_ofCalls h
  have htally := (recorded_ofCalls calls).tally_eq
  rw [Tally.ofRecords_eq] at htally
  have hsome : breakdown (ofCalls calls).records ≠ [] ↔
      ∃ r ∈ (ofCalls calls).records, r.outcome ≠ .pass := by
    rw [ne_eq, breakdown_eq_nil_iff hcause]
    push Not
    rfl
  refine ⟨pairwise_breakdown _, fun k => exists_line_iff, fun e he => ?_, ?_, ?_, ?_,
    fun f hf => ?_⟩
  · obtain ⟨hline, hpos⟩ := mem_breakdown_iff.mp he
    exact ⟨congrArg CauseCount.failed hline, congrArg CauseCount.skipped hline, by omega⟩
  · rw [htally]
    exact sum_failed_breakdown fun r hr ho => hcause r hr (by rw [ho]; decide)
  · rw [htally]
    exact sum_skipped_breakdown fun r hr ho => hcause r hr (by rw [ho]; decide)
  · rw [ne_eq, causeLines_eq_nil_iff, ← ne_eq, hsome]
  · rw [heading_mem_iff _ _ hf, hsome]

/-- Checks that failed and were skipped for the same causes, in no order. -/
def mixedCalls : List Call :=
  [.skip "Start node" .unmetPrerequisite "Node binary not built", .fail "Rust" .toolMissing "gone",
    .pass "Network" "", .fail "Build node" .compileFailure "error", .skip "Deploy" .toolMissing "",
    .fail "Cargo" .toolMissing "gone"]

theorem breakdown_law_mixed :
    (∀ c ∈ mixedCalls, c.IsShort) ∧
      (breakdown (ofCalls mixedCalls).records).map (·.cause) =
        [.toolMissing, .compileFailure, .unmetPrerequisite] ∧
      (∃ e ∈ breakdown (ofCalls mixedCalls).records, e.cause = .toolMissing) ∧
      (∀ e ∈ breakdown (ofCalls mixedCalls).records, e.cause = .toolMissing →
        e.failed = 2 ∧ e.skipped = 1) ∧
      ((breakdown (ofCalls mixedCalls).records).map (·.failed)).sum = 3 ∧
      "## Non-passing checks by kind".toList ∈ Text.pieces '\n'
        (render (ofCalls mixedCalls).records (ofCalls mixedCalls).tally .unknown).toList := by
  have hshort : ∀ c ∈ mixedCalls, c.IsShort := by decide
  have hfacts : ∀ text ∈ Facts.unknown.texts, '\n' ∉ text.toList := by decide
  obtain ⟨-, hlisted, hcounts, hfailed, -, -, hrendered⟩ := breakdown_law hshort
  refine ⟨hshort, rfl, (hlisted _).mpr ?_, fun e he hcause => ?_, hfailed,
    (hrendered _ hfacts).mpr ?_⟩
  · exact ⟨_, List.mem_cons_of_mem _ List.mem_cons_self, by decide, rfl⟩
  · obtain ⟨hf, hs, -⟩ := hcounts e he
    rw [hcause] at hf hs
    exact ⟨hf, hs⟩
  · exact ⟨_, List.mem_cons_self, by decide⟩

end Report

end NodeTrial
