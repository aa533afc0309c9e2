import NodeTrial.Ledger
import Mathlib.Data.List.Induction
import Mathlib.Data.List.Range

namespace NodeTrial

def countOf (o : Outcome) (rs : List Record) : Nat := rs.countP fun r => r.outcome = o

theorem length_eq_countOf (rs : List Record) :
    rs.length = countOf .pass rs + countOf .fail rs + countOf .skip rs := by
  induction rs with
  | nil => rfl
  | cons r rs ih =>
      simp only [countOf] at ih
      cases ho : r.outcome <;> simp [countOf, ho, ih] <;> omega

theorem countOf_eq_zero_iff {o : Outcome} {rs : List Record} :
    countOf o rs = 0 ↔ ∀ r ∈ rs, r.outcome ≠ o := by
  simp [countOf, List.countP_eq_zero]

theorem Tally.ofRecords_eq (rs : List Record) :
    Tally.ofRecords rs = ⟨rs.length, countOf .pass rs, countOf .fail rs, countOf .skip rs⟩ := by
  induction rs using List.reverseRecOn with
  | nil => rfl
  | append_singleton rs r ih =>
      rw [ofRecords, List.foldl_append, ← ofRecords, ih]
      cases ho : r.outcome <;> simp [countOf, ho, Tally.add]

theorem Tally.exitCode_eq (t : Tally) : t.exitCode = 0 ∨ t.exitCode = 1 := by
  unfold exitCode
  split
  · exact .inl rfl
  · exact .inr rfl

/-- The record of a finding at a place under a name. A blank detail is no detail. -/
def Finding.recordAt (f : Finding) (index : Nat) (name : String) : Record :=
  { index, name
    outcome := f.outcome
    cause? := f.cause?
    detail? := if Text.blank f.detail then none else some f.detail }

namespace Ledger

def enterAll (l : Ledger) (fs : List (String × Finding)) : Ledger :=
  fs.foldl (fun l f => l.enter f.1 f.2) l

/-- The records of named findings, the first of them at a place. -/
def recordsFrom (place : Nat) : List (String × Finding) → List Record
  | [] => []
  | (name, f) :: rest => f.recordAt place name :: recordsFrom (place + 1) rest

theorem records_enter (l : Ledger) (name : String) (f : Finding) :
    (l.enter name f).records = l.records ++ [f.recordAt (l.records.length + 1) name] := rfl

theorem enterAll_append (l : Ledger) (fs gs : List (String × Finding)) :
    l.enterAll (fs ++ gs) = (l.enterAll fs).enterAll gs :=
  List.foldl_append

theorem records_enterAll (l : Ledger) (fs : List (String × Finding)) :
    (l.enterAll fs).records = l.records ++ recordsFrom (l.records.length + 1) fs := by
  induction fs generalizing l with
  | nil => exact (List.append_nil _).symm
  | cons f rest ih =>
      have hrest := ih (l.enter f.1 f.2)
      rw [records_enter, List.length_append, List.length_singleton, List.append_assoc] at hrest
      exact hrest

theorem recordsFrom_append (place : Nat) (fs gs : List (String × Finding)) :
    recordsFrom place (fs ++ gs) = recordsFrom place fs ++ recordsFrom (place + fs.length) gs := by
  induction fs generalizing place with
  | nil => rfl
  | cons f rest ih =>
      have hplace : place + (f :: rest).length = place + 1 + rest.length := by
        rw [List.length_cons]
        omega
      rw [hplace, List.cons_append, recordsFrom, recordsFrom, ih, List.cons_append]

theorem map_name_recordsFrom (place : Nat) (fs : List (String × Finding)) :
    (recordsFrom place fs).map (·.name) = fs.map (·.1) := by
  induction fs generalizing place with
  | nil => rfl
  | cons f rest ih =>
      rw [recordsFrom, List.map_cons, List.map_cons, ih]
      rfl

theorem map_index_recordsFrom (place : Nat) (fs : List (String × Finding)) :
    (recordsFrom place fs).map (·.index) = List.range' place fs.length := by
  induction fs generalizing place with
  | nil => rfl
  | cons f rest ih =>
      rw [recordsFrom, List.map_cons, ih, List.length_cons, List.range'_succ]
      rfl

/-- A ledger that was reached by recording checks one after the other. -/
inductive Recorded : Ledger → Prop
  | empty : Recorded .empty
  | record {l : Ledger} (before : Recorded l) (name : String) (outcome : Outcome)
      (cause? : Option Cause) (detail : String) :
      Recorded (l.record name outcome cause? detail)

theorem total_record (l : Ledger) (name : String) (outcome : Outcome) (cause? : Option Cause)
    (detail : String) :
    (l.record name outcome cause? detail).tally.total = l.tally.total + 1 := by
  cases outcome <;> rfl

theorem Recorded.total_eq {l : Ledger} (h : l.Recorded) : l.tally.total = l.records.length := by
  induction h with
  | empty => rfl
  | @record l before name outcome cause? detail ih =>
      rw [total_record, ih, Ledger.record, List.length_append, List.length_singleton]

theorem Recorded.map_index {l : Ledger} (h : l.Recorded) :
    l.records.map (·.index) = List.range' 1 l.records.length := by
  induction h with
  | empty => rfl
  | @record l before name outcome cause? detail ih =>
      rw [Ledger.record, List.map_append, ih, List.length_append, List.length_singleton,
        List.range'_concat, Nat.one_mul, Nat.add_comm]
      rfl

/-- The tally that is kept beside the records is theirs. -/
theorem Recorded.tally_eq {l : Ledger} (h : l.Recorded) : l.tally = Tally.ofRecords l.records := by
  induction h with
  | empty => rfl
  | @record l before name outcome cause? detail ih =>
      rw [Ledger.record, Tally.ofRecords, List.foldl_append, ← Tally.ofRecords, ← ih]
      rfl

theorem Recorded.enterAll {l : Ledger} (h : l.Recorded) (fs : List (String × Finding)) :
    (l.enterAll fs).Recorded := by
  induction fs generalizing l with
  | nil => exact h
  | cons f fs ih => exact ih (h.record f.1 f.2.outcome f.2.cause? f.2.detail)

theorem Recorded.zipIdx_eq {l : Ledger} (h : l.Recorded) :
    l.records.zipIdx 1 = l.records.map fun r => (r, r.index) := by
  have hmap := List.zip_map' (f := id) (g := Record.index) (l := l.records)
  rw [List.map_id] at hmap
  rw [List.zipIdx_eq_zip_range', ← h.map_index, hmap]
  rfl

end Ledger

end NodeTrial
