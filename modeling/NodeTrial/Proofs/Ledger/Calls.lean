import NodeTrial.Proofs.Ledger.Growth
import Mathlib.Data.List.Nodup

namespace NodeTrial.Ledger

/-- A call by which a check is recorded. -/
inductive Call
  | record (name : String) (outcome : Outcome) (cause? : Option Cause) (detail : String)
  | pass (name detail : String)
  | fail (name : String) (cause : Cause) (detail : String)
  | skip (name : String) (cause : Cause) (detail : String)

namespace Call

def apply (l : Ledger) : Call → Ledger
  | record name outcome cause? detail => l.record name outcome cause? detail
  | pass name detail => l.pass name detail
  | fail name cause detail => l.fail name cause detail
  | skip name cause detail => l.skip name cause detail

def name : Call → String
  | record name .. => name
  | pass name _ => name
  | fail name .. => name
  | skip name .. => name

def outcome : Call → Outcome
  | record _ outcome .. => outcome
  | pass .. => .pass
  | fail .. => .fail
  | skip .. => .skip

def cause? : Call → Option Cause
  | record _ _ cause? _ => cause?
  | pass .. => none
  | fail _ cause _ => some cause
  | skip _ cause _ => some cause

def detail : Call → String
  | record _ _ _ detail => detail
  | pass _ detail => detail
  | fail _ _ detail => detail
  | skip _ _ detail => detail

/-- A record tells what a call was about. A detail that is white space only is left out, and any
other is told as it was given. -/
structure ToldBy (c : Call) (r : Record) : Prop where
  name_eq : r.name = c.name
  outcome_eq : r.outcome = c.outcome
  cause_eq : r.cause? = c.cause?
  detail_none_iff : r.detail? = none ↔ ∀ ch ∈ c.detail.toList, Text.isBlank ch = true
  detail_some : ∀ d, r.detail? = some d → d = c.detail

theorem apply_eq (c : Call) (l : Ledger) :
    c.apply l = l.record c.name c.outcome c.cause? c.detail := by
  cases c <;> rfl

theorem toldBy_next (c : Call) (l : Ledger) :
    c.ToldBy (l.next c.name c.outcome c.cause? c.detail) := by
  refine ⟨rfl, rfl, rfl, ?_, ?_⟩
  · rw [← List.all_eq_true]
    simp [next, Text.blank]
  · intro d hd
    dsimp only [next] at hd
    split at hd
    · cases hd
    · exact (Option.some.inj hd).symm

end Call

/-- The ledger after some calls on a new one. -/
def ofCalls (calls : List Call) : Ledger := calls.foldl (fun l c => c.apply l) .empty

theorem ofCalls_concat (calls : List Call) (c : Call) :
    ofCalls (calls ++ [c]) =
      (ofCalls calls).record c.name c.outcome c.cause? c.detail := by
  rw [ofCalls, List.foldl_append, ← ofCalls]
  exact c.apply_eq _

theorem recorded_ofCalls (calls : List Call) : (ofCalls calls).Recorded := by
  induction calls using List.reverseRecOn with
  | nil => exact .empty
  | append_singleton calls c ih =>
      rw [ofCalls_concat]
      exact ih.record c.name c.outcome c.cause? c.detail

theorem told_ofCalls (calls : List Call) :
    List.Forall₂ Call.ToldBy calls (ofCalls calls).records := by
  induction calls using List.reverseRecOn with
  | nil => exact .nil
  | append_singleton calls c ih =>
      rw [ofCalls_concat]
      exact List.rel_append ih (.cons (c.toldBy_next _) .nil)

theorem records_prefix (before later : List Call) :
    (ofCalls before).records <+: (ofCalls (before ++ later)).records := by
  induction later using List.reverseRecOn with
  | nil => simp
  | append_singleton later c ih =>
      rw [← List.append_assoc, ofCalls_concat]
      exact ih.trans (List.prefix_append ..)

theorem length_records_ofCalls (calls : List Call) :
    (ofCalls calls).records.length = calls.length :=
  (told_ofCalls calls).length_eq.symm

/-- The ledger at an earlier point is found again in every later one. -/
theorem ofCalls_take (calls : List Call) (k : Nat) :
    ofCalls (calls.take k) =
      ⟨(ofCalls calls).records.take k, .ofRecords ((ofCalls calls).records.take k)⟩ := by
  have hrecords : (ofCalls (calls.take k)).records = (ofCalls calls).records.take k := by
    have hprefix := records_prefix (calls.take k) (calls.drop k)
    rw [List.take_append_drop] at hprefix
    rw [List.prefix_iff_eq_take.mp hprefix, length_records_ofCalls, List.length_take]
    rcases Nat.le_total k calls.length with hk | hk
    · rw [Nat.min_eq_left hk]
    · rw [Nat.min_eq_right hk, List.take_of_length_le (length_records_ofCalls calls).le,
        List.take_of_length_le ((length_records_ofCalls calls).trans_le hk)]
  rw [← hrecords, ← (recorded_ofCalls _).tally_eq]

section

variable {l : Ledger}

theorem Recorded.pairwise_index (h : l.Recorded) :
    l.records.Pairwise fun r r' => r.index < r'.index := by
  rw [← List.pairwise_map (f := Record.index) (R := (· < ·)), h.map_index]
  exact List.pairwise_lt_range'

theorem Recorded.index_le_of_find? (h : l.Recorded) {name : String} {r : Record}
    (hfind : l.records.reverse.find? (·.name == name) = some r) :
    r ∈ l.records ∧ r.name = name ∧ ∀ r' ∈ l.records, r'.name = name → r'.index ≤ r.index := by
  obtain ⟨hname, later, before, hsplit, hlater⟩ := List.find?_eq_some_iff_append.mp hfind
  have hrecords : l.records = before.reverse ++ r :: later.reverse := by
    rw [← List.reverse_reverse l.records, hsplit]
    simp
  have hpairwise := h.pairwise_index
  rw [hrecords, List.pairwise_append] at hpairwise
  rw [hrecords]
  refine ⟨by simp, by simpa using hname, fun r' hr' hname' => ?_⟩
  rcases List.mem_append.mp hr' with hbefore | hr'
  · exact (hpairwise.2.2 r' hbefore r (by simp)).le
  · rcases List.mem_cons.mp hr' with rfl | hafter
    · exact le_rfl
    · exact absurd hname' (by simpa using hlater r' (List.mem_reverse.mp hafter))

theorem Recorded.eq_of_index_eq (h : l.Recorded) {r r' : Record} (hr : r ∈ l.records)
    (hr' : r' ∈ l.records) (hindex : r.index = r'.index) : r = r' := by
  have hnodup : (l.records.map (·.index)).Nodup := by
    rw [h.map_index]
    exact List.nodup_range'
  exact List.inj_on_of_nodup_map hnodup hr hr' hindex

theorem lastOutcome?_eq_none_iff {name : String} :
    l.lastOutcome? name = none ↔ ∀ r ∈ l.records, r.name ≠ name := by
  simp [lastOutcome?]

theorem Recorded.lastOutcome?_eq_some_iff (h : l.Recorded) {name : String} {o : Outcome} :
    l.lastOutcome? name = some o ↔ ∃ r ∈ l.records, r.name = name ∧ r.outcome = o ∧
      ∀ r' ∈ l.records, r'.name = name → r'.index ≤ r.index := by
  rw [lastOutcome?, Option.map_eq_some_iff]
  constructor
  · rintro ⟨r, hfind, houtcome⟩
    obtain ⟨hr, hname, hgreatest⟩ := h.index_le_of_find? hfind
    exact ⟨r, hr, hname, houtcome, hgreatest⟩
  · rintro ⟨r, hr, hname, houtcome, hgreatest⟩
    cases hfind : l.records.reverse.find? (·.name == name) with
    | none =>
        rw [List.find?_eq_none] at hfind
        exact absurd hname (by simpa using hfind r (List.mem_reverse.mpr hr))
    | some last =>
        obtain ⟨hlast, hname', hgreatest'⟩ := h.index_le_of_find? hfind
        have hindex := le_antisymm (hgreatest' r hr hname) (hgreatest last hlast hname')
        obtain rfl := h.eq_of_index_eq hr hlast hindex
        exact ⟨r, rfl, houtcome⟩

end

/-- The law of a ledger after any calls on a new one: the records tell the calls in their order and
are numbered, the tally is theirs, a ledger taken at an earlier point holds a front of the records
with the tally of that front, and the last outcome of a name is that of its record with the greatest
number. -/
theorem ofCalls_law (calls : List Call) :
    (ofCalls calls).records.length = calls.length ∧
      (∀ i c, calls[i]? = some c →
        ∃ r, (ofCalls calls).records[i]? = some r ∧ r.index = i + 1 ∧ c.ToldBy r) ∧
      (ofCalls calls).tally = .ofRecords (ofCalls calls).records ∧
      (ofCalls calls).tally.total = (ofCalls calls).tally.passed + (ofCalls calls).tally.failed +
        (ofCalls calls).tally.skipped ∧
      (ofCalls calls).tally.total = (ofCalls calls).records.length ∧
      (∀ k, ofCalls (calls.take k) =
        ⟨(ofCalls calls).records.take k, .ofRecords ((ofCalls calls).records.take k)⟩) ∧
      ∀ name, ((ofCalls calls).lastOutcome? name = none ↔
          ∀ r ∈ (ofCalls calls).records, r.name ≠ name) ∧
        ∀ o, (ofCalls calls).lastOutcome? name = some o ↔
          ∃ r ∈ (ofCalls calls).records, r.name = name ∧ r.outcome = o ∧
            ∀ r' ∈ (ofCalls calls).records, r'.name = name → r'.index ≤ r.index := by
  have hrecorded := recorded_ofCalls calls
  have htally := hrecorded.tally_eq
  refine ⟨length_records_ofCalls calls, fun i c hc => ?_, htally, ?_, hrecorded.total_eq,
    ofCalls_take calls, fun name => ⟨lastOutcome?_eq_none_iff, fun o => ?_⟩⟩
  · obtain ⟨hi, rfl⟩ := List.getElem?_eq_some_iff.mp hc
    have hplace : i < (ofCalls calls).records.length := by rwa [length_records_ofCalls]
    refine ⟨(ofCalls calls).records[i], List.getElem?_eq_getElem hplace, ?_, ?_⟩
    · have hindex := congrArg (·[i]?) hrecorded.map_index
      simpa [hplace, Nat.add_comm] using hindex
    · exact (told_ofCalls calls).get hi hplace
  · rw [htally, Tally.ofRecords_eq]
    exact length_eq_countOf _
  · exact hrecorded.lastOutcome?_eq_some_iff

/-- Calls that use a name twice and give a detail of white space only. -/
def repeatedCalls : List Call :=
  [.pass "Block production" "Block height 3 -> 7", .fail "Start node" .spawnFailure "gone\n",
    .record "Block production" .skip none " \t\u00a0"]

theorem ofCalls_law_repeated :
    repeatedCalls[2]? = some (.record "Block production" .skip none " \t\u00a0") ∧
      (∃ r, (ofCalls repeatedCalls).records[2]? = some r ∧ r.index = 3 ∧ r.detail? = none) ∧
      (ofCalls repeatedCalls).tally = ⟨3, 1, 1, 1⟩ ∧
      ofCalls (repeatedCalls.take 2) =
        ⟨(ofCalls repeatedCalls).records.take 2, ⟨2, 1, 1, 0⟩⟩ ∧
      (ofCalls repeatedCalls).lastOutcome? "Block production" = some .skip := by
  obtain ⟨-, htold, htally, -, -, htake, hlast⟩ := ofCalls_law repeatedCalls
  have hcall : repeatedCalls[2]? = some (.record "Block production" .skip none " \t\u00a0") := rfl
  obtain ⟨r, hr, hindex, htoldBy⟩ := htold 2 _ hcall
  have hblank : ∀ c ∈ " \t\u00a0".toList, Text.isBlank c = true := List.all_eq_true.mp rfl
  refine ⟨hcall, ⟨r, hr, hindex, htoldBy.detail_none_iff.mpr hblank⟩, ?_, htake 2, ?_⟩
  · rw [htally]
    rfl
  · refine ((hlast _).2 _).mpr ⟨r, List.mem_of_getElem? hr, htoldBy.name_eq, htoldBy.outcome_eq, ?_⟩
    rw [hindex]
    decide

end NodeTrial.Ledger
