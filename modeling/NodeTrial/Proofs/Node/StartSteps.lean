import NodeTrial.Interruption
import NodeTrial.Proofs.Dialogue.Interleaving
import NodeTrial.Proofs.Node.Keeping

namespace NodeTrial

open Dialogue

/-- The steps that a start takes once the node is in the slot: time passes, and the node is looked
at. -/
def ThreadStep.IsAfterward : ThreadStep → Prop
  | .machine (.sleep _) => True
  | .slot .confirm => True
  | _ => False

def ThreadStep.IsPut (q : ThreadStep) : Prop := ∃ h, q = .slot (.put h)

def ThreadStep.IsMachine (q : ThreadStep) : Prop := ∃ c, q = .machine c

/-- Whether a step asks a child to end or kills it, outside the slot. -/
def ThreadStep.EndsChild : ThreadStep → Prop
  | .machine (.terminate _) => True
  | .machine (.kill _) => True
  | _ => False

theorem ThreadStep.take_not_isPut : ¬ (ThreadStep.slot .take).IsPut := by
  rintro ⟨h, hput⟩
  cases hput

theorem ThreadStep.IsMachine.not_isPut {q : ThreadStep} (hq : q.IsMachine) : ¬ q.IsPut := by
  obtain ⟨c, rfl⟩ := hq
  rintro ⟨h, hput⟩
  cases hput

theorem ThreadStep.IsAfterward.not_endsChild {q : ThreadStep} (hq : q.IsAfterward) :
    ¬ q.EndsChild := by
  intro hends
  cases q with
  | machine c =>
      cases c with
      | terminate p => exact hq
      | kill p => exact hq
      | _ => exact hends
  | _ => exact hends

theorem Thread.care_asks_machine {α : Type} (c : Care α) :
    (Thread.care c).Asks ThreadStep.IsMachine :=
  care_asks (.of_forall fun call => ⟨call, rfl⟩)

theorem Thread.care_asks_no_put {α : Type} (c : Care α) :
    (Thread.care c).Asks fun q => ¬ q.IsPut :=
  (care_asks_machine c).mono fun _ => ThreadStep.IsMachine.not_isPut

namespace NodeHandle

theorem prepareLog_asks (path : String) :
    (prepareLog path).Asks fun call => ¬ (ThreadStep.machine call).EndsChild := by
  unfold prepareLog
  split
  · trivial
  · exact Asks.bind (.question id) fun _ => trivial

theorem spawn_asks (l : Launch) :
    (spawn l).Asks fun call => ¬ (ThreadStep.machine call).EndsChild := by
  refine Asks.bind ?_ fun started => ?_
  · refine Asks.bind (prepareLog_asks l.logPath) fun prepared => ?_
    cases prepared with
    | error e => trivial
    | ok _ =>
        refine Asks.bind (.question id) fun created => ?_
        cases created with
        | error e => trivial
        | ok log => exact Asks.bind (.question id) fun _ => trivial
  · cases started with
    | error e => exact Asks.bind (Asks.bind (.question id) fun _ => trivial) fun _ => trivial
    | ok child => trivial

theorem settle_asks (time : Nat) :
    (Thread.care (settle time)).Asks ThreadStep.IsAfterward := by
  unfold settle
  split
  · trivial
  · exact Asks.bind (.question trivial) fun _ => trivial

end NodeHandle

namespace NodeSlot

theorem teardown_asks_no_put : teardown.Asks fun q => ¬ q.IsPut :=
  teardown_asks ThreadStep.take_not_isPut fun c => ThreadStep.IsMachine.not_isPut ⟨c, rfl⟩

theorem teardown_leads {t : List (Exchange ThreadStep ThreadStep.Answer)} {u : Unit}
    (h : teardown.Leads t u) :
    ∃ (taken : Option NodeHandle) (t' : List (Exchange ThreadStep ThreadStep.Answer)),
      t = ⟨.slot .take, taken⟩ :: t' ∧ (∀ e ∈ t', e.1.IsMachine) ∧ (taken = none → t' = []) := by
  obtain ⟨t₁, t', taken, rfl, htake, h₁⟩ := leads_bind_iff.mp h
  obtain rfl := leads_question_iff.mp htake
  refine ⟨taken, t', rfl, ?_, ?_⟩
  · cases taken with
    | none =>
        obtain ⟨rfl, -⟩ := leads_pure_iff.mp h₁
        exact List.forall_mem_nil _
    | some handle =>
        obtain ⟨t₂, t₃, h', rfl, hstop, hdrop⟩ := leads_bind_iff.mp h₁
        exact List.forall_mem_append.mpr ⟨(Thread.care_asks_machine _).of_leads hstop,
          (Thread.care_asks_machine _).of_leads hdrop⟩
  · rintro rfl
    exact (leads_pure_iff.mp h₁).1

/-- How a start goes on once the node is in the slot. -/
def afterPut (l : Launch) (h : NodeHandle) : Thread (Except StartFailure Pid) := do
  Thread.care (NodeHandle.settle l.settle)
  match ← Thread.confirm with
  | .error e => pure (.error e)
  | .ok () => pure (.ok (h.pid?.getD 0))

/-- How a start goes on once the child was started, or was not. -/
def afterSpawn (l : Launch) : Except StartFailure NodeHandle → Thread (Except StartFailure Pid)
  | .error e => pure (.error e)
  | .ok h => Thread.put h >>= fun _ => afterPut l h

theorem start_eq_afterSpawn (l : Launch) :
    start l = teardown >>= fun _ => Thread.care (NodeHandle.spawn l) >>= afterSpawn l := by
  unfold start
  congr 1

theorem afterPut_asks (l : Launch) (h : NodeHandle) :
    (afterPut l h).Asks ThreadStep.IsAfterward := by
  refine Asks.bind (NodeHandle.settle_asks l.settle) fun _ => ?_
  refine Asks.bind (.question trivial) fun looked => ?_
  cases looked <;> trivial

theorem afterTeardown_asks (l : Launch) :
    (Thread.care (NodeHandle.spawn l) >>= afterSpawn l).Asks fun q => ¬ q.EndsChild := by
  refine Asks.bind (Thread.care_asks (NodeHandle.spawn_asks l)) fun spawned => ?_
  cases spawned with
  | error e => trivial
  | ok handle =>
      refine Asks.bind (.question id) fun _ => ?_
      exact (afterPut_asks l handle).mono fun _ => ThreadStep.IsAfterward.not_endsChild

theorem start_asks {P : ThreadStep → Prop} (hslot : ∀ q, P (.slot q))
    (hmachine : ∀ c, P (.machine c)) (l : Launch) : (start l).Asks P := by
  have hcare {α : Type} (c : Care α) : (Thread.care c).Asks P :=
    Thread.care_asks (.of_forall hmachine)
  rw [start_eq_afterSpawn]
  refine Asks.bind (teardown_asks (hslot _) hmachine) fun _ => Asks.bind (hcare _) fun spawned => ?_
  cases spawned with
  | error e => trivial
  | ok handle =>
      refine Asks.bind (.question (hslot _)) fun _ => Asks.bind (hcare _) fun _ => ?_
      refine Asks.bind (.question (hslot _)) fun looked => ?_
      cases looked <;> trivial

/-- A start that has put a node into the slot has ended what was there, has started the child and has
put its handle there; only then it lets the node settle and looks at it. -/
theorem start_advances_put {l : Launch} {t : List (Exchange ThreadStep ThreadStep.Answer)}
    {left : Thread (Except StartFailure Pid)} (h : (start l).Advances t left)
    (hput : ∃ e ∈ t, e.1.IsPut) :
    ∃ t₁ t₂ t₃ handle, t = t₁ ++ (t₂ ++ ⟨.slot (.put handle), ()⟩ :: t₃) ∧
      teardown.Leads t₁ () ∧ (Thread.care (NodeHandle.spawn l)).Leads t₂ (.ok handle) ∧
      (afterPut l handle).Advances t₃ left := by
  obtain ⟨e, he, hisput⟩ := hput
  rw [start_eq_afterSpawn] at h
  -- Neither ending what was in the slot nor starting the child puts anything there, so a start that
  -- got no further than that would not have taken the step `e`.
  rcases advances_bind_iff.mp h with ⟨d, hteardown, -⟩ | ⟨t₁, u, _, rfl, hteardown, h₁⟩
  · exact absurd hisput (teardown_asks_no_put.of_advances hteardown e he)
  have hlate : e ∈ u := (List.mem_append.mp he).resolve_left fun he =>
    teardown_asks_no_put.of_leads hteardown e he hisput
  rcases advances_bind_iff.mp h₁ with ⟨d, hspawn, -⟩ | ⟨t₂, v, spawned, rfl, hspawn, h₂⟩
  · exact absurd hisput ((Thread.care_asks_no_put _).of_advances hspawn e hlate)
  have hlater : e ∈ v := (List.mem_append.mp hlate).resolve_left fun he =>
    (Thread.care_asks_no_put _).of_leads hspawn e he hisput
  cases spawned with
  | error failure =>
      cases h₂
      exact absurd hlater List.not_mem_nil
  | ok handle =>
      rcases advances_question_bind_iff.mp h₂ with ⟨rfl, -⟩ | ⟨_, t₃, rfl, h₃⟩
      · exact absurd hlater List.not_mem_nil
      · exact ⟨t₁, t₂, t₃, handle, rfl, hteardown, hspawn, h₃⟩

end NodeSlot

theorem Interruption.watcher_leads {i : Interruption}
    {t : List (Exchange ThreadStep ThreadStep.Answer)} {code : Nat} (h : i.watcher.Leads t code) :
    NodeSlot.teardown.Leads t () := by
  obtain ⟨t₁, t₂, _, rfl, hteardown, hdone⟩ := leads_bind_iff.mp h
  obtain ⟨rfl, -⟩ := leads_pure_iff.mp hdone
  rw [List.append_nil]
  exact hteardown

end NodeTrial
