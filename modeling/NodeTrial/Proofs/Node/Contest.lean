import NodeTrial.Proofs.Node.Custody

/-!
A start, and teardowns by any number of other holders of the slot, their steps taken in whatever
order. Only the start puts anything into the slot, and it does so once, when the slot is empty: from
then on its node is there, with nothing done to it, until somebody takes it.
-/

namespace NodeTrial

open Dialogue

/-- A step that asks the machine or takes what is in the slot. -/
def ThreadStep.OfTeardown : ThreadStep → Prop
  | .machine _ | .slot .take => True
  | _ => False

theorem ThreadStep.OfTeardown.putsNone {q : ThreadStep} (hq : q.OfTeardown) : q.PutsNone := by
  cases q with
  | machine c => trivial
  | slot q =>
      cases q with
      | take => trivial
      | _ => exact hq.elim
  | request q => exact hq.elim

theorem ThreadStep.IsMachine.ofTeardown {q : ThreadStep} (hq : q.IsMachine) : q.OfTeardown := by
  obtain ⟨c, rfl⟩ := hq
  trivial

theorem ThreadStep.IsAfterward.putsNone {q : ThreadStep} (hq : q.IsAfterward) : q.PutsNone := by
  cases q with
  | machine c => trivial
  | slot q =>
      cases q with
      | confirm => trivial
      | _ => exact hq.elim
  | request q => exact hq.elim

theorem ThreadStep.PutsNone.not_isPut {q : ThreadStep} (hq : q.PutsNone) : ¬ q.IsPut := by
  rintro ⟨h, rfl⟩
  exact hq

theorem eq_of_append_cons {α : Type} {P : α → Prop} {l₁ l₂ m₁ m₂ : List α} {a b : α}
    (h : l₁ ++ a :: l₂ = m₁ ++ b :: m₂) (ha : P a) (hm₁ : ∀ c ∈ m₁, ¬ P c)
    (hm₂ : ∀ c ∈ m₂, ¬ P c) : l₁ = m₁ ∧ a = b ∧ l₂ = m₂ := by
  rcases List.append_eq_append_iff.mp h with ⟨c, rfl, hc⟩ | ⟨c, rfl, hc⟩
  · cases c with
    | nil =>
        obtain ⟨rfl, rfl⟩ := List.cons.inj hc
        exact ⟨(List.append_nil _).symm, rfl, rfl⟩
    | cons d c =>
        obtain ⟨rfl, -⟩ := List.cons.inj hc
        exact absurd ha (hm₁ a (List.mem_append_right _ List.mem_cons_self))
  · cases c with
    | nil =>
        obtain ⟨rfl, rfl⟩ := List.cons.inj hc
        exact ⟨List.append_nil _, rfl, rfl⟩
    | cons d c =>
        obtain ⟨-, rfl⟩ := List.cons.inj hc
        exact absurd ha (hm₂ a (List.mem_append_right _ List.mem_cons_self))

namespace NodeSlot

variable {l : Launch} {h : NodeHandle} {t t₁ t₂ : List (Exchange ThreadStep ThreadStep.Answer)}

theorem teardown_asks_ofTeardown : teardown.Asks ThreadStep.OfTeardown :=
  teardown_asks trivial fun _ => trivial

theorem teardown_advances_take {left : Thread Unit}
    (hteardown : teardown.Advances (t₁ ++ ⟨.slot .take, some h⟩ :: t₂) left) :
    t₁ = [] ∧ (ending h).Advances t₂ left := by
  rcases advances_question_bind_iff.mp hteardown with ⟨hnil, -⟩ | ⟨taken, t, htake, hadvances⟩
  · exact absurd hnil (by simp)
  · cases t₁ with
    | nil =>
        obtain ⟨hfirst, rfl⟩ := List.cons.inj htake
        obtain rfl : some h = taken := eq_of_heq (Sigma.mk.inj hfirst).2
        exact ⟨rfl, hadvances⟩
    | cons e t₁ =>
        obtain ⟨-, rfl⟩ := List.cons.inj htake
        have hasks : ∀ e ∈ t₁ ++ ⟨.slot .take, some h⟩ :: t₂, ThreadStep.BearsNone e.1 := by
          cases taken with
          | none => exact (show Asks ThreadStep.BearsNone (pure ()) from trivial).of_advances hadvances
          | some h' => exact (ending_asks h').of_advances hadvances
        exact (hasks _ (List.mem_append_right _ List.mem_cons_self)).elim

theorem teardown_leads_take (hteardown : teardown.Leads (t₁ ++ ⟨.slot .take, some h⟩ :: t₂) ()) :
    t₁ = [] ∧ (ending h).Leads t₂ () := by
  obtain ⟨rfl, -⟩ := teardown_advances_take hteardown.advances
  obtain ⟨taken, t, htake, hleads⟩ := leads_ask_iff.mp hteardown
  obtain ⟨hfirst, rfl⟩ := List.cons.inj htake
  obtain rfl : some h = taken := eq_of_heq (Sigma.mk.inj hfirst).2
  exact ⟨rfl, hleads⟩

theorem start_leads_take {r : Except StartFailure Pid}
    (hstart : (start l).Leads (t₁ ++ ⟨.slot .take, some h⟩ :: t₂) r) :
    t₁ = [] ∧ ∃ u v, t₂ = u ++ v ∧ (ending h).Leads u () := by
  have htakesNone (handle : NodeHandle) : (afterPut l handle).Asks (· ≠ .slot .take) :=
    (afterPut_asks l handle).mono fun q hq hsame => by
      rw [hsame] at hq
      exact hq
  have hrest : (Thread.care (NodeHandle.spawn l) >>= afterSpawn l).Asks (· ≠ .slot .take) := by
    refine Asks.bind (Thread.care_asks (.of_forall fun c => nofun)) fun spawned => ?_
    cases spawned with
    | error e => trivial
    | ok handle => exact Asks.bind (.question nofun) fun _ => htakesNone handle
  rw [start_eq_afterSpawn] at hstart
  obtain ⟨u, v, _, hsplit, hteardown, hleads⟩ := leads_bind_iff.mp hstart
  have hlate : ∀ e ∈ v, e.1 ≠ .slot .take := hrest.of_leads hleads
  rcases List.append_eq_append_iff.mp hsplit with ⟨w, rfl, hw⟩ | ⟨w, -, rfl⟩
  · cases w with
    | nil => exact absurd rfl (hlate _ (hw ▸ List.mem_cons_self))
    | cons e w =>
        obtain ⟨rfl, rfl⟩ := List.cons.inj hw
        obtain ⟨rfl, hending⟩ := teardown_leads_take hteardown
        exact ⟨rfl, w, v, rfl, hending⟩
  · exact absurd rfl (hlate _ (List.mem_append_right _ List.mem_cons_self))

theorem start_advances_at_put {left : Thread (Except StartFailure Pid)}
    (hstart : (start l).Advances (t₁ ++ ⟨.slot (.put h), ()⟩ :: t₂) left) :
    ∃ u v, t₁ = u ++ v ∧ teardown.Leads u () ∧
      (Thread.care (NodeHandle.spawn l)).Leads v (.ok h) ∧ (afterPut l h).Advances t₂ left := by
  obtain ⟨u, v, w, handle, hsplit, hteardown, hspawn, hafter⟩ :=
    start_advances_put hstart ⟨_, List.mem_append_right _ List.mem_cons_self, h, rfl⟩
  rw [← List.append_assoc] at hsplit
  have hbefore : ∀ e ∈ u ++ v, ¬ ThreadStep.IsPut e.1 :=
    List.forall_mem_append.mpr ⟨teardown_asks_no_put.of_leads hteardown,
      (Thread.care_asks_no_put _).of_leads hspawn⟩
  obtain ⟨rfl, hsame, rfl⟩ := eq_of_append_cons (P := fun e => ThreadStep.IsPut e.1) hsplit
    ⟨h, rfl⟩ hbefore fun e he => ((afterPut_asks l handle).of_advances hafter e he).putsNone.not_isPut
  cases hsame
  exact ⟨u, v, rfl, hteardown, hspawn, hafter⟩

theorem start_asks_puts (l : Launch) : (start l).Asks fun q => q.PutsNone ∨ q.IsPut := by
  rw [start_eq_afterSpawn]
  refine Asks.bind (teardown_asks (.inl trivial) fun _ => .inl trivial) fun _ => ?_
  refine Asks.bind (Thread.care_asks (.of_forall fun _ => .inl trivial)) fun spawned => ?_
  cases spawned with
  | error e => trivial
  | ok handle =>
      refine Asks.bind (.question (.inr ⟨handle, rfl⟩)) fun _ => ?_
      exact (afterPut_asks l handle).mono fun _ hq => .inl hq.putsNone

theorem afterPut_advances_confirm {left : Thread (Except StartFailure Pid)}
    {looked : Except StartFailure Unit}
    (hafter : (afterPut l h).Advances (t₁ ++ ⟨.slot .confirm, looked⟩ :: t₂) left) :
    (∀ e ∈ t₁, e.1.IsMachine) ∧ t₂ = [] ∧
      left = pure (looked.map fun _ => h.pid?.getD 0) := by
  have hmachine : (Thread.care (NodeHandle.settle l.settle)).Asks ThreadStep.IsMachine :=
    Thread.care_asks_machine _
  have hconfirm : ¬ (ThreadStep.slot .confirm).IsMachine := by
    rintro ⟨c, hc⟩
    cases hc
  rcases advances_bind_iff.mp hafter with ⟨d, hsettle, -⟩ | ⟨u, v, _, hsplit, hsettle, hrest⟩
  · exact absurd (hmachine.of_advances hsettle _
      (List.mem_append_right _ List.mem_cons_self)) hconfirm
  · have hsettled := hmachine.of_leads hsettle
    rcases advances_question_bind_iff.mp hrest with ⟨rfl, -⟩ | ⟨seen, w, rfl, hdone⟩
    · rw [List.append_nil] at hsplit
      rw [← hsplit] at hsettled
      exact absurd (hsettled _ (List.mem_append_right _ List.mem_cons_self)) hconfirm
    · have hend : w = [] ∧ left = pure (seen.map fun _ => h.pid?.getD 0) := by
        cases seen with
        | error e =>
            cases hdone
            exact ⟨rfl, rfl⟩
        | ok _ =>
            cases hdone
            exact ⟨rfl, rfl⟩
      obtain ⟨rfl, hleft⟩ := hend
      obtain ⟨rfl, hsame, rfl⟩ := eq_of_append_cons (P := fun e => ¬ ThreadStep.IsMachine e.1)
        hsplit hconfirm (fun e he => not_not_intro (hsettled e he)) (List.forall_mem_nil _)
      obtain rfl : looked = seen := eq_of_heq (Sigma.mk.inj hsame).2
      exact ⟨hsettled, rfl, hleft⟩

theorem afterPut_leads {r : Except StartFailure Pid} (hafter : (afterPut l h).Leads t r) :
    ∃ u looked, t = u ++ [⟨.slot .confirm, looked⟩] := by
  obtain ⟨u, v, _, rfl, -, hrest⟩ := leads_bind_iff.mp hafter
  obtain ⟨looked, w, rfl, hdone⟩ := leads_ask_iff.mp hrest
  refine ⟨u, looked, ?_⟩
  cases looked <;> cases hdone <;> rfl

/-- A start that has returned has failed to start its child, or has put its node into the slot and
then looked at it. -/
theorem start_leads_cases {r : Except StartFailure Pid} (hstart : (start l).Leads t r) :
    (∃ e, r = .error e) ∧ (∀ e ∈ t, ¬ e.1.IsPut) ∨
      ∃ u handle v looked, t = u ++ ⟨.slot (.put handle), ()⟩ :: (v ++ [⟨.slot .confirm, looked⟩]) := by
  rw [start_eq_afterSpawn] at hstart
  obtain ⟨u, t', _, rfl, hteardown, hrest⟩ := leads_bind_iff.mp hstart
  obtain ⟨v, w, spawned, rfl, hspawn, hafter⟩ := leads_bind_iff.mp hrest
  have hbefore : ∀ e ∈ u ++ v, ¬ ThreadStep.IsPut e.1 :=
    List.forall_mem_append.mpr ⟨teardown_asks_no_put.of_leads hteardown,
      (Thread.care_asks_no_put _).of_leads hspawn⟩
  cases spawned with
  | error e =>
      obtain ⟨rfl, rfl⟩ := leads_pure_iff.mp hafter
      rw [List.append_nil]
      exact .inl ⟨⟨e, rfl⟩, hbefore⟩
  | ok handle =>
      obtain ⟨_, w, rfl, hlook⟩ := leads_ask_iff.mp hafter
      obtain ⟨settling, looked, rfl⟩ := afterPut_leads hlook
      exact .inr ⟨u ++ v, handle, settling, looked, (List.append_assoc ..).symm⟩

end NodeSlot

theorem Thread.care_leads {α : Type} {c : Care α}
    {t : List (Exchange ThreadStep ThreadStep.Answer)} {a : α} (h : (Thread.care c).Leads t a) :
    ∃ u, c.Leads u a ∧ t = u.map fun e => ⟨.machine e.1, e.2⟩ := by
  obtain ⟨u, hu, hcarried⟩ := leads_run_iff.mp h
  refine ⟨u, hu, ?_⟩
  clear hu h
  induction u generalizing t with
  | nil => exact hcarried
  | cons e u ih =>
      obtain ⟨v, w, rfl, hv, hw⟩ := hcarried
      obtain rfl := leads_question_iff.mp hv
      exact congrArg (_ :: ·) (ih hw)

namespace NodeHandle

theorem spawnChild_leads {l : Launch} {p : Pid}
    {t : List (Exchange MachineCall MachineCall.Answer)} (h : (spawnChild l).Leads t (.ok p)) :
    ∃ u log, t = u ++ [⟨.spawn l.program l.args l.directory log, .ok p⟩] := by
  obtain ⟨t₁, t₂, prepared, rfl, -, h₁⟩ := leads_bind_iff.mp h
  cases prepared with
  | error e => cases (leads_pure_iff.mp h₁).2
  | ok _ =>
      obtain ⟨t₃, t₄, created, rfl, -, h₂⟩ := leads_bind_iff.mp h₁
      cases created with
      | error e => cases (leads_pure_iff.mp h₂).2
      | ok log =>
          obtain ⟨t₅, t₆, spawned, rfl, hask, h₃⟩ := leads_bind_iff.mp h₂
          obtain ⟨rfl, hresult⟩ := leads_pure_iff.mp h₃
          cases spawned with
          | error e => cases hresult
          | ok q =>
              cases hresult
              obtain rfl := leads_question_iff.mp hask
              exact ⟨t₁ ++ t₃, log, by simp⟩

theorem spawn_leads {l : Launch} {handle : NodeHandle}
    {t : List (Exchange MachineCall MachineCall.Answer)} (h : (spawn l).Leads t (.ok handle)) :
    ∃ u log p, t = u ++ [⟨.spawn l.program l.args l.directory log, .ok p⟩] ∧
      handle = .fresh l p := by
  obtain ⟨t₁, t₂, spawned, rfl, hchild, hrest⟩ := leads_bind_iff.mp h
  cases spawned with
  | ok p =>
      obtain ⟨rfl, hresult⟩ := leads_pure_iff.mp hrest
      cases hresult
      obtain ⟨u, log, rfl⟩ := spawnChild_leads hchild
      exact ⟨u, log, p, List.append_nil _, rfl⟩
  | error e =>
      obtain ⟨_, _, _, -, -, hdone⟩ := leads_bind_iff.mp hrest
      cases (leads_pure_iff.mp hdone).2

end NodeHandle

abbrev Contest : Type := Joint Caller ThreadStep ThreadStep.Answer

/-- A start, and teardowns by other callers, took steps in some order, however far each of them
got. -/
structure Contended (l : Launch) (k : Commons) (run : Contest) (k' : Commons) : Prop where
  starting : ∃ left, (NodeSlot.start l).Advances (shareOf .starter run) left
  tearing : ∀ i, ∃ left, NodeSlot.teardown.Advances (shareOf (.other i) run) left
  follows : Follows commonsWorld k run k'

namespace Commons

/-- Nobody has a child in care, and a node that is in the slot is tended. -/
structure Quiet (k : Commons) : Prop where
  vacant : k.held = none → k.inSlot = none
  holds : ∀ h, k.held = some h → ∃ b < k.births, k.inSlot = some b ∧ h.Tends (k.ward b)
  idle : ∀ x, k.care x = none
  unmarked : ∀ b, k.marks b = []

variable {k k' m : Commons} {b : Nat} {h : NodeHandle} {x : Caller} {run : Contest}

theorem Quiet.orderly (hk : k.Quiet) : k.Orderly where
  vacant := hk.vacant
  holds h hh := by
    obtain ⟨b, hb, hslot, htends⟩ := hk.holds h hh
    exact ⟨b, hb, hslot, htends, hk.unmarked b⟩
  born x b hx := nomatch (hk.idle x).symm.trans hx
  outside x b hx := nomatch (hk.idle x).symm.trans hx
  apart x y b hx := nomatch (hk.idle x).symm.trans hx
  own x b hx := nomatch (hk.idle x).symm.trans hx
  single b y hy := by
    rw [hk.unmarked b] at hy
    cases hy
  unborn b _ := hk.unmarked b

/-- Nobody was ever born, and the slot is empty. -/
def empty : Commons := ⟨0, fun _ => .newborn 0, none, none, fun _ => none, fun _ => []⟩

theorem empty_quiet : empty.Quiet where
  vacant _ := rfl
  holds _ hh := nomatch hh
  idle _ := rfl
  unmarked _ := rfl

theorem Orderly.follows (hk : k.Orderly) (hrun : ∀ e ∈ run, e.1.2.PutsNone)
    (h : Follows commonsWorld k run k') : k'.Orderly :=
  Follows.preserves (P := fun q => q.2.PutsNone) Orderly
    (fun _ _ _ _ hq hstep hk => hk.step hq hstep) hrun hk h

theorem held_none_of_step {q : ThreadStep} {a : q.Answer} (hq : q.PutsNone)
    (hempty : k.held = none) (h : commonsWorld (x, q) k a k') : k'.held = none := by
  cases q with
  | machine c => exact (asked_of_step h).held.trans hempty
  | slot q =>
      cases q with
      | take =>
          obtain ⟨-, rfl⟩ := take_of_step h
          rfl
      | confirm =>
          obtain ⟨-, rfl⟩ := confirm_of_empty hempty h
          rfl
      | _ => exact hq.elim
  | request q => exact hq.elim

theorem held_none_of_follows (hrun : ∀ e ∈ run, e.1.2.PutsNone) (hempty : k.held = none)
    (h : Follows commonsWorld k run k') : k'.held = none :=
  Follows.preserves (P := fun q => q.2.PutsNone) (·.held = none)
    (fun _ _ _ _ hq hstep hempty => held_none_of_step hq hempty hstep) hrun hempty h

theorem Orderly.owns_born {program : String} {args : List String} {directory : String}
    {output : Nat} {p : Pid} (hk : k.Orderly)
    (h : commonsWorld (x, .machine (.spawn program args directory output)) k (.ok p) k') :
    ∃ b, Owns x b k' ∧ k'.ward b = .newborn p ∧ k'.marks b = [] := by
  have hk' := hk.asked (asked_of_step h)
  obtain ⟨n, ⟨m, hdrift, -, rfl⟩, rfl⟩ := h
  refine ⟨m.births, hk'.owns (Function.update_self ..), Nursery.bear_ward_self m p, ?_⟩
  have hbirths : m.births = k.births := hdrift.births
  refine (if_neg fun hnoted => ?_).trans (hk.unborn _ (Nat.le_of_eq hbirths.symm))
  exact Nat.lt_irrefl _ (hbirths ▸ hnoted.1)

/-- A caller that has started a child and is about to put its handle into the slot. -/
structure Ready (x : Caller) (h : NodeHandle) (b : Nat) (k : Commons) : Prop where
  orderly : k.Orderly
  empty : k.held = none
  care : k.care x = some b
  tends : h.Tends (k.ward b)
  pid : h.pid? = some (k.ward b).pid
  unnoted : (k.ward b).notices = []
  unmarked : k.marks b = []

end Commons

section

variable {l : Launch} {k k' m : Commons} {run : Contest} {handle : NodeHandle}
  {t₁ t₂ : List (Exchange ThreadStep ThreadStep.Answer)}

/-- A start that has got to the point at which it puts its node into the slot. -/
structure GotReady (l : Launch) (handle : NodeHandle) (k : Commons) (run : Contest)
    (k' : Commons) : Prop where
  starting : ∃ t₁ t₂, shareOf .starter run = t₁ ++ t₂ ∧ NodeSlot.teardown.Leads t₁ () ∧
    (Thread.care (NodeHandle.spawn l)).Leads t₂ (.ok handle)
  tearing : ∀ i, ∃ left, NodeSlot.teardown.Advances (shareOf (.other i) run) left
  follows : Follows commonsWorld k run k'

theorem GotReady.putsNone (h : GotReady l handle k run k') : ∀ e ∈ run, e.1.2.PutsNone := by
  refine forall_mem_of_shares fun x e he => ?_
  cases x with
  | starter =>
      obtain ⟨t₁, t₂, hshare, hteardown, hspawn⟩ := h.starting
      rw [hshare] at he
      rcases List.mem_append.mp he with he | he
      · exact (NodeSlot.teardown_asks_ofTeardown.of_leads hteardown e he).putsNone
      · exact ((Thread.care_asks_machine _).of_leads hspawn e he).ofTeardown.putsNone
  | other i =>
      obtain ⟨left, hteardown⟩ := h.tearing i
      exact (NodeSlot.teardown_asks_ofTeardown.of_advances hteardown e he).putsNone

/-- From the start of its child on, the start takes no step until it puts the node into the slot, and
whatever the others do, the child is left alone and the slot is empty. -/
theorem GotReady.ready (h : GotReady l handle k run k') (hk : k.Quiet) :
    ∃ b, Commons.Ready .starter handle b k' := by
  have hputs := h.putsNone
  obtain ⟨t₁, t₂, hshare, hteardown, hspawn⟩ := h.starting
  have hempty : k'.held = none := by
    obtain ⟨taken, t, rfl, -, -⟩ := NodeSlot.teardown_leads hteardown
    have hfirst : shareOf .starter run = [] ++ ⟨.slot .take, taken⟩ :: (t ++ t₂) := hshare
    obtain ⟨before, after, rfl, -, -⟩ := exists_cons_of_shareOf hfirst
    obtain ⟨m, -, m', htake, hafter⟩ := follows_append.mp h.follows
    obtain ⟨-, rfl⟩ := Commons.take_of_step htake
    refine Commons.held_none_of_follows (fun e he => ?_) rfl hafter
    exact hputs e (List.mem_append_right _ (List.mem_cons_of_mem _ he))
  obtain ⟨u, hu, rfl⟩ := Thread.care_leads hspawn
  obtain ⟨v, log, p, rfl, rfl⟩ := NodeHandle.spawn_leads hu
  rw [List.map_append, ← List.append_assoc] at hshare
  obtain ⟨before, after, rfl, -, hnone⟩ := exists_cons_of_shareOf hshare
  obtain ⟨m, hbefore, m', hborn, hafter⟩ := follows_append.mp h.follows
  have hm : m.Orderly := hk.orderly.follows
    (fun e he => hputs e (List.mem_append_left _ he)) hbefore
  obtain ⟨b, howns, hward, hmarks⟩ := hm.owns_born hborn
  have hidle : ∀ e ∈ shareOf .starter after, e.1.BearsNone := by
    rw [hnone]
    exact List.forall_mem_nil _
  obtain ⟨howns', hsame, w, hw, hdrift⟩ := howns.follows hidle hafter
  rw [hnone, hward] at hw
  obtain rfl : w = .newborn p := congrArg Slotted.state hw
  refine ⟨b, hk.orderly.follows hputs h.follows, hempty, howns'.own,
    (NodeHandle.tends_fresh l p).drift hdrift, ?_, ?_, (hsame hnone).trans hmarks⟩
  · rw [hdrift.pid_eq]
    rfl
  · rw [hdrift.notices_eq]
    rfl

theorem shareOf_starter_put (run rest : Contest) (handle : NodeHandle) :
    shareOf .starter (run ++ ⟨(.starter, .slot (.put handle)), ()⟩ :: rest) =
      shareOf .starter run ++ ⟨.slot (.put handle), ()⟩ :: shareOf .starter rest :=
  shareOf_append_cons ..

theorem shareOf_starter_confirm (run rest : Contest) (looked : Except StartFailure Unit) :
    shareOf .starter (run ++ ⟨(.starter, .slot .confirm), looked⟩ :: rest) =
      shareOf .starter run ++ ⟨.slot .confirm, looked⟩ :: shareOf .starter rest :=
  shareOf_append_cons ..

theorem Contended.front {run' : Contest} (h : Contended l k (run ++ run') k')
    (hfollows : Follows commonsWorld k run m) : Contended l k run m where
  starting := by
    obtain ⟨left, hstart⟩ := h.starting
    rw [shareOf_append] at hstart
    obtain ⟨middle, hstart, -⟩ := advances_append_iff.mp hstart
    exact ⟨middle, hstart⟩
  tearing i := by
    obtain ⟨left, hteardown⟩ := h.tearing i
    rw [shareOf_append] at hteardown
    obtain ⟨middle, hteardown, -⟩ := advances_append_iff.mp hteardown
    exact ⟨middle, hteardown⟩
  follows := hfollows

theorem Contended.gotReady {rest : Contest}
    (h : Contended l k (run ++ ⟨(.starter, .slot (.put handle)), ()⟩ :: rest) k')
    (hfollows : Follows commonsWorld k run m) : GotReady l handle k run m where
  starting := by
    obtain ⟨left, hstart⟩ := h.starting
    rw [shareOf_starter_put] at hstart
    obtain ⟨u, v, hsplit, hteardown, hspawn, -⟩ := NodeSlot.start_advances_at_put hstart
    exact ⟨u, v, hsplit, hteardown, hspawn⟩
  tearing := (h.front hfollows).tearing
  follows := hfollows

theorem Contended.putsNone_other (h : Contended l k run k') (i : Nat) :
    ∀ e ∈ shareOf (.other i) run, e.1.OfTeardown := by
  obtain ⟨left, hteardown⟩ := h.tearing i
  exact NodeSlot.teardown_asks_ofTeardown.of_advances hteardown

theorem Contended.putsNone_rest {rest : Contest}
    (h : Contended l k (run ++ ⟨(.starter, .slot (.put handle)), ()⟩ :: rest) k') :
    ∀ e ∈ rest, e.1.2.PutsNone := by
  refine forall_mem_of_shares fun x e he => ?_
  cases x with
  | starter =>
      obtain ⟨left, hstart⟩ := h.starting
      rw [shareOf_starter_put] at hstart
      obtain ⟨u, v, -, -, -, hafter⟩ := NodeSlot.start_advances_at_put hstart
      exact ((NodeSlot.afterPut_asks l handle).of_advances hafter e he).putsNone
  | other i =>
      refine (h.putsNone_other i e ?_).putsNone
      rw [shareOf_append]
      exact List.mem_append_right _ he

end

namespace Commons

variable {k k' : Commons} {b : Nat} {h : NodeHandle} {x : Caller} {run : Contest}

/-- The slot holds a node to which nothing was done since it was started. -/
structure Stores (h : NodeHandle) (b : Nat) (k : Commons) : Prop where
  orderly : k.Orderly
  held : k.held = some h
  inSlot : k.inSlot = some b
  pid : h.pid? = some (k.ward b).pid
  unnoted : (k.ward b).notices = []

theorem Ready.put {u : Unit} (hk : Ready x h b k) (hput : commonsWorld (x, .slot (.put h)) k u k') :
    Stores h b k' := by
  obtain rfl := put_of_step hk.empty hput
  exact ⟨hk.orderly.put hk.care hk.tends hk.unmarked, rfl, hk.care, hk.pid, hk.unnoted⟩

theorem Stores.tends (hk : Stores h b k) : h.Tends (k.ward b) := by
  obtain ⟨b', -, hslot, htends, -⟩ := hk.orderly.holds h hk.held
  obtain rfl := Option.some.inj (hslot.symm.trans hk.inSlot)
  exact htends

theorem Stores.step {q : ThreadStep} {a : q.Answer} (hk : Stores h b k) (hq : q.OfTeardown)
    (hstep : commonsWorld (x, q) k a k') :
    Stores h b k' ∨ (⟨q, a⟩ : Exchange ThreadStep ThreadStep.Answer) = ⟨.slot .take, some h⟩ := by
  have hk' := hk.orderly.step hq.putsNone hstep
  cases q with
  | machine c =>
      have hasked := asked_of_step hstep
      obtain ⟨b', hb, hslot, -⟩ := hk.orderly.holds h hk.held
      obtain rfl := Option.some.inj (hslot.symm.trans hk.inSlot)
      have hdrift := hasked.treats.drift b' hb fun hx => hk.orderly.outside x b' hx hk.inSlot
      refine .inl ⟨hk', hasked.held.trans hk.held, hasked.inSlot.trans hk.inSlot, ?_, ?_⟩
      · rw [hdrift.pid_eq]
        exact hk.pid
      · rw [hdrift.notices_eq]
        exact hk.unnoted
  | slot q =>
      cases q with
      | take =>
          obtain ⟨rfl, -⟩ := take_of_step hstep
          rw [hk.held]
          exact .inr rfl
      | _ => exact hq.elim
  | request q => exact hq.elim

theorem Stores.follows (hk : Stores h b k) (hrun : ∀ e ∈ run, e.1.2.OfTeardown)
    (hfollows : Follows commonsWorld k run k') :
    Stores h b k' ∨ k'.held = none ∧ ∃ x, ⟨(x, .slot .take), some h⟩ ∈ run := by
  by_cases hk' : Stores h b k'
  · exact .inl hk'
  · obtain ⟨before, ⟨⟨x, q⟩, a⟩, after, m, m', rfl, -, hm, hstep, hm', hafter⟩ :=
      hfollows.exists_step (Stores h b) hk hk'
    rcases hm.step (hrun _ (List.mem_append_right _ List.mem_cons_self)) hstep with
      hstill | htaken
    · exact absurd hstill hm'
    · cases htaken
      obtain ⟨-, rfl⟩ := take_of_step hstep
      refine .inr ⟨?_, x, List.mem_append_right _ List.mem_cons_self⟩
      refine held_none_of_follows (fun e he => (hrun e ?_).putsNone) rfl hafter
      exact List.mem_append_right _ (List.mem_cons_of_mem _ he)

theorem Orderly.owns_taken (hk : k.Orderly) (hslot : k.inSlot = some b)
    (hstep : commonsWorld (x, .slot .take) k (some h) k') :
    Owns x b k' ∧ h.Tends (k'.ward b) := by
  obtain ⟨hheld, hk'⟩ := take_of_step hstep
  obtain ⟨h', hheld', -, htends, -⟩ := hk.slotted hslot
  obtain rfl := Option.some.inj (hheld.trans hheld')
  have horderly := hk.step (q := .slot .take) trivial hstep
  refine ⟨horderly.owns ?_, ?_⟩
  · rw [hk', hslot]
    exact Function.update_self ..
  · rw [hk']
    exact htends

end Commons

section

variable {l : Launch} {k k' m : Commons} {run : Contest} {handle : NodeHandle} {b : Nat}

theorem Contended.stored {rest : Contest} {stored : Commons}
    (h : Contended l k (run ++ ⟨(.starter, .slot (.put handle)), ()⟩ :: rest) k') (hk : k.Quiet)
    (hfollows : Follows commonsWorld k run m)
    (hput : commonsWorld (.starter, .slot (.put handle)) m () stored) :
    ∃ b, stored.Stores handle b := by
  obtain ⟨b, hready⟩ := (h.gotReady hfollows).ready hk
  exact ⟨b, hready.put hput⟩

theorem Contended.asks (h : Contended l k run k') :
    ∀ e ∈ run, e.1.2.PutsNone ∨ e.1.2.IsPut := by
  refine forall_mem_of_shares (P := fun q : ThreadStep => q.PutsNone ∨ q.IsPut) fun x e he => ?_
  cases x with
  | starter =>
      obtain ⟨left, hstart⟩ := h.starting
      exact (NodeSlot.start_asks_puts l).of_advances hstart e he
  | other i => exact .inl (h.putsNone_other i e he).putsNone

theorem Contended.empty_at_put {x : Caller} {u : Unit} {rest : Contest}
    (h : Contended l k (run ++ ⟨(x, .slot (.put handle)), u⟩ :: rest) k') (hk : k.Quiet)
    (hfollows : Follows commonsWorld k run m) : m.held = none := by
  cases x with
  | starter =>
      obtain ⟨b, hready⟩ := (h.gotReady hfollows).ready hk
      exact hready.empty
  | other i =>
      have hmem : ⟨.slot (.put handle), u⟩ ∈
          shareOf (.other i) (run ++ ⟨(.other i, .slot (.put handle)), u⟩ :: rest) :=
        mem_shareOf (List.mem_append_right _ List.mem_cons_self)
      exact (h.putsNone_other i _ hmem).elim

theorem Contended.orderly (h : Contended l k run k') (hk : k.Quiet) : k'.Orderly := by
  by_cases hput : ∃ e ∈ run, ¬ e.1.2.PutsNone
  · obtain ⟨⟨⟨x, q⟩, a⟩, he, hq⟩ := hput
    obtain ⟨handle, rfl⟩ := (h.asks _ he).resolve_left hq
    cases x with
    | starter =>
        obtain ⟨before, rest, rfl⟩ := List.append_of_mem he
        obtain ⟨m, hbefore, stored, hput, hrest⟩ := follows_append.mp h.follows
        obtain ⟨b, hstored⟩ := h.stored hk hbefore hput
        exact hstored.orderly.follows h.putsNone_rest hrest
    | other i => exact (h.putsNone_other i _ (mem_shareOf he)).elim
  · refine hk.orderly.follows (fun e he => ?_) h.follows
    exact (h.asks e he).resolve_right fun hq => hput ⟨e, he, fun hnone => hnone.not_isPut hq⟩

end

end NodeTrial
