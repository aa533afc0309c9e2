import NodeTrial.Proofs.Node.Contest
import NodeTrial.Proofs.Node.Interrupted

namespace NodeTrial

open Dialogue

section

variable {l : Launch} {k k' m : Commons} {run : Contest} {handle : NodeHandle} {b : Nat}

structure Returned (l : Launch) (run : Contest) : Prop where
  starter : ∃ r, (NodeSlot.start l).Leads (shareOf .starter run) r
  others : ∀ i, shareOf (.other i) run ≠ [] →
    NodeSlot.teardown.Leads (shareOf (.other i) run) ()

theorem Returned.ending {x : Caller} {after : Contest}
    (h : Returned l (run ++ ⟨(x, .slot .take), some handle⟩ :: after)) :
    ∃ u v, shareOf x after = u ++ v ∧ (NodeSlot.ending handle).Leads u () := by
  have hshare : shareOf x (run ++ ⟨(x, .slot .take), some handle⟩ :: after) =
      shareOf x run ++ ⟨.slot .take, some handle⟩ :: shareOf x after :=
    shareOf_append_cons ..
  cases x with
  | starter =>
      obtain ⟨r, hstart⟩ := h.starter
      rw [hshare] at hstart
      exact (NodeSlot.start_leads_take hstart).2
  | other i =>
      have hteardown := h.others i (by simp [hshare])
      rw [hshare] at hteardown
      exact ⟨_, [], (List.append_nil _).symm, (NodeSlot.teardown_leads_take hteardown).2⟩

/-- A child that was in the slot at some time is gone once the slot is empty and all have
returned. -/
theorem Contended.gone_of_stored {before after : Contest}
    (h : Contended l k (before ++ after) k') (hk : k.Quiet) (hreturned : Returned l (before ++ after))
    (hempty : k'.held = none) (hbefore : Follows commonsWorld k before m)
    (hafter : Follows commonsWorld m after k') (hslot : m.inSlot = some b) :
    (k'.ward b).life = .gone := by
  have hleft : k'.inSlot ≠ some b := by
    rw [(h.orderly hk).vacant hempty]
    nofun
  obtain ⟨t₁, ⟨⟨x, q⟩, a⟩, t₂, n, n', rfl, hfirst, hn, hstep, hn', hlast⟩ :=
    hafter.exists_step (·.inSlot = some b) hslot hleft
  rw [← List.append_assoc] at h hreturned
  have hreached : Follows commonsWorld k (before ++ t₁) n := follows_append.mpr ⟨m, hbefore, hfirst⟩
  have horderly := (h.front hreached).orderly hk
  obtain ⟨handle, hheld, hb, htends, -⟩ := horderly.slotted hn
  -- The child leaves the slot when it is taken, or when it is looked at and found to have ended.
  cases q with
  | machine c => exact absurd ((Commons.asked_of_step hstep).inSlot.trans hn) hn'
  | request q =>
      obtain rfl : n' = n := hstep
      exact absurd hn hn'
  | slot q =>
      cases q with
      | take =>
          obtain rfl : a = some handle := (Commons.take_of_step hstep).1.trans hheld
          obtain ⟨howns, htends'⟩ := horderly.owns_taken hn hstep
          obtain ⟨u, v, hshare, hending⟩ := hreturned.ending
          obtain ⟨r₁, r₂, rfl, rfl, -⟩ := exists_append_of_shareOf hshare
          obtain ⟨n'', hr₁, hr₂⟩ := follows_append.mp hlast
          have hborn := (howns.follows ((NodeSlot.ending_asks handle).of_leads hending) hr₁).1.born
          exact Commons.gone_of_follows hborn (howns.gone htends' hending hr₁) hr₂
      | put handle' =>
          rw [h.empty_at_put hk hreached] at hheld
          cases hheld
      | confirm =>
          obtain ⟨ht, -, ⟨-, -, hslot', -⟩ | ⟨-, -, -, hward⟩⟩ :=
            Commons.confirm_of_holds hheld hn htends hstep
          · exact absurd hslot' hn'
          · refine Commons.gone_of_follows (Nat.lt_of_lt_of_le hb ht.births) ?_ hlast
            rw [hward]
            exact htends.sound.reap.1
      | _ =>
          have hasks := h.asks _ (List.mem_append_right _ List.mem_cons_self)
          rcases hasks with hnone | ⟨_, hput⟩
          · exact hnone.elim
          · cases hput

end

/-- A start that put its node into the slot and looked at it, and the states in between. -/
structure Startup (k : Commons) (run : Contest) (k' : Commons) where
  before : Contest
  handle : NodeHandle
  stored : Commons
  middle : Contest
  checking : Commons
  looked : Except StartFailure Unit
  checked : Commons
  after : Contest
  run_eq : run = before ++ ⟨(.starter, .slot (.put handle)), ()⟩ ::
    (middle ++ ⟨(.starter, .slot .confirm), looked⟩ :: after)
  storing : Follows commonsWorld k (before ++ [⟨(.starter, .slot (.put handle)), ()⟩]) stored
  settling : Follows commonsWorld stored middle checking
  looking : commonsWorld (.starter, .slot .confirm) checking looked checked
  ending : Follows commonsWorld checked after k'

namespace Startup

variable {l : Launch} {k k' : Commons} {run : Contest} {b i : Nat}

/-- A teardown takes the node between its being put into the slot and the look. -/
def TakenBy (s : Startup k run k') (i : Nat) : Prop :=
  ∃ taken, ⟨(.other i, .slot .take), some taken⟩ ∈ s.middle

/-- What comes of a start whose node, of the child `b`, was taken by a teardown: the start fails, the
slot is empty from then on, and that teardown ends the node, and nobody else does anything to it. -/
structure Thwarted (l : Launch) (s : Startup k run k') (b i : Nat) : Prop where
  fails : (NodeSlot.start l).Leads (shareOf .starter run) (.error SlotSection.stoppedMeanwhile)
  empty : s.checked.held = none
  stays_empty : k'.held = none
  alone : ∀ x ∈ k'.marks b, x = .other i
  ends : ∃ t left, shareOf (.other i) run = ⟨.slot .take, some s.handle⟩ :: t ∧
    (NodeSlot.ending s.handle).Advances t left
  gone : NodeSlot.teardown.Leads (shareOf (.other i) run) () → (k'.ward b).life = .gone

/-- What comes of a start whose node, of the child `b`, nobody took: the start succeeds with its
number exactly if it is living, and then the slot holds it. Otherwise the slot is empty, the child
had ended by itself, and its end was taken note of. -/
structure Settled (l : Launch) (s : Startup k run k') (b : Nat) : Prop where
  succeeds_iff : (∃ p, (NodeSlot.start l).Leads (shareOf .starter run) (.ok p)) ↔
    (s.checked.ward b).life = .living
  succeeds : ∀ p, (NodeSlot.start l).Leads (shareOf .starter run) (.ok p) →
    p = (s.stored.ward b).pid ∧ s.checked.held = some s.handle ∧ s.checked.inSlot = some b
  fails : ∀ e, (NodeSlot.start l).Leads (shareOf .starter run) (.error e) →
    s.checked.held = none ∧ (s.checked.ward b).life = .gone ∧
      (s.checked.ward b).notices = [.reaped]

theorem leads (s : Startup k run k') (h : Contended l k run k') :
    (NodeSlot.start l).Leads (shareOf .starter run)
      (s.looked.map fun _ => s.handle.pid?.getD 0) ∧ ∀ e ∈ shareOf .starter s.middle, e.1.IsMachine := by
  obtain ⟨left, hstart⟩ := h.starting
  have hshare := hstart
  rw [s.run_eq, shareOf_starter_put, shareOf_starter_confirm] at hshare
  obtain ⟨u, v, -, -, -, hafter⟩ := NodeSlot.start_advances_at_put hshare
  obtain ⟨hmachine, -, hleft⟩ := NodeSlot.afterPut_advances_confirm hafter
  exact ⟨hstart.leads hleft, hmachine⟩

theorem middle_ofTeardown (s : Startup k run k') (h : Contended l k run k') :
    ∀ e ∈ s.middle, e.1.2.OfTeardown := by
  refine forall_mem_of_shares (P := ThreadStep.OfTeardown) fun x e he => ?_
  cases x with
  | starter => exact ((s.leads h).2 e he).ofTeardown
  | other i =>
      refine h.putsNone_other i e ?_
      rw [s.run_eq, shareOf_append]
      refine List.mem_append_right _ ?_
      change e ∈ shareOf _ (s.middle ++ _)
      rw [shareOf_append]
      exact List.mem_append_left _ he

theorem stores (s : Startup k run k') (h : Contended l k run k') (hk : k.Quiet) :
    ∃ b, s.stored.Stores s.handle b := by
  obtain ⟨m, hbefore, m', hput, hsame⟩ := follows_append.mp s.storing
  obtain rfl := hsame
  rw [s.run_eq] at h
  exact h.stored hk hbefore hput

theorem later_putsNone (s : Startup k run k') (h : Contended l k run k') :
    ∀ e ∈ s.middle ++ ⟨(.starter, .slot .confirm), s.looked⟩ :: s.after, e.1.2.PutsNone := by
  rw [s.run_eq] at h
  exact h.putsNone_rest

/-- A teardown that takes something between finds the node of the start there, for if another had
taken it before, there would be nothing to take. -/
theorem taken (s : Startup k run k') (h : Contended l k run k') (hb : s.stored.Stores s.handle b)
    (htaken : s.TakenBy i) : ∃ p q m m',
      s.middle = p ++ ⟨(.other i, .slot .take), some s.handle⟩ :: q ∧ m.Stores s.handle b ∧
        commonsWorld (.other i, .slot .take) m (some s.handle) m' ∧
        Follows commonsWorld m' q s.checking := by
  obtain ⟨taken, hmem⟩ := htaken
  obtain ⟨p, q, hmiddle⟩ := List.append_of_mem hmem
  have hsteps := s.middle_ofTeardown h
  have hsettling := s.settling
  rw [hmiddle] at hsteps hsettling
  obtain ⟨m, hp, m', htake, hq⟩ := follows_append.mp hsettling
  have hheld : some taken = m.held := (Commons.take_of_step htake).1
  have hm : m.Stores s.handle b := by
    refine (hb.follows (fun e he => hsteps e (List.mem_append_left _ he)) hp).resolve_right ?_
    rintro ⟨hnone, -⟩
    rw [hnone] at hheld
    cases hheld
  obtain rfl : taken = s.handle := Option.some.inj (hheld.trans hm.held)
  exact ⟨p, q, m, m', hmiddle, hm, htake, hq⟩

theorem thwarted (s : Startup k run k') (h : Contended l k run k') (hk : k.Quiet)
    (hb : s.stored.Stores s.handle b) (htaken : s.TakenBy i) : s.Thwarted l b i := by
  obtain ⟨p, q, m, m', hmiddle, hm, htake, hq⟩ := s.taken h hb htaken
  have hlater := s.later_putsNone h
  rw [hmiddle, List.append_assoc] at hlater
  have hafter : ∀ e ∈ q ++ ⟨(.starter, .slot .confirm), s.looked⟩ :: s.after, e.1.2.PutsNone :=
    fun e he => hlater e (List.mem_append_right _ (List.mem_cons_of_mem _ he))
  have hempty : m'.held = none := by rw [(Commons.take_of_step htake).2]
  have hchecking : s.checking.held = none :=
    Commons.held_none_of_follows (fun e he => hafter e (List.mem_append_left _ he)) hempty hq
  obtain ⟨hlooked, hchecked⟩ := Commons.confirm_of_empty hchecking s.looking
  have hfails := (s.leads h).1
  rw [hlooked] at hfails
  have hrest : Follows commonsWorld m' (q ++ ⟨(.starter, .slot .confirm), s.looked⟩ :: s.after) k' :=
    follows_append.mpr ⟨s.checking, hq, s.checked, s.looking, s.ending⟩
  obtain ⟨howns, htends⟩ := hm.orderly.owns_taken hm.inSlot htake
  have hrun : run = (s.before ++ ⟨(.starter, .slot (.put s.handle)), ()⟩ :: p) ++
      ⟨(.other i, .slot .take), some s.handle⟩ ::
        (q ++ ⟨(.starter, .slot .confirm), s.looked⟩ :: s.after) := by
    conv_lhs => rw [s.run_eq, hmiddle]
    simp
  have hshare := (congrArg (shareOf (.other i)) hrun).trans (shareOf_append_cons ..)
  obtain ⟨left, hteardown⟩ := h.tearing i
  rw [hshare] at hteardown
  obtain ⟨hfirst, hending⟩ := NodeSlot.teardown_advances_take hteardown
  rw [hfirst] at hshare
  obtain ⟨howns', -⟩ := howns.follows ((NodeSlot.ending_asks s.handle).of_advances hending) hrest
  constructor
  · exact hfails
  · rw [hchecked]
  · exact Commons.held_none_of_follows hafter hempty hrest
  · exact (h.orderly hk).own _ _ howns'.own
  · exact ⟨_, left, hshare, hending⟩
  · intro hreturned
    rw [hshare] at hreturned
    exact howns.gone htends (NodeSlot.teardown_leads_take hreturned).2 hrest

theorem settled (s : Startup k run k') (h : Contended l k run k')
    (hb : s.stored.Stores s.handle b) (hkept : ∀ i, ¬ s.TakenBy i) : s.Settled l b := by
  obtain ⟨hleads, hmachine⟩ := s.leads h
  have hchecking : s.checking.Stores s.handle b := by
    refine (hb.follows (s.middle_ofTeardown h) s.settling).resolve_right ?_
    rintro ⟨-, x, htake⟩
    cases x with
    | starter =>
        obtain ⟨c, hc⟩ := hmachine _ (mem_shareOf htake)
        cases hc
    | other i => exact hkept i ⟨_, htake⟩
  obtain ⟨-, -, ⟨hlooked, hheld, hslot, -, hliving, -⟩ | ⟨⟨e, hlooked⟩, hheld, -, hward⟩⟩ :=
    Commons.confirm_of_holds hchecking.held hchecking.inSlot hchecking.tends s.looking
  · rw [hlooked] at hleads
    refine ⟨⟨fun _ => hliving, fun _ => ⟨_, hleads⟩⟩, fun p hp => ?_, fun e he => ?_⟩
    · obtain rfl := Except.ok.inj (hleads.unique hp)
      rw [hb.pid]
      exact ⟨rfl, hheld, hslot⟩
    · cases hleads.unique he
  · rw [hlooked] at hleads
    have hgone : (s.checked.ward b).life = .gone := by
      rw [hward]
      exact hchecking.tends.sound.reap.1
    have hnotices : (s.checked.ward b).notices = [.reaped] := by
      have hlife : (s.checking.ward b).life ≠ .gone := by
        rcases hchecking.tends.sound with ⟨hlife, -⟩ | ⟨-, hnotices⟩
        · exact hlife
        · rw [hchecking.unnoted] at hnotices
          exact absurd hnotices (by decide)
      rw [hward, Ward.reap, if_neg hlife, hchecking.unnoted]
      rfl
    refine ⟨⟨fun hok => ?_, fun hliving => ?_⟩, fun p hp => ?_, fun e he => ?_⟩
    · obtain ⟨p, hp⟩ := hok
      cases hleads.unique hp
    · rw [hgone] at hliving
      cases hliving
    · cases hleads.unique hp
    · exact ⟨hheld, hgone, hnotices⟩

end Startup

theorem Contended.exists_startup {l : Launch} {k k' : Commons} {run : Contest}
    (h : Contended l k run k') {r : Except StartFailure Pid}
    (hreturned : (NodeSlot.start l).Leads (shareOf .starter run) r) :
    (∃ e, r = .error e) ∧ (∀ e ∈ run, ¬ e.1.2.IsPut) ∨ Nonempty (Startup k run k') := by
  rcases NodeSlot.start_leads_cases hreturned with
    ⟨hfailed, hnone⟩ | ⟨u, handle, v, looked, hshare⟩
  · refine .inl ⟨hfailed, forall_mem_of_shares (P := fun q : ThreadStep => ¬ q.IsPut) ?_⟩
    intro x e he
    cases x with
    | starter => exact hnone e he
    | other i => exact (h.putsNone_other i e he).putsNone.not_isPut
  · obtain ⟨before, rest, rfl, -, hrest⟩ := exists_cons_of_shareOf hshare
    obtain ⟨middle, after, rfl, -, -⟩ := exists_cons_of_shareOf hrest
    obtain ⟨m, hbefore, stored, hput, hlater⟩ := follows_append.mp h.follows
    obtain ⟨checking, hmiddle, checked, hlook, hafter⟩ := follows_append.mp hlater
    exact .inr ⟨⟨before, handle, stored, middle, checking, looked, checked, after, rfl,
      follows_append.mpr ⟨m, hbefore, stored, hput, rfl⟩, hmiddle, hlook, hafter⟩⟩

/-- A start beside teardowns. A start that has returned has failed to start its child, or has put its
node into the slot and looked at it. If a teardown took the node in between, the start fails as one
that was stopped meanwhile, the slot is empty, and that teardown, and nobody else, ends the node. If
none did, the start succeeds exactly if the node is alive when it is looked at, and then the slot
holds it, and is empty otherwise. Nothing is done to a child by two callers, and once the slot is
empty and all have returned, every child is gone that was ever in the slot. -/
theorem contended_start {l : Launch} {k k' : Commons} {run : Contest} (hk : k.Quiet)
    (h : Contended l k run k') :
    (∀ r, (NodeSlot.start l).Leads (shareOf .starter run) r →
      (∃ e, r = .error e) ∧ (∀ e ∈ run, ¬ e.1.2.IsPut) ∨ Nonempty (Startup k run k')) ∧
    (∀ s : Startup k run k', ∃ b, s.stored.held = some s.handle ∧ s.stored.inSlot = some b ∧
      s.handle.pid? = some (s.stored.ward b).pid ∧
      (∀ i, s.TakenBy i → s.Thwarted l b i) ∧ ((∀ i, ¬ s.TakenBy i) → s.Settled l b)) ∧
    (∀ b, ∀ x ∈ k'.marks b, ∀ y ∈ k'.marks b, x = y) ∧
    (Returned l run → k'.held = none → ∀ before after m b, run = before ++ after →
      Follows commonsWorld k before m → Follows commonsWorld m after k' → m.inSlot = some b →
      (k'.ward b).life = .gone) := by
  refine ⟨fun r hr => h.exists_startup hr, fun s => ?_, (h.orderly hk).single, ?_⟩
  · obtain ⟨b, hb⟩ := s.stores h hk
    exact ⟨b, hb.held, hb.inSlot, hb.pid, fun i htaken => s.thwarted h hk hb htaken,
      fun hkept => s.settled h hb hkept⟩
  · rintro hreturned hempty before after m b rfl hbefore hafter hslot
    exact h.gone_of_stored hk hreturned hempty hbefore hafter hslot

namespace Commons

theorem exists_stored : ∃ k', Follows commonsWorld empty (stepsBy .starter stepsToPut) k' ∧
    k'.held = some (.fresh .plain 7) ∧ k'.inSlot = some 0 ∧ k'.ward 0 = .newborn 7 := by
  have hidle {c : MachineCall} {a : c.Answer} {k : Commons} (hcare : k.care .starter = none)
      (hc : ¬ c.Spawns) : commonsWorld (.starter, .machine c) k a k :=
    step_idle hc fun b hb => nomatch hcare.symm.trans hb
  have hborn {k : Commons} {inCare : Option Nat} (hk : k.births = 0) :
      nurseryWorld (.spawn "./node" ["--dev"] "/project" 0) (k.nursery inCare) (.ok 7)
        ((k.nursery inCare).bear 7) :=
    ⟨_, ⟨rfl, rfl, fun _ => .inl rfl⟩, fun b hb => absurd (hk ▸ hb) (Nat.not_lt_zero b), rfl⟩
  exact ⟨_, ⟨_, step_take empty .starter, _, hidle rfl id, _, hidle rfl id, _, ⟨_, hborn rfl, rfl⟩, _,
    step_put rfl .starter (.fresh .plain 7), rfl⟩, rfl, rfl, rfl⟩

theorem exists_ended {k : Commons} {x : Caller} (hheld : k.held = some (.fresh .plain 7))
    (hslot : k.inSlot = some 0) (hward : k.ward 0 = .newborn 7) :
    ∃ k', Follows commonsWorld k (stepsBy x stepsToEnd) k' ∧ k'.held = none := by
  obtain ⟨m, htake, hcare, hward', hempty⟩ : ∃ m,
      commonsWorld (x, .slot .take) k (some (.fresh .plain 7)) m ∧ m.care x = some 0 ∧
        m.ward 0 = .newborn 7 ∧ m.held = none := by
    rw [← hheld]
    refine ⟨_, step_take k x, (Function.update_self ..).trans ?_, hward, rfl⟩
    rw [hslot]
    rfl
  have hends : Follows wardWorld (m.ward 0) [⟨.hasExited 7, false⟩, ⟨.terminate 7, ()⟩,
      ⟨.awaitExit 7 0, true⟩, ⟨.removeFile "logs/node.log", .ok ()⟩,
      ⟨.removeFile "logs/node.log", .ok ()⟩] ⟨7, .gone, [.asked, .reaped]⟩ := by
    rw [hward']
    exact ⟨.newborn 7, ⟨_, .inl rfl, rfl, rfl⟩, ⟨7, .living, [.asked]⟩, ⟨_, .inl rfl, rfl⟩,
      ⟨7, .gone, [.asked, .reaped]⟩, ⟨_, .inr ⟨rfl, rfl⟩, by decide, rfl⟩,
      _, ⟨_, .inl rfl, rfl⟩, _, ⟨_, .inl rfl, rfl⟩, rfl⟩
  obtain ⟨k', hk', hheld'⟩ := exists_follows (by simp [MachineCall.Spawns]) hcare hends
  exact ⟨k', ⟨m, htake, hk'⟩, hheld'.trans hempty⟩

end Commons

/-- The steps of a teardown that ends a node between its being put into the slot and the look of the
start. -/
def thwartedRun : Contest :=
  stepsBy .starter stepsToPut ++ (stepsBy (.other 0) stepsToEnd ++
    stepsBy .starter [⟨.slot .confirm, .error SlotSection.stoppedMeanwhile⟩])

theorem shareOf_other_thwartedRun (i : Nat) :
    shareOf (.other i) thwartedRun = if i = 0 then stepsToEnd else [] := by
  split
  · next hi =>
      subst hi
      rfl
  · next hi =>
      have hne : Caller.other 0 ≠ .other i := fun hsame => hi (Caller.other.inj hsame).symm
      have hstarter : Caller.starter ≠ .other i := nofun
      simp only [thwartedRun, shareOf_append, shareOf_stepsBy_of_ne hne,
        shareOf_stepsBy_of_ne hstarter, List.append_nil]

theorem contended_start_plain : ∃ run k' b, ∃ s : Startup Commons.empty run k',
    Commons.empty.Quiet ∧ Contended .plain Commons.empty run k' ∧ s.TakenBy 0 ∧
      s.Thwarted .plain b 0 ∧ Returned .plain run ∧ k'.held = none ∧ (k'.ward b).life = .gone := by
  obtain ⟨stored, hstoring, hheld, hslot, hward⟩ := Commons.exists_stored
  obtain ⟨checking, hending, hempty⟩ := Commons.exists_ended (x := .other 0) hheld hslot hward
  obtain ⟨checked, hlook⟩ : ∃ checked, commonsWorld (.starter, .slot .confirm) checking
      (.error SlotSection.stoppedMeanwhile) checked :=
    ⟨_, Commons.step_confirm_of_empty hempty .starter⟩
  have hstart : (NodeSlot.start .plain).Leads (shareOf .starter thwartedRun)
      (.error SlotSection.stoppedMeanwhile) :=
    .ask (.ask (.ask (.ask (.ask (.ask (.done _))))))
  have hteardown : NodeSlot.teardown.Leads (shareOf (.other 0) thwartedRun) () :=
    .ask (.ask (.ask (.ask (.ask (.ask (.done _))))))
  have hrun : Contended .plain Commons.empty thwartedRun checked := by
    refine ⟨⟨_, hstart.advances⟩, fun i => ?_,
      follows_append.mpr ⟨_, hstoring, follows_append.mpr ⟨_, hending, _, hlook, rfl⟩⟩⟩
    by_cases hi : i = 0
    · subst hi
      exact ⟨_, hteardown.advances⟩
    · rw [shareOf_other_thwartedRun, if_neg hi]
      exact ⟨_, .here _⟩
  have hreturned : Returned .plain thwartedRun := by
    refine ⟨⟨_, hstart⟩, fun i hi => ?_⟩
    by_cases h0 : i = 0
    · subst h0
      exact hteardown
    · rw [shareOf_other_thwartedRun, if_neg h0] at hi
      exact absurd rfl hi
  let s : Startup Commons.empty thwartedRun checked :=
    { before := stepsBy .starter (stepsToPut.take 4)
      handle := .fresh .plain 7
      stored := stored
      middle := stepsBy (.other 0) stepsToEnd
      checking := checking
      looked := .error SlotSection.stoppedMeanwhile
      checked := checked
      after := []
      run_eq := rfl
      storing := hstoring
      settling := hending
      looking := hlook
      ending := rfl }
  have htaken : s.TakenBy 0 := ⟨.fresh .plain 7, List.mem_cons_self⟩
  obtain ⟨-, hlooked, -, hleft⟩ := contended_start Commons.empty_quiet hrun
  obtain ⟨b, -, -, -, hthwarted, -⟩ := hlooked s
  have hend := hthwarted 0 htaken
  exact ⟨_, _, b, s, Commons.empty_quiet, hrun, htaken, hend, hreturned, hend.stays_empty,
    hend.gone hteardown⟩

end NodeTrial
