import NodeTrial.Proofs.Node.Commons
import NodeTrial.Proofs.Node.StartSteps

namespace NodeTrial

open Dialogue

namespace NodeSlot

/-- How a teardown goes on once it has taken a node out of the slot. -/
def ending (h : NodeHandle) : Thread Unit := do
  let h ← Thread.care h.stop
  Thread.care h.drop

theorem ending_asks (h : NodeHandle) : (ending h).Asks ThreadStep.BearsNone := by
  have hstop (h : NodeHandle) : h.stop.Asks fun c => ¬ c.Spawns :=
    NodeHandle.stop_asks MachineCall.not_spawns_of_child id
  refine Asks.bind (Thread.care_asks (hstop h)) fun h' => ?_
  exact Thread.care_asks (Asks.bind (hstop h') fun _ => trivial)

end NodeSlot

namespace Commons

variable {k k' : Commons} {x y : Caller} {b : Nat} {h : NodeHandle}
  {run : Joint Caller ThreadStep ThreadStep.Answer}

/-- A caller has a child in care, and nobody else has. -/
structure Owns (x : Caller) (b : Nat) (k : Commons) : Prop where
  born : b < k.births
  own : k.care x = some b
  others : ∀ y, y ≠ x → k.care y ≠ some b
  outside : k.inSlot ≠ some b

theorem Orderly.owns (hk : k.Orderly) (hcare : k.care x = some b) : Owns x b k where
  born := hk.born x b hcare
  own := hcare
  others _ hy hother := hy (hk.apart _ _ b hother hcare)
  outside := hk.outside x b hcare

theorem Owns.aside {q : ThreadStep} {a : q.Answer} (hk : Owns x b k) (hy : y ≠ x)
    (h : commonsWorld (y, q) k a k') :
    Owns x b k' ∧ (k.ward b).Drift (k'.ward b) ∧ k'.marks b = k.marks b := by
  obtain ⟨c, hc, ht⟩ := exists_treats h
  have hother : c ≠ some b := by
    rcases hc with rfl | rfl
    · exact hk.others y hy
    · exact hk.outside
  refine ⟨?_, ht.drift b hk.born hother, (ht.marks_eq b).resolve_left fun hb => hother hb.2⟩
  have hborn := Nat.lt_of_lt_of_le hk.born ht.births
  cases q with
  | machine c =>
      have hasked := asked_of_step h
      refine ⟨hborn, (hasked.others x hy.symm).trans hk.own, fun z hz hcare => ?_, ?_⟩
      · rcases hasked.care_cases hcare with hold | ⟨-, rfl, -⟩
        · exact hk.others z hz hold
        · exact Nat.lt_irrefl _ hk.born
      · rw [hasked.inSlot]
        exact hk.outside
  | slot q =>
      obtain ⟨left, n, -, rfl⟩ := h
      cases q with
      | take =>
          refine ⟨hborn, (Function.update_of_ne hy.symm ..).trans hk.own, fun z hz hcare => ?_,
            nofun⟩
          rcases care_of_take hcare with hold | ⟨-, hin⟩
          · exact hk.others z hz hold
          · exact hk.outside hin
      | put handle =>
          refine ⟨hborn, (Function.update_of_ne hy.symm ..).trans hk.own, fun z hz hcare => ?_,
            hk.others y hy⟩
          exact hk.others z hz (care_of_put hcare).2
      | _ =>
          refine ⟨hborn, hk.own, hk.others, fun hin => ?_⟩
          obtain ⟨-, -, hslot⟩ := Option.bind_eq_some_iff.mp hin
          exact hk.outside hslot
  | request q =>
      obtain rfl : k' = k := h
      exact hk

theorem Owns.asks {c : MachineCall} {a : c.Answer} (hk : Owns x b k) (hc : ¬ c.Spawns)
    (h : commonsWorld (x, .machine c) k a k') :
    Owns x b k' ∧ wardWorld c (k.ward b) a (k'.ward b) := by
  have hasked := asked_of_step h
  obtain ⟨n, hn, rfl⟩ := h
  have hattends := nurseryWorld_attends hc hn
  refine ⟨⟨Nat.lt_of_lt_of_le hk.born hasked.treats.births, ?_, ?_, hk.outside⟩,
    hattends.own b hk.own⟩
  · exact (Function.update_self ..).trans (hattends.inCare.trans hk.own)
  · exact fun y hy hcare => hk.others y hy ((hasked.others y hy).symm.trans hcare)

end Commons

theorem follows_of_drift {w m w' : Ward} {t : List (Exchange ThreadStep ThreadStep.Answer)}
    (hdrift : w.Drift m) (ht : ∀ e ∈ t, e.1.BearsNone)
    (h : Follows (slotWorld wardWorld) ⟨none, m⟩ t ⟨none, w'⟩) :
    ∃ v, Follows (slotWorld wardWorld) ⟨none, w⟩ t ⟨none, v⟩ ∧ v.Drift w' := by
  cases t with
  | nil =>
      obtain rfl : w' = m := congrArg Slotted.state h
      exact ⟨w, rfl, hdrift⟩
  | cons e t =>
      obtain ⟨q, a⟩ := e
      obtain ⟨k, hk, hrest⟩ := h
      cases q with
      | machine c =>
          obtain ⟨hheld, n, hn, hanswer⟩ := hk
          exact ⟨w', ⟨k, ⟨hheld, n, hdrift.trans hn, hanswer⟩, hrest⟩, .inl rfl⟩
      | _ => exact (ht _ List.mem_cons_self).elim

namespace Commons

variable {k k' : Commons} {x y : Caller} {b : Nat} {h : NodeHandle}
  {run : Joint Caller ThreadStep ThreadStep.Answer}

/-- Whatever the others do meanwhile, what a caller does to its child it does to it alone. -/
theorem Owns.follows (hk : Owns x b k) (hshare : ∀ e ∈ shareOf x run, e.1.BearsNone)
    (h : Follows commonsWorld k run k') :
    Owns x b k' ∧ (shareOf x run = [] → k'.marks b = k.marks b) ∧
      ∃ w, Follows (slotWorld wardWorld) ⟨none, k.ward b⟩ (shareOf x run) ⟨none, w⟩ ∧
        w.Drift (k'.ward b) := by
  induction run generalizing k with
  | nil =>
      obtain rfl : k' = k := h
      exact ⟨hk, fun _ => rfl, k'.ward b, rfl, .inl rfl⟩
  | cons e run ih =>
      obtain ⟨⟨y, q⟩, a⟩ := e
      obtain ⟨m, he, hrest⟩ := h
      by_cases hy : y = x
      · subst hy
        rw [shareOf_cons_self] at hshare ⊢
        obtain ⟨hq, hlater⟩ := List.forall_mem_cons.mp hshare
        cases q with
        | machine c =>
            obtain ⟨hm, hward⟩ := hk.asks hq he
            obtain ⟨hk', -, w, hw, hdrift⟩ := ih hm hlater hrest
            exact ⟨hk', nofun, w, ⟨⟨none, m.ward b⟩, ⟨rfl, hward⟩, hw⟩, hdrift⟩
        | _ => exact hq.elim
      · rw [shareOf_cons_of_ne hy] at hshare ⊢
        obtain ⟨hm, hward, hmarks⟩ := hk.aside hy he
        obtain ⟨hk', hsame, w, hw, hdrift⟩ := ih hm hshare hrest
        obtain ⟨v, hv, hdrift'⟩ := follows_of_drift hward hshare hw
        exact ⟨hk', fun hnone => (hsame hnone).trans hmarks, v, hv, hdrift'.trans hdrift⟩

theorem gone_of_follows (hb : b < k.births) (hgone : (k.ward b).life = .gone)
    (h : Follows commonsWorld k run k') : (k'.ward b).life = .gone := by
  refine (Follows.preserves (P := fun _ => True)
    (fun k => b < k.births ∧ (k.ward b).life = .gone) ?_ (fun _ _ => trivial) ⟨hb, hgone⟩ h).2
  rintro ⟨y, q⟩ k a k' - hstep ⟨hb, hgone⟩
  obtain ⟨c, -, ht⟩ := exists_treats hstep
  exact ⟨Nat.lt_of_lt_of_le hb ht.births, (ht.becomes b hb).gone hgone⟩

/-- The child of a caller that has stopped its node is gone. -/
theorem Owns.gone (hk : Owns x b k) (htends : h.Tends (k.ward b))
    (hending : (NodeSlot.ending h).Leads (shareOf x run) ())
    (hfollows : Follows commonsWorld k run k') : (k'.ward b).life = .gone := by
  obtain ⟨-, -, w, hw, hdrift⟩ :=
    hk.follows ((NodeSlot.ending_asks h).of_leads hending) hfollows
  obtain ⟨h', m, hstop, hdrop⟩ := plays_bind_iff.mp ⟨_, hending, hw⟩
  obtain ⟨-, hstop⟩ := Thread.slotWorld_care_iff.mp hstop
  obtain ⟨-, hdrop⟩ := Thread.slotWorld_care_iff.mp hdrop
  obtain ⟨htends', hgone⟩ := NodeHandle.stop_tends htends hstop
  obtain ⟨h'', hagain⟩ := NodeHandle.drop_cases hdrop
  exact hdrift.gone_iff.mpr (NodeHandle.stop_tends htends' hagain).2

end Commons

end NodeTrial
