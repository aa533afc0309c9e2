import NodeTrial.Proofs.Node.Orphans
import NodeTrial.Proofs.Node.SlotWorld
import NodeTrial.Proofs.Node.Ward
import Mathlib.Order.Basic

/-!
All the children that are ever started, by one handle or slot or another. A computation cares for
one child at a time: what it asks about a child is about that one, and of the others some may end
meanwhile. The number of a child that is gone may be given to one that is born later.
-/

namespace NodeTrial

open Dialogue

/-- The children that were started, in the order of their births, and the birth of the one that is
in care. -/
structure Nursery where
  births : Nat
  ward : Nat → Ward
  inCare : Option Nat

/-- Whether something asked of the machine is to start a child. -/
def MachineCall.Spawns : MachineCall → Prop
  | .spawn .. => True
  | _ => False

theorem MachineCall.not_spawns_of_child (c : MachineCall) (p : Pid) (h : c.child? = some p) :
    ¬ c.Spawns := by
  cases c with
  | spawn => cases h
  | _ => exact id

namespace Nursery

/-- Children may end by themselves. -/
structure Drift (n n' : Nursery) : Prop where
  births : n'.births = n.births
  inCare : n'.inCare = n.inCare
  ward : ∀ b, (n.ward b).Drift (n'.ward b)

/-- The machine answers about the child in care. -/
structure Attends (c : MachineCall) (a : c.Answer) (n n' : Nursery) : Prop where
  births : n'.births = n.births
  inCare : n'.inCare = n.inCare
  own : ∀ b, n.inCare = some b → wardWorld c (n.ward b) a (n'.ward b)
  others : ∀ b, n.inCare ≠ some b → (n.ward b).Drift (n'.ward b)

/-- A number is free that no child has but such as are gone. -/
def Free (n : Nursery) (p : Pid) : Prop :=
  ∀ b < n.births, (n.ward b).pid = p → (n.ward b).life = .gone

/-- A child is born, and is in care from then on. -/
def bear (n : Nursery) (p : Pid) : Nursery :=
  ⟨n.births + 1, Function.update n.ward n.births (.newborn p), some n.births⟩

/-- Something becomes of one child. -/
def become (n : Nursery) (b : Nat) (w : Ward) : Nursery :=
  { n with ward := Function.update n.ward b w }

/-- Children that are not gone have different numbers. -/
def Apart (n : Nursery) : Prop :=
  ∀ b < n.births, ∀ b' < n.births, (n.ward b).life ≠ .gone → (n.ward b').life ≠ .gone →
    (n.ward b).pid = (n.ward b').pid → b = b'

end Nursery

/-- The world of all children. A child that is started gets a number that is free. -/
def nurseryWorld : World MachineCall MachineCall.Answer Nursery
  | .spawn .., n, .ok p, n' => ∃ m, n.Drift m ∧ m.Free p ∧ n' = m.bear p
  | .spawn .., n, .error _, n' => n.Drift n'
  | c, n, a, n' => n.Attends c a n'

section

variable {n n' m : Nursery} {b : Nat} {w : Ward}

theorem nurseryWorld_attends {c : MachineCall} {a : c.Answer} (hc : ¬ c.Spawns)
    (h : nurseryWorld c n a n') : n.Attends c a n' := by
  cases c with
  | spawn => exact absurd trivial hc
  | _ => exact h

theorem nurseryWorld_of_attends {c : MachineCall} {a : c.Answer} (hc : ¬ c.Spawns)
    (h : n.Attends c a n') : nurseryWorld c n a n' := by
  cases c with
  | spawn => exact absurd trivial hc
  | _ => exact h

theorem nurseryWorld_cases {c : MachineCall} {a : c.Answer} (h : nurseryWorld c n a n') :
    (∃ p m, n.Drift m ∧ m.Free p ∧ n' = m.bear p) ∨ n.Drift n' ∨ n.Attends c a n' := by
  cases c with
  | spawn =>
      cases a with
      | ok p =>
          obtain ⟨m, hm⟩ := h
          exact .inl ⟨p, m, hm⟩
      | error e => exact .inr (.inl h)
  | _ => exact .inr (.inr h)

namespace Nursery

theorem bear_ward_self (n : Nursery) (p : Pid) : (n.bear p).ward n.births = .newborn p :=
  Function.update_self ..

theorem bear_ward_of_lt {p : Pid} (hb : b < n.births) : (n.bear p).ward b = n.ward b :=
  Function.update_of_ne (Nat.ne_of_lt hb) _ _

theorem become_ward_self (n : Nursery) (b : Nat) (w : Ward) : (n.become b w).ward b = w :=
  Function.update_self ..

theorem become_ward_of_ne {b' : Nat} (hne : b' ≠ b) : (n.become b w).ward b' = n.ward b' :=
  Function.update_of_ne hne _ _

theorem become_become (n : Nursery) (b : Nat) (w w' : Ward) :
    (n.become b w).become b w' = n.become b w' := by
  simp only [become, Function.update_idem]

theorem become_self (n : Nursery) (b : Nat) : n.become b (n.ward b) = n :=
  congrArg (Nursery.mk n.births · n.inCare) (Function.update_eq_self b n.ward)

/-- A child is there and not in care, and nothing was done to it. -/
structure Spares (b : Nat) (w : Ward) (n : Nursery) : Prop where
  born : b < n.births
  elsewhere : n.inCare ≠ some b
  drift : w.Drift (n.ward b)

theorem Spares.step {c : MachineCall} {a : c.Answer} (h : nurseryWorld c n a n')
    (hn : Spares b w n) : Spares b w n' := by
  rcases nurseryWorld_cases h with ⟨p, m, hdrift, -, rfl⟩ | hdrift | hattends
  · have hb : b < m.births := hn.born.trans_eq hdrift.births.symm
    refine ⟨Nat.lt_succ_of_lt hb, fun hcare => ?_, ?_⟩
    · exact Nat.ne_of_gt hb (Option.some.inj hcare)
    · rw [bear_ward_of_lt hb]
      exact hn.drift.trans (hdrift.ward b)
  · refine ⟨hn.born.trans_eq hdrift.births.symm, ?_, hn.drift.trans (hdrift.ward b)⟩
    rw [hdrift.inCare]
    exact hn.elsewhere
  · refine ⟨hn.born.trans_eq hattends.births.symm, ?_, hn.drift.trans (hattends.others b ?_)⟩
    · rw [hattends.inCare]
      exact hn.elsewhere
    · exact hn.elsewhere

theorem Attends.becomes {c : MachineCall} {a : c.Answer} (h : n.Attends c a n') (b : Nat) :
    (n.ward b).Becomes (n'.ward b) := by
  by_cases hb : n.inCare = some b
  · exact wardWorld_becomes (h.own b hb)
  · exact (h.others b hb).becomes

/-- A child is there that came from another. -/
def Raises (b : Nat) (w : Ward) (n : Nursery) : Prop := b < n.births ∧ w.Becomes (n.ward b)

theorem Raises.step {c : MachineCall} {a : c.Answer} (h : nurseryWorld c n a n')
    (hn : Raises b w n) : Raises b w n' := by
  obtain ⟨hb, hw⟩ := hn
  rcases nurseryWorld_cases h with ⟨p, m, hdrift, -, rfl⟩ | hdrift | hattends
  · have hb' : b < m.births := hb.trans_eq hdrift.births.symm
    refine ⟨Nat.lt_succ_of_lt hb', ?_⟩
    rw [bear_ward_of_lt hb']
    exact hw.trans (hdrift.ward b).becomes
  · exact ⟨hb.trans_eq hdrift.births.symm, hw.trans (hdrift.ward b).becomes⟩
  · exact ⟨hb.trans_eq hattends.births.symm, hw.trans (hattends.becomes b)⟩

theorem Apart.of_becomes (hn : n.Apart) (hbirths : n'.births = n.births)
    (hward : ∀ b, (n.ward b).Becomes (n'.ward b)) : n'.Apart := by
  intro b hb b' hb' hlife hlife' hpid
  rw [hbirths] at hb hb'
  rw [(hward b).pid_eq, (hward b').pid_eq] at hpid
  exact hn b hb b' hb' (fun hgone => hlife ((hward b).gone hgone))
    (fun hgone => hlife' ((hward b').gone hgone)) hpid

theorem Apart.bear {p : Pid} (hn : n.Apart) (hp : n.Free p) : (n.bear p).Apart := by
  have hnew {b : Nat} (hb : b < n.births) (hlife : (n.ward b).life ≠ .gone) :
      (n.ward b).pid ≠ p := fun hpid => hlife (hp b hb hpid)
  intro b hb b' hb' hlife hlife' hpid
  rcases Nat.lt_succ_iff_lt_or_eq.mp hb with hb | rfl
  · rw [bear_ward_of_lt hb] at hlife hpid
    rcases Nat.lt_succ_iff_lt_or_eq.mp hb' with hb' | rfl
    · rw [bear_ward_of_lt hb'] at hlife' hpid
      exact hn b hb b' hb' hlife hlife' hpid
    · rw [bear_ward_self] at hpid
      exact absurd hpid (hnew hb hlife)
  · rcases Nat.lt_succ_iff_lt_or_eq.mp hb' with hb' | rfl
    · rw [bear_ward_of_lt hb'] at hlife' hpid
      rw [bear_ward_self] at hpid
      exact absurd hpid.symm (hnew hb' hlife')
    · rfl

theorem Apart.step {c : MachineCall} {a : c.Answer} (h : nurseryWorld c n a n') (hn : n.Apart) :
    n'.Apart := by
  rcases nurseryWorld_cases h with ⟨p, m, hdrift, hfree, rfl⟩ | hdrift | hattends
  · exact (hn.of_becomes hdrift.births fun b => (hdrift.ward b).becomes).bear hfree
  · exact hn.of_becomes hdrift.births fun b => (hdrift.ward b).becomes
  · exact hn.of_becomes hattends.births hattends.becomes

/-- What holds of the children beside any computation: they stay apart, nothing is done to one that
is not in care at first, and each stays what it is. -/
structure Leaves (n n' : Nursery) : Prop where
  apart : n.Apart → n'.Apart
  spares : ∀ b < n.births, n.inCare ≠ some b → (n.ward b).Drift (n'.ward b)
  raises : ∀ b < n.births, b < n'.births ∧ (n.ward b).Becomes (n'.ward b)

theorem Leaves.of_plays {α : Type} {d : Care α} {a : α} (h : d.Plays nurseryWorld n a n') :
    n.Leaves n' where
  apart := h.preserves Apart fun _ _ _ _ => Apart.step
  spares b hb hcare :=
    (h.preserves (Spares b (n.ward b)) (fun _ _ _ _ => Spares.step) ⟨hb, hcare, .inl rfl⟩).drift
  raises b hb := h.preserves (Raises b (n.ward b)) (fun _ _ _ _ => Raises.step) ⟨hb, rfl, id⟩

theorem Leaves.of_thread {α : Type} {t : Thread α} {a : α} {k k' : Slotted Nursery}
    (h : t.Plays (slotWorld nurseryWorld) k a k') : k.state.Leaves k'.state where
  apart := slotWorld_preserves h Apart fun _ _ _ _ => Apart.step
  spares b hb hcare :=
    (slotWorld_preserves h (Spares b (k.state.ward b)) (fun _ _ _ _ => Spares.step)
      ⟨hb, hcare, .inl rfl⟩).drift
  raises b hb :=
    slotWorld_preserves h (Raises b (k.state.ward b)) (fun _ _ _ _ => Raises.step) ⟨hb, rfl, id⟩

theorem Leaves.of_drift (h : n.Drift n') : n.Leaves n' where
  apart hn := hn.of_becomes h.births fun b => (h.ward b).becomes
  spares b _ _ := h.ward b
  raises b hb := ⟨hb.trans_eq h.births.symm, (h.ward b).becomes⟩

theorem attends_plays {α : Type} {d : Care α} {a : α} (hd : d.Asks fun c => ¬ c.Spawns)
    (h : d.Plays nurseryWorld n a n') (hb : n.inCare = some b) :
    n'.births = n.births ∧ n'.inCare = some b ∧ d.Plays wardWorld (n.ward b) a (n'.ward b) ∧
      ∀ b', b' ≠ b → (n.ward b').Drift (n'.ward b') := by
  obtain ⟨t, hleads, hfollows⟩ := h
  induction hleads generalizing n with
  | done a =>
      obtain rfl := hfollows
      exact ⟨rfl, hb, ⟨[], .done a, rfl⟩, fun b' _ => .inl rfl⟩
  | ask rest ih =>
      obtain ⟨m, hm, hrest⟩ := hfollows
      have hattends := nurseryWorld_attends hd.1 hm
      obtain ⟨hbirths, hcare, ⟨t, hleads, hward⟩, hothers⟩ :=
        ih (hd.2 _) (hattends.inCare.trans hb) hrest
      refine ⟨hbirths.trans hattends.births, hcare,
        ⟨_, .ask hleads, m.ward b, hattends.own b hb, hward⟩, fun b' hne => ?_⟩
      refine (hattends.others b' ?_).trans (hothers b' hne)
      rw [hb]
      exact fun hsame => hne (Option.some.inj hsame).symm

/-- Whatever can be done to a child alone can be done to it among the others. -/
theorem plays_of_ward {α : Type} {d : Care α} {a : α} {w' : Ward}
    (hd : d.Asks fun c => ¬ c.Spawns) (h : d.Plays wardWorld (n.ward b) a w')
    (hb : n.inCare = some b) : d.Plays nurseryWorld n a (n.become b w') := by
  obtain ⟨t, hleads, hfollows⟩ := h
  induction hleads generalizing n with
  | done a =>
      obtain rfl : w' = n.ward b := hfollows
      rw [become_self]
      exact ⟨[], .done a, rfl⟩
  | @ask q next c t a rest ih =>
      obtain ⟨v, hv, hrest⟩ := hfollows
      rw [← become_ward_self n b v] at hrest
      obtain ⟨t', hleads, hn⟩ := ih (n := n.become b v) (hd.2 _) hb hrest
      rw [become_become] at hn
      refine ⟨⟨q, c⟩ :: t', .ask hleads, n.become b v,
        nurseryWorld_of_attends hd.1 ⟨rfl, rfl, fun b' hb' => ?_, fun b' hb' => ?_⟩, hn⟩
      · obtain rfl := Option.some.inj (hb.symm.trans hb')
        rw [become_ward_self]
        exact hv
      · rw [become_ward_of_ne]
        · exact .inl rfl
        · rintro rfl
          exact hb' hb

/-- What is between two uses: nothing was done to a child, or it is gone, and the handle, if there
is one, is about the child in care. -/
structure Keeps (held : Option NodeHandle) (n : Nursery) : Prop where
  sound : ∀ b < n.births, (n.ward b).Sound
  tends : ∀ h, held = some h → ∃ b < n.births, n.inCare = some b ∧ h.Tends (n.ward b)

/-- The child in care is gone in the end. -/
def Ends (n n' : Nursery) : Prop := ∀ b, n.inCare = some b → (n'.ward b).life = .gone

variable {h h' : NodeHandle} {held : Option NodeHandle}

theorem Keeps.of_sound (hn : ∀ b < n.births, (n.ward b).Sound) : Keeps none n :=
  ⟨hn, fun _ hheld => (nomatch hheld)⟩

theorem Drift.trans (h : n.Drift m) (h' : m.Drift n') : n.Drift n' :=
  ⟨h'.births.trans h.births, h'.inCare.trans h.inCare, fun b => (h.ward b).trans (h'.ward b)⟩

theorem Drift.refl (n : Nursery) : n.Drift n := ⟨rfl, rfl, fun _ => .inl rfl⟩

theorem Keeps.drift (hn : Keeps held n) (hdrift : n.Drift n') : Keeps held n' := by
  refine ⟨fun b hb => ?_, fun h hheld => ?_⟩
  · exact (hn.sound b (hb.trans_eq hdrift.births)).drift (hdrift.ward b)
  · obtain ⟨b, hb, hcare, htends⟩ := hn.tends h hheld
    exact ⟨b, hb.trans_eq hdrift.births.symm, hdrift.inCare.trans hcare,
      htends.drift (hdrift.ward b)⟩

/-- What the use of a handle does to its child, it does to the child in care. -/
theorem Keeps.attend {α : Type} {d : Care α} {a : α} {R : Ward → Ward → Prop}
    (hn : Keeps (some h) n) (hd : d.Asks fun c => ¬ c.Spawns) (hplays : d.Plays nurseryWorld n a n')
    (hspec : ∀ w w', h.Tends w → d.Plays wardWorld w a w' → h'.Tends w' ∧ R w w') :
    Keeps (some h') n' ∧ ∀ b, n.inCare = some b → R (n.ward b) (n'.ward b) := by
  obtain ⟨b, hb, hcare, htends⟩ := hn.tends h rfl
  obtain ⟨hbirths, hcare', hward, hothers⟩ := attends_plays hd hplays hcare
  obtain ⟨htends', hR⟩ := hspec _ _ htends hward
  refine ⟨⟨fun b' hb' => ?_, fun g hg => ?_⟩, fun b' hb' => ?_⟩
  · by_cases hsame : b' = b
    · rw [hsame]
      exact htends'.sound
    · exact (hn.sound b' (hb'.trans_eq hbirths)).drift (hothers b' hsame)
  · obtain rfl := Option.some.inj hg
    exact ⟨b, hb.trans_eq hbirths.symm, hcare', htends'⟩
  · obtain rfl := Option.some.inj (hcare.symm.trans hb')
    exact hR

theorem Keeps.stop (hn : Keeps (some h) n) (hstop : h.stop.Plays nurseryWorld n h' n') :
    Keeps (some h') n' ∧ n.Ends n' :=
  hn.attend (R := fun _ w' => w'.life = .gone)
    (NodeHandle.stop_asks MachineCall.not_spawns_of_child id) hstop
    fun _ _ ht hplays => NodeHandle.stop_tends ht hplays

theorem Keeps.drop {u : Unit} (hn : Keeps (some h) n) (hdrop : h.drop.Plays nurseryWorld n u n') :
    Keeps none n' := by
  obtain ⟨h', hstop⟩ := NodeHandle.drop_cases hdrop
  exact .of_sound (hn.stop hstop).1.sound

theorem Keeps.isAlive {alive : Bool} (hn : Keeps (some h) n)
    (hlook : h.isAlive.Plays nurseryWorld n (alive, h') n') :
    Keeps (some h') n' ∧ (alive = false → n.Ends n') ∧
      ∀ b, n.inCare = some b → (n.ward b).life = .gone → alive = false := by
  obtain ⟨hkeeps, hward⟩ :=
    hn.attend (R := fun w w' => (alive = false → w'.life = .gone) ∧ (w.life = .gone → alive = false))
      (NodeHandle.isAlive_asks MachineCall.not_spawns_of_child) hlook
      fun _ _ ht hplays => NodeHandle.isAlive_tends ht hplays
  exact ⟨hkeeps, fun halive b hb => (hward b hb).1 halive, fun b hb => (hward b hb).2⟩

theorem Keeps.confirm {r : Except StartFailure Unit} (hn : Keeps (some h) n)
    (hconfirm : h.confirm.Plays nurseryWorld n (r, h') n') :
    Keeps (some h') n' ∧ ∀ e, r = .error e → n.Ends n' := by
  obtain ⟨hkeeps, hward⟩ :=
    hn.attend (R := fun _ w' => ∀ e, r = .error e → w'.life = .gone)
      (NodeHandle.confirm_asks MachineCall.not_spawns_of_child (fun _ => id) fun _ => id) hconfirm
      fun _ _ ht hplays => NodeHandle.confirm_tends ht hplays
  exact ⟨hkeeps, fun e he b hb => hward b hb e he⟩

theorem idle_plays {c : MachineCall} {a : c.Answer}
    (h : (Care.ask c).Plays nurseryWorld n a n') (hidle : c.IsIdle) : n.Drift n' := by
  have hspawns : ¬ c.Spawns := by
    cases c with
    | spawn => exact fun _ => hidle
    | _ => exact id
  have hattends := nurseryWorld_attends hspawns (plays_question_iff.mp h)
  refine ⟨hattends.births, hattends.inCare, fun b => ?_⟩
  by_cases hb : n.inCare = some b
  · exact Care.idle_drifts (plays_question_iff.mpr (hattends.own b hb)) hidle
  · exact hattends.others b hb

theorem settle_plays {time : Nat} {u : Unit}
    (h : (NodeHandle.settle time).Plays nurseryWorld n u n') : n.Drift n' := by
  rcases NodeHandle.settle_cases h with rfl | hsleep
  · exact .refl _
  · exact idle_plays hsleep trivial

theorem prepareLog_plays {path : String} {r : Except NodeHandle.SpawnError Unit}
    (h : (NodeHandle.prepareLog path).Plays nurseryWorld n r n') : n.Drift n' := by
  rcases NodeHandle.prepareLog_cases h with rfl | ⟨directory, created, hcreate⟩
  · exact .refl _
  · exact idle_plays hcreate trivial

theorem spawnChild_plays {l : Launch} {r : Except NodeHandle.SpawnError Pid}
    (h : (NodeHandle.spawnChild l).Plays nurseryWorld n r n') :
    (∃ e, r = .error e ∧ n.Drift n') ∨ ∃ p m, r = .ok p ∧ n.Drift m ∧ n' = m.bear p := by
  rcases NodeHandle.spawnChild_cases h with
    ⟨e, rfl, hprepare⟩ | ⟨e, m, rfl, hprepare, hcreate⟩ |
      ⟨m, log, m', spawned, rfl, hprepare, hcreate, hask⟩
  · exact .inl ⟨e, rfl, prepareLog_plays hprepare⟩
  · exact .inl ⟨_, rfl, (prepareLog_plays hprepare).trans (idle_plays hcreate trivial)⟩
  · have hdrift := (prepareLog_plays hprepare).trans (idle_plays hcreate trivial)
    have hspawned := plays_question_iff.mp hask
    cases spawned with
    | error e => exact .inl ⟨_, rfl, hdrift.trans hspawned⟩
    | ok p =>
        obtain ⟨m'', hdrift', -, rfl⟩ := hspawned
        exact .inr ⟨p, m'', rfl, hdrift.trans hdrift', rfl⟩

theorem Keeps.bear {l : Launch} {p : Pid} (hn : Keeps none n) :
    Keeps (some (.fresh l p)) (n.bear p) := by
  have hfresh := NodeHandle.tends_fresh l p
  rw [← bear_ward_self n p] at hfresh
  refine ⟨fun b hb => ?_, fun h hh => ?_⟩
  · rcases Nat.lt_succ_iff_lt_or_eq.mp hb with hb | rfl
    · rw [bear_ward_of_lt hb]
      exact hn.sound b hb
    · exact hfresh.sound
  · obtain rfl := Option.some.inj hh
    exact ⟨n.births, Nat.lt_succ_self _, rfl, hfresh⟩

theorem Keeps.spawn {l : Launch} {r : Except StartFailure NodeHandle} (hn : Keeps none n)
    (h : (NodeHandle.spawn l).Plays nurseryWorld n r n') : Keeps r.toOption n' := by
  rcases NodeHandle.spawn_cases h with ⟨p, rfl, hchild⟩ | ⟨e, m, rfl, hchild, hremove⟩
  · rcases spawnChild_plays hchild with ⟨e, he, -⟩ | ⟨q, m, hq, hdrift, rfl⟩
    · cases he
    · obtain rfl := Except.ok.inj hq
      exact (hn.drift hdrift).bear
  · obtain ⟨removed, hask⟩ := NodeHandle.removeLog_cases hremove
    rcases spawnChild_plays hchild with ⟨_, -, hdrift⟩ | ⟨q, m', hq, -⟩
    · exact hn.drift (hdrift.trans (idle_plays hask trivial))
    · cases hq

theorem Keeps.start {l : Launch} {r : Except StartFailure NodeHandle} (hn : Keeps none n)
    (h : (NodeHandle.start l).Plays nurseryWorld n r n') : Keeps r.toOption n' := by
  rcases NodeHandle.start_cases h with ⟨e, rfl, hspawn⟩ | ⟨h, m, m', hspawn, hsettle, hlooked⟩
  · exact hn.spawn hspawn
  · have hsettled : Keeps (some h) m' := (hn.spawn hspawn).drift (settle_plays hsettle)
    rcases hlooked with ⟨rfl, hconfirm⟩ | ⟨e, h', m'', rfl, hconfirm, hdrop⟩
    · exact (hsettled.confirm hconfirm).1
    · exact (hsettled.confirm hconfirm).1.drop hdrop

variable {k k' : Slotted Nursery}

theorem Keeps.teardown {u : Unit} (hk : Keeps k.held k.state)
    (h : NodeSlot.teardown.Plays (slotWorld nurseryWorld) k u k') : Keeps none k'.state := by
  obtain ⟨-, ⟨-, hsame⟩ | ⟨handle, stopped, m, hheld, hstop, hdrop⟩⟩ := NodeSlot.teardown_cases h
  · rw [hsame]
    exact .of_sound hk.sound
  · rw [hheld] at hk
    exact (hk.stop hstop).1.drop hdrop

theorem Keeps.isRunning {running : Bool} (hk : Keeps k.held k.state)
    (h : NodeSlot.isRunning.Plays (slotWorld nurseryWorld) k running k') :
    Keeps k'.held k'.state ∧ (running = false → k.held ≠ none → k.state.Ends k'.state) ∧
      ∀ b, k.state.inCare = some b → (k.state.ward b).life = .gone → running = false := by
  rcases NodeSlot.isRunning_cases h with
    ⟨hnone, rfl, rfl⟩ | ⟨handle, handle', hheld, hheld', hlook⟩
  · exact ⟨hk, fun _ hheld => absurd hnone hheld, fun _ _ _ => rfl⟩
  · rw [hheld] at hk
    rw [hheld']
    obtain ⟨hkeeps, hends, hgone⟩ := hk.isAlive hlook
    exact ⟨hkeeps, fun hrunning _ => hends hrunning, hgone⟩

theorem Keeps.use {u : SlotUse} {a : u.Answer} (hk : Keeps k.held k.state)
    (h : u.thread.Plays (slotWorld nurseryWorld) k a k') : Keeps k'.held k'.state := by
  have hteardown {m : Slotted Nursery} (h : NodeSlot.teardown.Plays (slotWorld nurseryWorld) k () m) :
      Keeps m.held m.state := by
    rw [(NodeSlot.teardown_cases h).1]
    exact hk.teardown h
  cases u with
  | start l =>
      obtain ⟨m, started, hdown, hstart, hheld, -⟩ := NodeSlot.start_cases h
      rw [hheld]
      exact (hk.teardown hdown).start hstart
  | isRunning => exact (hk.isRunning h).1
  | stop => exact hteardown h
  | teardown => exact hteardown h
  | dropGuard => exact hteardown (NodeSlot.guarded_pure_cases h)

end Nursery

end

end NodeTrial
