import NodeTrial.Proofs.Dialogue.Joint
import NodeTrial.Proofs.Node.Nursery

/-!
A slot that several callers share. Each use of the slot is carried out as a whole, and between two
uses the callers ask the machine in whatever order. A child is with the slot or in the care of one
caller: who takes it out of the slot has it in care from then on, and who puts it in gives it away.
Of each child it is remembered by whom something was done to it.
-/

namespace NodeTrial

open Dialogue

/-- Who uses the slot: the one who starts a node, and the others. -/
inductive Caller
  | starter
  | other (name : Nat)
  deriving DecidableEq, Repr

structure Commons where
  births : Nat
  ward : Nat → Ward
  held : Option NodeHandle
  /-- The child of the handle that the slot holds. -/
  inSlot : Option Nat
  /-- The child that a caller has in care, outside of the slot. -/
  care : Caller → Option Nat
  /-- The callers that did something to a child. -/
  marks : Nat → List Caller

namespace Commons

def nursery (k : Commons) (inCare : Option Nat) : Nursery := ⟨k.births, k.ward, inCare⟩

/-- After a caller asked the machine. It leaves its mark on each child of which something was
noted. -/
def marked (k : Commons) (x : Caller) (n : Nursery) : Commons :=
  { k with
    births := n.births
    ward := n.ward
    marks := fun b =>
      if b < k.births ∧ (n.ward b).notices ≠ (k.ward b).notices then k.marks b ++ [x]
      else k.marks b }

/-- After a caller used the slot, in which `left` is left. -/
def handed (k : Commons) (x : Caller) (left : Option NodeHandle) : SlotSection → Commons
  | .take =>
    { k with
      held := left
      inSlot := none
      care := Function.update k.care x (k.inSlot.or (k.care x)) }
  | .put _ =>
    { k with
      held := left
      inSlot := k.care x
      care := Function.update k.care x none }
  | _ => { k with held := left, inSlot := left.bind fun _ => k.inSlot }

end Commons

def commonsWorld : World (Caller × ThreadStep) (fun q => q.2.Answer) Commons
  | (x, .machine c), k, a, k' => ∃ n, nurseryWorld c (k.nursery (k.care x)) a n ∧
      k' = { k.marked x n with care := Function.update k.care x n.inCare }
  | (x, .slot q), k, a, k' => ∃ left n,
      (q.body k.held).Plays nurseryWorld (k.nursery k.inSlot) (a, left) n ∧
        k' = (k.marked x n).handed x left q
  | (_, .request _), k, _, k' => k' = k

/-- A step that puts nothing into the slot: it asks the machine, takes what is in the slot, or looks
at it. -/
def ThreadStep.PutsNone : ThreadStep → Prop
  | .machine _ | .slot .take | .slot .confirm => True
  | _ => False

/-- A step that asks the machine something else than to start a child. -/
def ThreadStep.BearsNone : ThreadStep → Prop
  | .machine c => ¬ c.Spawns
  | _ => False

theorem SlotSection.confirmHeld_tells {h : NodeHandle} {left : Option NodeHandle} {w w' : Ward}
    {r : Except StartFailure Unit} (ht : h.Tends w)
    (hconfirm : (confirmHeld (some h)).Plays wardWorld w (r, left) w') :
    r = .ok () ∧ left = some h ∧ w.life = .living ∧ w' = w ∨
      (∃ e, r = .error e) ∧ left = none ∧ w' = w.reap := by
  obtain ⟨⟨looked, h'⟩, m, hlook, hrest⟩ := plays_bind_iff.mp hconfirm
  have htells := NodeHandle.confirm_tells ht hlook
  cases looked with
  | ok _ =>
      obtain ⟨hresult, rfl⟩ := plays_pure_iff.mp hrest
      obtain ⟨rfl, rfl⟩ := Prod.mk.inj hresult
      rcases htells with ⟨-, hliving, rfl⟩ | ⟨⟨e, he⟩, -⟩
      · rcases NodeHandle.confirm_cases hlook with ⟨-, rfl, -⟩ | ⟨_, _, _, _, _, he, -⟩
        · exact .inl ⟨rfl, rfl, hliving, rfl⟩
        · cases he
      · cases he
  | error e =>
      obtain ⟨_, m', hdrop, hdone⟩ := plays_bind_iff.mp hrest
      obtain ⟨hresult, rfl⟩ := plays_pure_iff.mp hdone
      obtain ⟨rfl, rfl⟩ := Prod.mk.inj hresult
      obtain ⟨hafter, hgone⟩ := NodeHandle.confirm_tends ht hlook
      obtain ⟨stopped, hstop⟩ := NodeHandle.drop_cases hdrop
      obtain rfl := NodeHandle.stop_of_gone hafter (hgone e rfl) hstop
      rcases htells with ⟨hok, -⟩ | ⟨-, hreaped⟩
      · cases hok
      · exact .inr ⟨⟨e, rfl⟩, rfl, hreaped⟩

namespace Commons

variable {k k' m : Commons} {x y : Caller} {b : Nat} {h : NodeHandle}

/-! ## What a step does to the children -/

/-- A caller that deals with one child, or with none, leaves its mark on no other. -/
structure Treats (x : Caller) (c : Option Nat) (k k' : Commons) : Prop where
  births : k.births ≤ k'.births
  drift : ∀ b < k.births, c ≠ some b → (k.ward b).Drift (k'.ward b)
  becomes : ∀ b < k.births, (k.ward b).Becomes (k'.ward b)
  marks_eq : ∀ b, b < k.births ∧ c = some b ∨ k'.marks b = k.marks b
  marks : ∀ b, ∀ y ∈ k'.marks b, y ∈ k.marks b ∨ y = x

theorem treats_marked {c : Option Nat} {n : Nursery} (hleaves : (k.nursery c).Leaves n) :
    Treats x c k (k.marked x n) where
  births := by
    by_contra hless
    have hborn := (hleaves.raises n.births (Nat.lt_of_not_le hless)).1
    exact Nat.lt_irrefl _ hborn
  drift := hleaves.spares
  becomes b hb := (hleaves.raises b hb).2
  marks_eq b := by
    by_cases hb : b < k.births ∧ c = some b
    · exact .inl hb
    · right
      refine if_neg fun hnoted => hnoted.2 ?_
      have hother : c ≠ some b := fun hcare => hb ⟨hnoted.1, hcare⟩
      exact (hleaves.spares b hnoted.1 hother).notices_eq
  marks b y hy := by
    change y ∈ (if _ then k.marks b ++ [x] else k.marks b) at hy
    split at hy
    · rcases List.mem_append.mp hy with hy | hy
      · exact .inl hy
      · exact .inr (List.mem_singleton.mp hy)
    · exact .inl hy

theorem Treats.place {c : Option Nat} (ht : Treats x c k m) (held : Option NodeHandle)
    (inSlot : Option Nat) (care : Caller → Option Nat) :
    Treats x c k { m with held := held, inSlot := inSlot, care := care } :=
  ⟨ht.births, ht.drift, ht.becomes, ht.marks_eq, ht.marks⟩

theorem Treats.handed {c : Option Nat} (ht : Treats x c k m) (left : Option NodeHandle)
    (q : SlotSection) : Treats x c k (m.handed x left q) := by
  cases q <;> exact ht.place ..

theorem Treats.refl (x : Caller) (c : Option Nat) (k : Commons) : Treats x c k k where
  births := Nat.le_refl _
  drift _ _ _ := .inl rfl
  becomes _ _ := ⟨rfl, id⟩
  marks_eq _ := .inr rfl
  marks _ _ hy := .inl hy

/-! ## What a step can do -/

theorem marked_self (k : Commons) (x : Caller) (c : Option Nat) : k.marked x (k.nursery c) = k := by
  simp [marked, nursery]

/-- A caller asked the machine. It still has the child in care that it had, unless one was born. -/
structure Asked (x : Caller) (k k' : Commons) : Prop where
  treats : Treats x (k.care x) k k'
  held : k'.held = k.held
  inSlot : k'.inSlot = k.inSlot
  others : ∀ y, y ≠ x → k'.care y = k.care y
  own : k'.care x = k.care x ∨ k'.care x = some k.births ∧ k.births < k'.births

theorem asked_of_step {c : MachineCall} {a : c.Answer}
    (h : commonsWorld (x, .machine c) k a k') : Asked x k k' := by
  obtain ⟨n, hn, rfl⟩ := h
  have hcare : Function.update k.care x n.inCare x = n.inCare := Function.update_self ..
  refine ⟨(treats_marked (.of_plays (plays_question_iff.mpr hn))).place .., rfl, rfl,
    fun y hy => Function.update_of_ne hy .., ?_⟩
  change Function.update k.care x n.inCare x = _ ∨ Function.update k.care x n.inCare x = _ ∧ _
  rw [hcare]
  rcases nurseryWorld_cases hn with ⟨p, m, hdrift, -, rfl⟩ | hdrift | hattends
  · have hbirths : m.births = k.births := hdrift.births
    rw [← hbirths]
    exact .inr ⟨rfl, Nat.lt_succ_self _⟩
  · exact .inl hdrift.inCare
  · exact .inl hattends.inCare

theorem Asked.care_cases (h : Asked x k k') (hcare : k'.care y = some b) :
    k.care y = some b ∨ y = x ∧ b = k.births ∧ b < k'.births := by
  by_cases hy : y = x
  · subst hy
    rcases h.own with hsame | ⟨hborn, hlt⟩
    · exact .inl (hsame.symm.trans hcare)
    · obtain rfl := Option.some.inj (hborn.symm.trans hcare)
      exact .inr ⟨rfl, rfl, hlt⟩
  · exact .inl ((h.others y hy).symm.trans hcare)

theorem take_of_step {taken : Option NodeHandle} (h : commonsWorld (x, .slot .take) k taken k') :
    taken = k.held ∧ k' = { k with
      held := none
      inSlot := none
      care := Function.update k.care x (k.inSlot.or (k.care x)) } := by
  obtain ⟨left, n, hplays, rfl⟩ := h
  obtain ⟨hresult, rfl⟩ := plays_pure_iff.mp hplays
  obtain ⟨rfl, rfl⟩ := Prod.mk.inj hresult
  refine ⟨rfl, ?_⟩
  rw [marked_self]
  rfl

theorem put_of_step {u : Unit} (hempty : k.held = none)
    (hput : commonsWorld (x, .slot (.put h)) k u k') :
    k' = { k with
      held := some h
      inSlot := k.care x
      care := Function.update k.care x none } := by
  obtain ⟨left, n, hplays, rfl⟩ := hput
  rw [hempty] at hplays
  obtain ⟨hresult, rfl⟩ := plays_pure_iff.mp hplays
  obtain ⟨-, rfl⟩ := Prod.mk.inj hresult
  rw [marked_self]
  rfl

theorem confirm_of_empty {r : Except StartFailure Unit} (hempty : k.held = none)
    (h : commonsWorld (x, .slot .confirm) k r k') :
    r = .error SlotSection.stoppedMeanwhile ∧ k' = { k with held := none, inSlot := none } := by
  obtain ⟨left, n, hplays, rfl⟩ := h
  rw [hempty] at hplays
  obtain ⟨hresult, rfl⟩ := plays_pure_iff.mp hplays
  obtain ⟨rfl, rfl⟩ := Prod.mk.inj hresult
  refine ⟨rfl, ?_⟩
  rw [marked_self]
  rfl

/-- A look at the slot finds its child living, and then nothing is changed. Or it does not, and then
the slot is emptied, and the end of the child was taken note of and nothing else was done to it. -/
theorem confirm_of_holds {r : Except StartFailure Unit} (hheld : k.held = some h)
    (hslot : k.inSlot = some b) (htends : h.Tends (k.ward b))
    (hconfirm : commonsWorld (x, .slot .confirm) k r k') :
    Treats x (some b) k k' ∧ k'.care = k.care ∧
      (r = .ok () ∧ k'.held = some h ∧ k'.inSlot = some b ∧ k'.ward b = k.ward b ∧
          (k'.ward b).life = .living ∧ k'.marks b = k.marks b ∨
        (∃ e, r = .error e) ∧ k'.held = none ∧ k'.inSlot = none ∧ k'.ward b = (k.ward b).reap) := by
  obtain ⟨left, n, hplays, rfl⟩ := hconfirm
  rw [hheld, hslot] at hplays
  have hasks : (SlotSection.confirmHeld (some h)).Asks fun c => ¬ c.Spawns := by
    refine Asks.bind (NodeHandle.confirm_asks MachineCall.not_spawns_of_child (fun _ => id)
      fun _ => id) fun (looked, seen) => ?_
    cases looked with
    | ok _ => trivial
    | error e =>
        exact Asks.bind (Asks.bind (NodeHandle.stop_asks MachineCall.not_spawns_of_child id)
          fun _ => trivial) fun _ => trivial
  obtain ⟨-, -, hward, -⟩ := Nursery.attends_plays hasks hplays rfl
  refine ⟨(treats_marked (.of_plays hplays)).handed left .confirm, rfl, ?_⟩
  rcases SlotSection.confirmHeld_tells htends hward with
    ⟨rfl, rfl, hliving, hsame⟩ | ⟨he, rfl, hreaped⟩
  · refine .inl ⟨rfl, rfl, ?_, hsame, ?_, ?_⟩
    · exact hslot
    · exact (congrArg Ward.life hsame).trans hliving
    · exact if_neg fun hnoted => hnoted.2 (congrArg Ward.notices hsame)
  · exact .inr ⟨he, rfl, rfl, hreaped⟩

theorem exists_treats {q : ThreadStep} {a : q.Answer} (h : commonsWorld (x, q) k a k') :
    ∃ c, (c = k.care x ∨ c = k.inSlot) ∧ Treats x c k k' := by
  cases q with
  | machine c => exact ⟨k.care x, .inl rfl, (asked_of_step h).treats⟩
  | slot q =>
      obtain ⟨left, n, hplays, rfl⟩ := h
      exact ⟨k.inSlot, .inr rfl, (treats_marked (.of_plays hplays)).handed left q⟩
  | request q =>
      obtain rfl : k' = k := h
      exact ⟨k'.inSlot, .inr rfl, .refl ..⟩

/-! ## Steps that can be taken -/

theorem step_take (k : Commons) (x : Caller) :
    commonsWorld (x, .slot .take) k k.held { k with
      held := none
      inSlot := none
      care := Function.update k.care x (k.inSlot.or (k.care x)) } := by
  refine ⟨none, k.nursery k.inSlot, plays_pure_iff.mpr ⟨rfl, rfl⟩, ?_⟩
  rw [marked_self]
  rfl

theorem step_put (hempty : k.held = none) (x : Caller) (h : NodeHandle) :
    commonsWorld (x, .slot (.put h)) k () { k with
      held := some h
      inSlot := k.care x
      care := Function.update k.care x none } := by
  refine ⟨some h, k.nursery k.inSlot, ?_, ?_⟩
  · rw [hempty]
    exact plays_pure_iff.mpr ⟨rfl, rfl⟩
  · rw [marked_self]
    rfl

theorem step_confirm_of_empty (hempty : k.held = none) (x : Caller) :
    commonsWorld (x, .slot .confirm) k (.error SlotSection.stoppedMeanwhile)
      { k with held := none, inSlot := none } := by
  refine ⟨none, k.nursery k.inSlot, ?_, ?_⟩
  · rw [hempty]
    exact plays_pure_iff.mpr ⟨rfl, rfl⟩
  · rw [marked_self]
    rfl

theorem exists_step {c : MachineCall} {a : c.Answer} {w : Ward} (hc : ¬ c.Spawns)
    (hcare : k.care x = some b) (h : wardWorld c (k.ward b) a w) :
    ∃ k', commonsWorld (x, .machine c) k a k' ∧ k'.care x = some b ∧ k'.ward b = w ∧
      k'.held = k.held := by
  have hn : nurseryWorld c (k.nursery (k.care x)) a ((k.nursery (k.care x)).become b w) := by
    refine nurseryWorld_of_attends hc ⟨rfl, rfl, fun b' hb' => ?_, fun b' hb' => ?_⟩
    · obtain rfl := Option.some.inj (hcare.symm.trans hb')
      rw [Nursery.become_ward_self]
      exact h
    · refine .inl (Nursery.become_ward_of_ne ?_)
      rintro rfl
      exact hb' hcare
  exact ⟨_, ⟨_, hn, rfl⟩, (Function.update_self ..).trans hcare,
    Nursery.become_ward_self (k.nursery (k.care x)) b w, rfl⟩

theorem exists_follows {t : List (Exchange MachineCall MachineCall.Answer)} {w : Ward}
    (ht : ∀ e ∈ t, ¬ e.1.Spawns) (hcare : k.care x = some b)
    (h : Follows wardWorld (k.ward b) t w) :
    ∃ k', Follows commonsWorld k (stepsBy x (t.map fun e => ⟨.machine e.1, e.2⟩)) k' ∧
      k'.held = k.held := by
  induction t generalizing k with
  | nil => exact ⟨k, rfl, rfl⟩
  | cons e t ih =>
      obtain ⟨w', he, hrest⟩ := h
      obtain ⟨hc, ht⟩ := List.forall_mem_cons.mp ht
      obtain ⟨m, hm, hcare', rfl, hheld⟩ := exists_step hc hcare he
      obtain ⟨k', hk', hheld'⟩ := ih ht hcare' hrest
      exact ⟨k', ⟨m, hm, hk'⟩, hheld'.trans hheld⟩

theorem step_idle {c : MachineCall} {a : c.Answer} (hc : ¬ c.Spawns)
    (h : ∀ b, k.care x = some b → wardWorld c (k.ward b) a (k.ward b)) :
    commonsWorld (x, .machine c) k a k := by
  refine ⟨k.nursery (k.care x), nurseryWorld_of_attends hc ⟨rfl, rfl, h, fun _ _ => .inl rfl⟩, ?_⟩
  rw [marked_self]
  exact congrArg (fun care => { k with care := care }) (Function.update_eq_self x k.care).symm

/-! ## What holds between two steps -/

/-- The slot holds the handle of a child to which nothing was done by anybody. A child is with the
slot or in the care of one caller, and nobody else did anything to it than that caller. Nothing is
done to a child by two callers. -/
structure Orderly (k : Commons) : Prop where
  vacant : k.held = none → k.inSlot = none
  holds : ∀ h, k.held = some h →
    ∃ b < k.births, k.inSlot = some b ∧ h.Tends (k.ward b) ∧ k.marks b = []
  born : ∀ x b, k.care x = some b → b < k.births
  outside : ∀ x b, k.care x = some b → k.inSlot ≠ some b
  apart : ∀ x y b, k.care x = some b → k.care y = some b → x = y
  own : ∀ x b, k.care x = some b → ∀ y ∈ k.marks b, y = x
  single : ∀ b, ∀ y ∈ k.marks b, ∀ z ∈ k.marks b, y = z
  unborn : ∀ b, k.births ≤ b → k.marks b = []

theorem Orderly.slotted (hk : k.Orderly) (hb : k.inSlot = some b) :
    ∃ h, k.held = some h ∧ b < k.births ∧ h.Tends (k.ward b) ∧ k.marks b = [] := by
  cases hheld : k.held with
  | none =>
      rw [hk.vacant hheld] at hb
      cases hb
  | some h =>
      obtain ⟨b', hborn, hslot, htends, hmarks⟩ := hk.holds h hheld
      obtain rfl := Option.some.inj (hslot.symm.trans hb)
      exact ⟨h, rfl, hborn, htends, hmarks⟩

theorem Orderly.single_of_treats (hk : k.Orderly) {c : Option Nat} (ht : Treats x c k k')
    (hc : ∀ b, c = some b → ∀ y ∈ k.marks b, y = x) :
    ∀ b, ∀ y ∈ k'.marks b, ∀ z ∈ k'.marks b, y = z := by
  intro b y hy z hz
  rcases ht.marks_eq b with ⟨-, hcare⟩ | hsame
  · have hall : ∀ y ∈ k'.marks b, y = x := fun y hy =>
      (ht.marks b y hy).elim (hc b hcare y) id
    rw [hall y hy, hall z hz]
  · rw [hsame] at hy hz
    exact hk.single b y hy z hz

theorem Orderly.unborn_of_treats (hk : k.Orderly) {c : Option Nat} (ht : Treats x c k k')
    (hb : k'.births ≤ b) : k'.marks b = [] := by
  have hunborn : k.births ≤ b := Nat.le_trans ht.births hb
  rcases ht.marks_eq b with ⟨hborn, -⟩ | hsame
  · exact absurd hunborn (Nat.not_le_of_lt hborn)
  · rw [hsame, hk.unborn b hunborn]

theorem Orderly.asked (hk : k.Orderly) (h : Asked x k k') : k'.Orderly where
  vacant hempty := by
    rw [h.inSlot]
    exact hk.vacant (h.held.symm.trans hempty)
  holds g hg := by
    obtain ⟨b, hb, hin, htends, hmarks⟩ := hk.holds g (h.held.symm.trans hg)
    have hother : k.care x ≠ some b := fun hx => hk.outside x b hx hin
    refine ⟨b, Nat.lt_of_lt_of_le hb h.treats.births, h.inSlot.trans hin,
      htends.drift (h.treats.drift b hb hother), ?_⟩
    exact ((h.treats.marks_eq b).resolve_left fun hx => hother hx.2).trans hmarks
  born y b hy := by
    rcases h.care_cases hy with hold | ⟨-, -, hlt⟩
    · exact Nat.lt_of_lt_of_le (hk.born y b hold) h.treats.births
    · exact hlt
  outside y b hy hin := by
    obtain ⟨-, -, hb, -⟩ := hk.slotted (h.inSlot.symm.trans hin)
    rcases h.care_cases hy with hold | ⟨-, rfl, -⟩
    · exact hk.outside y b hold (h.inSlot.symm.trans hin)
    · exact Nat.lt_irrefl _ hb
  apart y z b hy hz := by
    rcases h.care_cases hy with hy | ⟨rfl, hb, -⟩ <;>
      rcases h.care_cases hz with hz | ⟨rfl, hb', -⟩
    · exact hk.apart y z b hy hz
    · exact absurd (hk.born y b hy) (Nat.not_lt_of_le (Nat.le_of_eq hb'.symm))
    · exact absurd (hk.born z b hz) (Nat.not_lt_of_le (Nat.le_of_eq hb.symm))
    · rfl
  own y b hy z hz := by
    rcases h.treats.marks_eq b with ⟨hb, hx⟩ | hsame
    · rcases h.care_cases hy with hold | ⟨-, rfl, -⟩
      · obtain rfl := hk.apart y x b hold hx
        exact (h.treats.marks b z hz).elim (hk.own y b hold z) id
      · exact absurd hb (Nat.lt_irrefl _)
    · rw [hsame] at hz
      rcases h.care_cases hy with hold | ⟨-, rfl, -⟩
      · exact hk.own y b hold z hz
      · rw [hk.unborn _ (Nat.le_refl _)] at hz
        cases hz
  single := hk.single_of_treats h.treats fun b hb => hk.own x b hb
  unborn _ hb := hk.unborn_of_treats h.treats hb

theorem care_of_take (hcare : Function.update k.care x (k.inSlot.or (k.care x)) y = some b) :
    k.care y = some b ∨ y = x ∧ k.inSlot = some b := by
  by_cases hy : y = x
  · subst hy
    rw [Function.update_self] at hcare
    rcases Option.or_eq_some_iff.mp hcare with hin | ⟨-, hold⟩
    · exact .inr ⟨rfl, hin⟩
    · exact .inl hold
  · rw [Function.update_of_ne hy] at hcare
    exact .inl hcare

theorem Orderly.take (hk : k.Orderly) (x : Caller) :
    Orderly { k with
      held := none
      inSlot := none
      care := Function.update k.care x (k.inSlot.or (k.care x)) } where
  vacant _ := rfl
  holds _ hh := nomatch hh
  born y b hy := by
    rcases care_of_take hy with hold | ⟨-, hin⟩
    · exact hk.born y b hold
    · obtain ⟨-, -, hb, -⟩ := hk.slotted hin
      exact hb
  outside _ _ _ hin := nomatch hin
  apart y z b hy hz := by
    rcases care_of_take hy with hold | ⟨hyx, hin⟩ <;>
      rcases care_of_take hz with hold' | ⟨hzx, hin'⟩
    · exact hk.apart y z b hold hold'
    · exact absurd hin' (hk.outside y b hold)
    · exact absurd hin (hk.outside z b hold')
    · exact hyx.trans hzx.symm
  own y b hy z hz := by
    rcases care_of_take hy with hold | ⟨-, hin⟩
    · exact hk.own y b hold z hz
    · obtain ⟨-, -, -, -, hmarks⟩ := hk.slotted hin
      change z ∈ k.marks b at hz
      rw [hmarks] at hz
      cases hz
  single := hk.single
  unborn := hk.unborn

theorem care_of_put (hcare : Function.update k.care x none y = some b) :
    y ≠ x ∧ k.care y = some b := by
  by_cases hy : y = x
  · subst hy
    rw [Function.update_self] at hcare
    cases hcare
  · rw [Function.update_of_ne hy] at hcare
    exact ⟨hy, hcare⟩

theorem Orderly.put (hk : k.Orderly) (hcare : k.care x = some b) (htends : h.Tends (k.ward b))
    (hmarks : k.marks b = []) :
    Orderly { k with
      held := some h
      inSlot := k.care x
      care := Function.update k.care x none } where
  vacant hempty := nomatch hempty
  holds g hg := by
    obtain rfl := Option.some.inj hg
    exact ⟨b, hk.born x b hcare, hcare, htends, hmarks⟩
  born y b hy := hk.born y b (care_of_put hy).2
  outside y b hy hin := (care_of_put hy).1 (hk.apart y x b (care_of_put hy).2 hin)
  apart y z b hy hz := hk.apart y z b (care_of_put hy).2 (care_of_put hz).2
  own y b hy := hk.own y b (care_of_put hy).2
  single := hk.single
  unborn := hk.unborn

theorem Orderly.confirm_of_empty (hk : k.Orderly) :
    Orderly { k with held := none, inSlot := none } where
  vacant _ := rfl
  holds _ hh := nomatch hh
  born := hk.born
  outside _ _ _ hin := nomatch hin
  apart := hk.apart
  own := hk.own
  single := hk.single
  unborn := hk.unborn

theorem Orderly.confirm_of_holds (hk : k.Orderly) (hslot : k.inSlot = some b)
    (ht : Treats x (some b) k k') (hcare : k'.care = k.care)
    (hlooked : k'.held = some h ∧ k'.inSlot = some b ∧ h.Tends (k'.ward b) ∧ k'.marks b = [] ∨
      k'.held = none ∧ k'.inSlot = none) : k'.Orderly := by
  obtain ⟨-, -, hborn, -, hmarks⟩ := hk.slotted hslot
  have hother {y : Caller} {c : Nat} (hy : k'.care y = some c) : k.care y = some c ∧ c ≠ b := by
    rw [hcare] at hy
    refine ⟨hy, ?_⟩
    rintro rfl
    exact hk.outside y c hy hslot
  exact
    { vacant := fun hempty => by
        rcases hlooked with ⟨hheld, -⟩ | ⟨-, hslot'⟩
        · cases hempty.symm.trans hheld
        · exact hslot'
      holds := fun g hg => by
        rcases hlooked with ⟨hheld, hslot', htends, hmarks'⟩ | ⟨hheld, -⟩
        · obtain rfl := Option.some.inj (hheld.symm.trans hg)
          exact ⟨b, Nat.lt_of_lt_of_le hborn ht.births, hslot', htends, hmarks'⟩
        · cases hg.symm.trans hheld
      born := fun y c hy => Nat.lt_of_lt_of_le (hk.born y c (hother hy).1) ht.births
      outside := fun y c hy hin => by
        rcases hlooked with ⟨-, hslot', -⟩ | ⟨-, hslot'⟩
        · exact (hother hy).2 (Option.some.inj (hin.symm.trans hslot'))
        · cases hin.symm.trans hslot'
      apart := fun y z c hy hz => hk.apart y z c (hother hy).1 (hother hz).1
      own := fun y c hy z hz => by
        have hsame := (ht.marks_eq c).resolve_left fun hc =>
          (hother hy).2 (Option.some.inj hc.2).symm
        rw [hsame] at hz
        exact hk.own y c (hother hy).1 z hz
      single := hk.single_of_treats ht fun c hc y hy => by
        obtain rfl := Option.some.inj hc
        rw [hmarks] at hy
        cases hy
      unborn := fun c hc => hk.unborn_of_treats ht hc }

theorem Orderly.confirm {r : Except StartFailure Unit} (hk : k.Orderly)
    (hconfirm : commonsWorld (x, .slot .confirm) k r k') : k'.Orderly := by
  cases hheld : k.held with
  | none =>
      obtain ⟨-, rfl⟩ := Commons.confirm_of_empty hheld hconfirm
      exact hk.confirm_of_empty
  | some h =>
      obtain ⟨b, hb, hslot, htends, hmarks⟩ := hk.holds h hheld
      obtain ⟨ht, hcare, hlooked⟩ := Commons.confirm_of_holds hheld hslot htends hconfirm
      refine hk.confirm_of_holds (h := h) hslot ht hcare ?_
      rcases hlooked with ⟨-, hheld', hslot', hward, -, hmarks'⟩ | ⟨-, hheld', hslot', -⟩
      · rw [← hward] at htends
        exact .inl ⟨hheld', hslot', htends, hmarks'.trans hmarks⟩
      · exact .inr ⟨hheld', hslot'⟩

/-- Every step keeps the order but one that puts a node into the slot. -/
theorem Orderly.step {q : ThreadStep} {a : q.Answer} (hk : k.Orderly) (hq : q.PutsNone)
    (h : commonsWorld (x, q) k a k') : k'.Orderly := by
  cases q with
  | machine c => exact hk.asked (asked_of_step h)
  | slot q =>
      cases q with
      | take =>
          obtain ⟨-, rfl⟩ := take_of_step h
          exact hk.take x
      | confirm => exact hk.confirm h
      | _ => exact hq.elim
  | request q => exact hq.elim

end Commons

end NodeTrial
