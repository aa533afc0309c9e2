import NodeTrial.Proofs.Node.Handle
import NodeTrial.Proofs.Node.SlotWorld

namespace NodeTrial

open Offspring

/-- What the slot holds, and the children that were started, the last one first. -/
structure Keeping where
  held : Option NodeHandle
  children : List Offspring
  deriving DecidableEq, Repr

/-- The world of a thread. A use of the slot is carried out as a whole. -/
def threadWorld : Dialogue.World ThreadStep ThreadStep.Answer Keeping
  | .machine c, k, a, k' => k'.held = k.held ∧ childWorld c k.children a k'.children
  | .slot q, k, a, k' => (q.body k.held).Plays childWorld k.children (a, k'.held) k'.children
  | .request _, k, _, k' => k'.held = k.held ∧ Drift k.children k'.children

/-- The same slot beside its children as the state of a machine. -/
def Keeping.slotted (k : Keeping) : Slotted (List Offspring) := ⟨k.held, k.children⟩

theorem Keeping.eq_of_slotted {k : Keeping} {held : Option NodeHandle} {cs : List Offspring}
    (h : k.slotted = ⟨held, cs⟩) : k = ⟨held, cs⟩ := by
  obtain ⟨held', cs'⟩ := k
  cases h
  rfl

/-- Whether a step is about the node alone, and not another request of a run. -/
def ThreadStep.Tends : ThreadStep → Prop
  | .request _ => False
  | _ => True

theorem Thread.use_tends (q : SlotSection) : (use q).Asks ThreadStep.Tends :=
  .question trivial

/-- A thread that makes no other request plays as it does beside any machine. -/
theorem Thread.plays_slotWorld_iff {α : Type} {d : Thread α} {k k' : Keeping} {a : α}
    (hd : d.Asks ThreadStep.Tends) :
    d.Plays threadWorld k a k' ↔ d.Plays (slotWorld childWorld) k.slotted a k'.slotted := by
  induction d generalizing k with
  | done b =>
      have hsame : k' = k ↔ k'.slotted = k.slotted :=
        ⟨congrArg Keeping.slotted, Keeping.eq_of_slotted⟩
      exact Dialogue.plays_pure_iff.trans
        ((and_congr_right fun _ => hsame).trans Dialogue.plays_pure_iff.symm)
  | ask q next ih =>
      obtain ⟨hq, hnext⟩ := hd
      have hworld (b : q.Answer) (m : Keeping) :
          threadWorld q k b m ↔ slotWorld childWorld q k.slotted b m.slotted := by
        cases q with
        | machine c => exact Iff.rfl
        | slot q => exact Iff.rfl
        | request r => exact hq.elim
      constructor
      · intro h
        have hbind : (Dialogue.question q >>= next).Plays threadWorld k a k' := h
        obtain ⟨b, m, hask, hrest⟩ := Dialogue.plays_bind_iff.mp hbind
        exact Dialogue.plays_bind_iff.mpr ⟨b, m.slotted, Dialogue.plays_question_iff.mpr
          ((hworld b m).mp (Dialogue.plays_question_iff.mp hask)), (ih b (hnext b)).mp hrest⟩
      · intro h
        have hbind : (Dialogue.question q >>= next).Plays (slotWorld childWorld) k.slotted a
            k'.slotted := h
        obtain ⟨b, ⟨held, cs⟩, hask, hrest⟩ := Dialogue.plays_bind_iff.mp hbind
        exact Dialogue.plays_bind_iff.mpr ⟨b, ⟨held, cs⟩, Dialogue.plays_question_iff.mpr
          ((hworld b ⟨held, cs⟩).mpr (Dialogue.plays_question_iff.mp hask)),
          (ih b (hnext b) (k := ⟨held, cs⟩)).mpr hrest⟩

theorem Thread.care_plays_iff {α : Type} {c : Care α} {k k' : Keeping} {a : α} :
    (Thread.care c).Plays threadWorld k a k' ↔
      k'.held = k.held ∧ c.Plays childWorld k.children a k'.children :=
  (plays_slotWorld_iff (care_asks (.of_forall fun _ => trivial))).trans slotWorld_care_iff

theorem Thread.use_plays_iff {q : SlotSection} {k k' : Keeping} {a : q.Answer} :
    (Thread.use q).Plays threadWorld k a k' ↔
      (q.body k.held).Plays childWorld k.children (a, k'.held) k'.children :=
  Dialogue.plays_question_iff

theorem Thread.take_plays {k k' : Keeping} {taken : Option NodeHandle}
    (h : Thread.take.Plays threadWorld k taken k') : taken = k.held ∧ k' = ⟨none, k.children⟩ := by
  obtain ⟨htaken, hk'⟩ := slotWorld_take ((plays_slotWorld_iff (use_tends _)).mp h)
  exact ⟨htaken, Keeping.eq_of_slotted hk'⟩

/-- A handle is about the child that was started last, and nothing is left of the others. -/
def HandleTends (h : NodeHandle) (cs : List Offspring) : Prop :=
  ∃ p l rest, cs = ⟨p, l⟩ :: rest ∧ h.child? = some p ∧ h.pid? = some p ∧ Spent rest

/-- What holds between the uses of a slot by one thread after the other. -/
def Keeping.Tended (k : Keeping) : Prop :=
  match k.held with
  | none => Spent k.children
  | some h => HandleTends h k.children

theorem Keeping.Tended.of_empty {k : Keeping} (hheld : k.held = none) (hspent : Spent k.children) :
    k.Tended := by
  obtain ⟨held, cs⟩ := k
  obtain rfl : held = none := hheld
  exact hspent

theorem Keeping.Tended.drift {k : Keeping} {cs : List Offspring} (h : k.Tended)
    (hdrift : Drift k.children cs) : (Keeping.mk k.held cs).Tended := by
  obtain ⟨_ | handle, cs₀⟩ := k
  · obtain rfl := Spent.drift h hdrift
    exact h
  · obtain ⟨p, l, rest, rfl, hchild, hpid, hrest⟩ := h
    obtain ⟨l', rfl, -⟩ := hrest.drift_cons hdrift
    exact ⟨p, l', rest, rfl, hchild, hpid, hrest⟩

/-- A launch that leaves no time between its steps. -/
def Launch.plain : Launch :=
  { program := "./node"
    args := ["--dev"]
    directory := "/project"
    logPath := "logs/node.log"
    settle := 0
    stopGrace := 0 }

namespace NodeSlot

variable {k k' : Keeping}

/-- After a teardown the slot is empty and nothing is left of any child. -/
theorem teardown_plays {u : Unit} (hk : k.Tended) (h : teardown.Plays threadWorld k u k') :
    k'.held = none ∧ Spent k'.children := by
  have hasks : teardown.Asks ThreadStep.Tends := teardown_asks trivial fun _ => trivial
  obtain ⟨hempty, hcases⟩ := teardown_cases ((Thread.plays_slotWorld_iff hasks).mp h)
  refine ⟨hempty, ?_⟩
  obtain ⟨held, cs⟩ := k
  obtain ⟨rfl, hsame⟩ | ⟨handle, stopped, m, rfl, hstop, hdrop⟩ := hcases
  · have hchildren : k'.children = cs := hsame
    rw [hchildren]
    exact hk
  · obtain ⟨p, l, rest, rfl, hchild, -, hrest⟩ := hk
    obtain ⟨hnone, rfl⟩ := NodeHandle.stop_plays hrest hchild hstop
    have hchildren := hrest.cons.drift (NodeHandle.drop_plays_again hnone hdrop)
    rw [show k'.children = _ from hchildren]
    exact hrest.cons

theorem isRunning_plays {running : Bool} (hk : k.Tended)
    (h : isRunning.Plays threadWorld k running k') : k'.Tended := by
  have hcases := isRunning_cases ((Thread.plays_slotWorld_iff (Thread.use_tends _)).mp h)
  obtain ⟨held', cs'⟩ := k'
  obtain ⟨held, cs⟩ := k
  obtain ⟨-, -, hsame⟩ | ⟨handle, handle', rfl, rfl, halive⟩ := hcases
  · cases hsame
    exact hk
  · obtain ⟨p, l, rest, rfl, hchild, hpid, hrest⟩ := hk
    rcases NodeHandle.isAlive_plays hrest hchild halive with ⟨-, rfl, rfl⟩ | ⟨-, rfl, rfl⟩
    · exact ⟨p, .living, rest, rfl, hchild, hpid, hrest⟩
    · exact ⟨p, .gone, rest, rfl, hchild, hpid, hrest⟩

theorem put_plays {h : NodeHandle} {u : Unit} (hheld : k.held = none)
    (hput : (Thread.put h).Plays threadWorld k u k') : k' = ⟨some h, k.children⟩ :=
  Keeping.eq_of_slotted
    (Thread.slotWorld_put hheld ((Thread.plays_slotWorld_iff (Thread.use_tends _)).mp hput))

theorem confirm_plays {p : Pid} {l : Life} {rest : List Offspring} {h : NodeHandle}
    {r : Except StartFailure Unit} (hrest : Spent rest) (hchild : h.child? = some p)
    (hconfirm : Thread.confirm.Plays threadWorld ⟨some h, ⟨p, l⟩ :: rest⟩ r k') :
    r = .ok () ∧ k' = ⟨some h, ⟨p, .living⟩ :: rest⟩ ∨
      ∃ e, r = .error e ∧ k'.held = none ∧ Spent k'.children := by
  have hcases := Thread.slotWorld_confirm
    ((Thread.plays_slotWorld_iff (Thread.use_tends _)).mp hconfirm)
  obtain ⟨held', cs'⟩ := k'
  obtain ⟨rfl, rfl, hlook⟩ | ⟨e, h', m, rfl, rfl, hlook, hdrop⟩ := hcases
  · rcases NodeHandle.confirm_plays hrest hchild hlook with ⟨-, -, rfl⟩ | ⟨e, he, -⟩
    · exact .inl ⟨rfl, rfl⟩
    · cases he
  · rcases NodeHandle.confirm_plays hrest hchild hlook with ⟨hok, -⟩ | ⟨-, -, hnone, rfl⟩
    · cases hok
    · obtain rfl := hrest.cons.drift (NodeHandle.drop_plays_again hnone hdrop)
      exact .inr ⟨e, rfl, rfl, hrest.cons⟩

/-- A start up to the look at the node: the node is in the slot and has had its time to settle. -/
def settled (l : Launch) : Thread (Except StartFailure NodeHandle) := do
  teardown
  match ← Thread.care (NodeHandle.spawn l) with
  | .error e => pure (.error e)
  | .ok h =>
    Thread.put h
    Thread.care (NodeHandle.settle l.settle)
    pure (.ok h)

/-- How a start goes on after that. -/
def looked : Except StartFailure NodeHandle → Thread (Except StartFailure Pid)
  | .error e => pure (.error e)
  | .ok h => do
    match ← Thread.confirm with
    | .error e => pure (.error e)
    | .ok () => pure (.ok (h.pid?.getD 0))

theorem start_eq (l : Launch) : start l = settled l >>= looked := by
  have bind_assoc {α β γ : Type} (d : Thread α) (f : α → Thread β) (g : β → Thread γ) :
      d >>= f >>= g = d >>= fun a => f a >>= g := Dialogue.bind_assoc d f g
  unfold settled
  rw [bind_assoc]
  unfold start
  congr 1
  funext _
  rw [bind_assoc]
  congr 1
  funext spawned
  cases spawned with
  | error e => rfl
  | ok h =>
      simp only [bind_assoc]
      rfl

theorem settled_plays {l : Launch} {r : Except StartFailure NodeHandle} (hk : k.Tended)
    (h : (settled l).Plays threadWorld k r k') :
    (∃ e, r = .error e ∧ k'.held = none ∧ Spent k'.children) ∨
      ∃ p life rest, r = .ok (.fresh l p) ∧ k' = ⟨some (.fresh l p), ⟨p, life⟩ :: rest⟩ ∧
        Spent rest := by
  obtain ⟨_, k₁, hteardown, h₁⟩ := Dialogue.plays_bind_iff.mp h
  obtain ⟨hheld₁, hspent⟩ := teardown_plays hk hteardown
  obtain ⟨spawned, k₂, hspawn, h₂⟩ := Dialogue.plays_bind_iff.mp h₁
  obtain ⟨hheld₂, hspawn⟩ := Thread.care_plays_iff.mp hspawn
  rw [hheld₁] at hheld₂
  rcases NodeHandle.spawn_plays hspent hspawn with ⟨e, rfl, hchildren⟩ | ⟨p, rfl, hchildren⟩
  · obtain ⟨rfl, rfl⟩ := Dialogue.plays_pure_iff.mp h₂
    refine .inl ⟨e, rfl, hheld₂, ?_⟩
    rw [hchildren]
    exact hspent
  · obtain ⟨_, k₃, hput, h₃⟩ := Dialogue.plays_bind_iff.mp h₂
    obtain rfl := put_plays hheld₂ hput
    obtain ⟨_, k₄, hsettle, hdone⟩ := Dialogue.plays_bind_iff.mp h₃
    obtain ⟨rfl, rfl⟩ := Dialogue.plays_pure_iff.mp hdone
    obtain ⟨hheld₄, hsettle⟩ := Thread.care_plays_iff.mp hsettle
    obtain ⟨held', cs'⟩ := k'
    obtain rfl : held' = some (.fresh l p) := hheld₄
    have hdrift := NodeHandle.settle_plays hsettle
    rw [hchildren] at hdrift
    obtain ⟨life, rfl, -⟩ := hspent.drift_cons hdrift
    exact .inr ⟨p, life, k₁.children, rfl, rfl, hspent⟩

/-- A start ends with the node living in the slot, as the look after it found, or with an empty
slot and nothing left of any child. -/
theorem start_plays {l : Launch} {r : Except StartFailure Pid} (hk : k.Tended)
    (h : (start l).Plays threadWorld k r k') :
    (∃ e, r = .error e ∧ k'.held = none ∧ Spent k'.children) ∨
      ∃ p m rest, r = .ok p ∧ (settled l).Plays threadWorld k (.ok (.fresh l p)) m ∧
        Thread.confirm.Plays threadWorld m (.ok ()) k' ∧
        k' = ⟨some (.fresh l p), ⟨p, .living⟩ :: rest⟩ ∧ Spent rest := by
  rw [start_eq] at h
  obtain ⟨settling, m, hsettled, hlooked⟩ := Dialogue.plays_bind_iff.mp h
  rcases settled_plays hk hsettled with ⟨e, rfl, hheld, hspent⟩ | ⟨p, life, rest, rfl, rfl, hrest⟩
  · obtain ⟨rfl, rfl⟩ := Dialogue.plays_pure_iff.mp hlooked
    exact .inl ⟨e, rfl, hheld, hspent⟩
  · obtain ⟨found, k₁, hconfirm, hdone⟩ := Dialogue.plays_bind_iff.mp hlooked
    rcases confirm_plays hrest rfl hconfirm with ⟨rfl, rfl⟩ | ⟨e, rfl, hheld, hspent⟩
    · obtain ⟨rfl, rfl⟩ := Dialogue.plays_pure_iff.mp hdone
      exact .inr ⟨p, _, rest, rfl, hsettled, hconfirm, rfl, hrest⟩
    · obtain ⟨rfl, rfl⟩ := Dialogue.plays_pure_iff.mp hdone
      exact .inl ⟨e, rfl, hheld, hspent⟩

end NodeSlot

end NodeTrial
