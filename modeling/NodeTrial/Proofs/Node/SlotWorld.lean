import NodeTrial.Proofs.Node.HandleCases
import NodeTrial.Node.Slot

namespace NodeTrial

open Dialogue

/-- What a slot holds, beside the state of a machine. -/
structure Slotted (σ : Type) where
  held : Option NodeHandle
  state : σ

/-- The world of a thread beside a machine. A use of the slot is carried out as a whole. -/
def slotWorld {σ : Type} (world : World MachineCall MachineCall.Answer σ) :
    World ThreadStep ThreadStep.Answer (Slotted σ)
  | .machine c, k, a, k' => k'.held = k.held ∧ world c k.state a k'.state
  | .slot q, k, a, k' => (q.body k.held).Plays world k.state (a, k'.held) k'.state
  | .request _, k, _, k' => k' = k

theorem Thread.care_asks {α : Type} {P : ThreadStep → Prop} {c : Care α}
    (h : c.Asks fun call => P (.machine call)) : (Thread.care c).Asks P := by
  induction c with
  | done a => trivial
  | ask q next ih => exact Asks.bind (.question h.1) fun a => ih a (h.2 a)

theorem NodeSlot.teardown_asks {P : ThreadStep → Prop} (htake : P (.slot .take))
    (hmachine : ∀ c, P (.machine c)) : teardown.Asks P := by
  refine Asks.bind (.question htake) fun taken => ?_
  cases taken with
  | none => trivial
  | some h =>
      exact Asks.bind (Thread.care_asks (.of_forall hmachine)) fun _ =>
        Thread.care_asks (.of_forall hmachine)

section

variable {σ α : Type} {world : World MachineCall MachineCall.Answer σ} {k k' : Slotted σ}

theorem slotWorld_preserves {t : Thread α} {a : α} (h : t.Plays (slotWorld world) k a k')
    (I : σ → Prop) (hstep : ∀ c s b s', world c s b s' → I s → I s') (hs : I k.state) :
    I k'.state := by
  refine h.preserves (fun m => I m.state) (fun q m b m' hq hm => ?_) hs
  cases q with
  | machine c => exact hstep c m.state b m'.state hq.2 hm
  | slot q => exact Plays.preserves hq I hstep hm
  | request q =>
      obtain rfl : m' = m := hq
      exact hm

theorem Thread.slotWorld_care_iff {c : Care α} {a : α} :
    (Thread.care c).Plays (slotWorld world) k a k' ↔
      k'.held = k.held ∧ c.Plays world k.state a k'.state := by
  obtain ⟨held, s⟩ := k
  obtain ⟨held', s'⟩ := k'
  -- Care does not use the slot, so what is held is the same after each answer.
  induction c generalizing s with
  | done b =>
      constructor
      · intro h
        obtain ⟨rfl, hk⟩ := plays_pure_iff.mp h
        cases hk
        exact ⟨rfl, plays_pure_iff.mpr ⟨rfl, rfl⟩⟩
      · rintro ⟨rfl, h⟩
        obtain ⟨rfl, rfl⟩ := plays_pure_iff.mp h
        exact plays_pure_iff.mpr ⟨rfl, rfl⟩
  | ask q next ih =>
      constructor
      · intro h
        obtain ⟨b, ⟨held₁, s₁⟩, hask, hrest⟩ := plays_bind_iff.mp h
        obtain ⟨rfl, hq⟩ := plays_question_iff.mp hask
        obtain ⟨rfl, hnext⟩ := (ih b s₁).mp hrest
        exact ⟨rfl, plays_bind_iff.mpr ⟨b, s₁, plays_question_iff.mpr hq, hnext⟩⟩
      · rintro ⟨rfl, h⟩
        have hbind : (question q >>= next).Plays world s a s' := h
        obtain ⟨b, s₁, hq, hnext⟩ := plays_bind_iff.mp hbind
        refine plays_bind_iff.mpr ⟨b, ⟨held', s₁⟩, ?_, (ih b s₁).mpr ⟨rfl, hnext⟩⟩
        exact plays_question_iff.mpr ⟨rfl, plays_question_iff.mp hq⟩

theorem Thread.slotWorld_take {taken : Option NodeHandle}
    (h : Thread.take.Plays (slotWorld world) k taken k') : taken = k.held ∧ k' = ⟨none, k.state⟩ := by
  obtain ⟨hresult, hstate⟩ := plays_pure_iff.mp (plays_question_iff.mp h)
  obtain ⟨held', s'⟩ := k'
  obtain ⟨rfl, rfl⟩ := Prod.mk.inj hresult
  exact ⟨rfl, congrArg (Slotted.mk none) hstate⟩

theorem Thread.slotWorld_put {h : NodeHandle} {u : Unit} (hheld : k.held = none)
    (hput : (Thread.put h).Plays (slotWorld world) k u k') : k' = ⟨some h, k.state⟩ := by
  have hbody := plays_question_iff.mp hput
  obtain ⟨held, s⟩ := k
  obtain ⟨held', s'⟩ := k'
  obtain rfl : held = none := hheld
  obtain ⟨hresult, rfl⟩ := plays_pure_iff.mp hbody
  obtain ⟨-, rfl⟩ := Prod.mk.inj hresult
  rfl

theorem Thread.slotWorld_confirm {h : NodeHandle} {s : σ} {r : Except StartFailure Unit}
    (hconfirm : Thread.confirm.Plays (slotWorld world) ⟨some h, s⟩ r k') :
    r = .ok () ∧ k'.held = some h ∧ h.confirm.Plays world s (.ok (), h) k'.state ∨
      ∃ e h' m, r = .error e ∧ k'.held = none ∧ h.confirm.Plays world s (.error e, h') m ∧
        h'.drop.Plays world m () k'.state := by
  obtain ⟨⟨looked, h'⟩, m, hlook, hdone⟩ := plays_bind_iff.mp (plays_question_iff.mp hconfirm)
  cases looked with
  | ok _ =>
      obtain ⟨hresult, hstate⟩ := plays_pure_iff.mp hdone
      obtain ⟨rfl, hheld⟩ := Prod.mk.inj hresult
      rw [← hstate] at hlook
      rcases NodeHandle.confirm_cases hlook with ⟨-, rfl, -⟩ | ⟨seen, n, log, n', stopped, he, -⟩
      · exact .inl ⟨rfl, hheld, hlook⟩
      · cases he
  | error e =>
      obtain ⟨_, m', hdrop, hgiven⟩ := plays_bind_iff.mp hdone
      obtain ⟨hresult, hstate⟩ := plays_pure_iff.mp hgiven
      obtain ⟨rfl, hheld⟩ := Prod.mk.inj hresult
      rw [← hstate] at hdrop
      exact .inr ⟨e, h', m, rfl, hheld, hlook, hdrop⟩

namespace NodeSlot

/-- A teardown leaves the slot empty. What was there is stopped and given up. -/
theorem teardown_cases {u : Unit} (h : teardown.Plays (slotWorld world) k u k') :
    k'.held = none ∧ (k.held = none ∧ k'.state = k.state ∨
      ∃ handle stopped m, k.held = some handle ∧ handle.stop.Plays world k.state stopped m ∧
        stopped.drop.Plays world m () k'.state) := by
  obtain ⟨taken, k₁, htake, h₁⟩ := plays_bind_iff.mp h
  obtain ⟨rfl, rfl⟩ := Thread.slotWorld_take htake
  obtain ⟨_ | handle, s⟩ := k
  · obtain ⟨-, rfl⟩ := plays_pure_iff.mp h₁
    exact ⟨rfl, .inl ⟨rfl, rfl⟩⟩
  · obtain ⟨stopped, k₂, hstop, hdrop⟩ := plays_bind_iff.mp h₁
    obtain ⟨hheld₂, hstop⟩ := Thread.slotWorld_care_iff.mp hstop
    obtain ⟨hheld₃, hdrop⟩ := Thread.slotWorld_care_iff.mp hdrop
    exact ⟨hheld₃.trans hheld₂, .inr ⟨handle, stopped, k₂.state, rfl, hstop, hdrop⟩⟩

theorem guarded_pure_cases (h : (guarded (pure ())).Plays (slotWorld world) k () k') :
    teardown.Plays (slotWorld world) k () k' := by
  obtain ⟨_, k₁, hpure, h₁⟩ := plays_bind_iff.mp h
  obtain ⟨-, rfl⟩ := plays_pure_iff.mp hpure
  obtain ⟨_, k₂, hdown, hdone⟩ := plays_bind_iff.mp h₁
  obtain ⟨-, rfl⟩ := plays_pure_iff.mp hdone
  exact hdown

theorem isRunning_cases {running : Bool} (h : isRunning.Plays (slotWorld world) k running k') :
    k.held = none ∧ running = false ∧ k' = k ∨
      ∃ handle handle', k.held = some handle ∧ k'.held = some handle' ∧
        handle.isAlive.Plays world k.state (running, handle') k'.state := by
  have hlook := plays_question_iff.mp h
  obtain ⟨held', s'⟩ := k'
  obtain ⟨_ | handle, s⟩ := k
  · obtain ⟨hresult, rfl⟩ := plays_pure_iff.mp hlook
    obtain ⟨rfl, rfl⟩ := Prod.mk.inj hresult
    exact .inl ⟨rfl, rfl, rfl⟩
  · obtain ⟨⟨alive, handle'⟩, m, halive, hdone⟩ := plays_bind_iff.mp hlook
    obtain ⟨hresult, rfl⟩ := plays_pure_iff.mp hdone
    obtain ⟨rfl, rfl⟩ := Prod.mk.inj hresult
    exact .inr ⟨handle, handle', rfl, rfl, halive⟩

/-- Beside a machine a start in the slot is a teardown and then a start of its own, whose handle, if
there is one, the slot holds in the end. -/
theorem start_cases {l : Launch} {r : Except StartFailure Pid}
    (h : (start l).Plays (slotWorld world) k r k') :
    ∃ m started, teardown.Plays (slotWorld world) k () m ∧
      (NodeHandle.start l).Plays world m.state started k'.state ∧ k'.held = started.toOption ∧
      r = started.map (·.pid?.getD 0) := by
  obtain ⟨_, k₁, hteardown, h₁⟩ := plays_bind_iff.mp h
  have hempty := (teardown_cases hteardown).1
  obtain ⟨spawned, k₂, hspawn, h₂⟩ := plays_bind_iff.mp h₁
  obtain ⟨hheld₂, hspawn⟩ := Thread.slotWorld_care_iff.mp hspawn
  rw [hempty] at hheld₂
  cases spawned with
  | error e =>
      obtain ⟨rfl, rfl⟩ := plays_pure_iff.mp h₂
      exact ⟨k₁, .error e, hteardown,
        plays_bind_iff.mpr ⟨_, _, hspawn, plays_pure_iff.mpr ⟨rfl, rfl⟩⟩, hheld₂, rfl⟩
  | ok handle =>
      obtain ⟨_, k₃, hput, h₃⟩ := plays_bind_iff.mp h₂
      obtain rfl := Thread.slotWorld_put hheld₂ hput
      obtain ⟨_, ⟨held₄, m'⟩, hsettle, h₄⟩ := plays_bind_iff.mp h₃
      obtain ⟨rfl, hsettle⟩ := Thread.slotWorld_care_iff.mp hsettle
      obtain ⟨looked, k₅, hconfirm, hdone⟩ := plays_bind_iff.mp h₄
      rcases Thread.slotWorld_confirm hconfirm with
        ⟨rfl, hheld, hlook⟩ | ⟨e, handle', m'', rfl, hheld, hlook, hdrop⟩
      · obtain ⟨rfl, rfl⟩ := plays_pure_iff.mp hdone
        refine ⟨k₁, .ok handle, hteardown, plays_bind_iff.mpr ⟨_, _, hspawn, ?_⟩, hheld, rfl⟩
        refine plays_bind_iff.mpr ⟨_, _, hsettle, plays_bind_iff.mpr ⟨_, _, hlook, ?_⟩⟩
        exact plays_pure_iff.mpr ⟨rfl, rfl⟩
      · obtain ⟨rfl, rfl⟩ := plays_pure_iff.mp hdone
        refine ⟨k₁, .error e, hteardown, plays_bind_iff.mpr ⟨_, _, hspawn, ?_⟩, hheld, rfl⟩
        refine plays_bind_iff.mpr ⟨_, _, hsettle, plays_bind_iff.mpr ⟨_, _, hlook, ?_⟩⟩
        exact plays_bind_iff.mpr ⟨_, _, hdrop, plays_pure_iff.mpr ⟨rfl, rfl⟩⟩

end NodeSlot

end

end NodeTrial
