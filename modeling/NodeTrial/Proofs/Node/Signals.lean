import NodeTrial.Proofs.Node.Nursery
import Mathlib.Data.List.Basic
import Mathlib.Logic.Relation

namespace NodeTrial

open Dialogue

/-- The ways in which a handle is used that is in no slot. -/
inductive HandleUse
  | confirm
  | isAlive
  | stop
  | drop

namespace HandleUse

def Answer : HandleUse → Type
  | confirm => Except StartFailure Unit
  | isAlive => Bool
  | stop | drop => Unit

/-- What a use does: what it tells, and the handle that is left. -/
def body : (u : HandleUse) → NodeHandle → Care (u.Answer × Option NodeHandle)
  | confirm, h => do
    let (r, h) ← h.confirm
    pure (r, some h)
  | isAlive, h => do
    let (alive, h) ← h.isAlive
    pure (alive, some h)
  | stop, h => do
    let h ← h.stop
    pure ((), some h)
  | drop, h => do
    h.drop
    pure ((), none)

/-- Whether a use tells that the child has ended, or has ended it. -/
def TellsEnd : (u : HandleUse) → u.Answer → Prop
  | confirm, .error _ => True
  | isAlive, false => True
  | stop, _ => True
  | _, _ => False

end HandleUse

/-- All children that were started, the handles that are left, by the births of their children, and
the children whose handles the slots hold. -/
structure Estate where
  births : Nat
  ward : Nat → Ward
  handle : Nat → Option NodeHandle
  slot : Nat → Option Nat

namespace Estate

def empty : Estate := ⟨0, fun b => .newborn b, fun _ => none, fun _ => none⟩

def nursery (e : Estate) (inCare : Option Nat) : Nursery := ⟨e.births, e.ward, inCare⟩

def slotted (e : Estate) (s : Nat) : Slotted Nursery :=
  ⟨(e.slot s).bind e.handle, e.nursery (e.slot s)⟩

/-- After a computation that had one handle at first and has left one, of the child that is then in
care. -/
def after (e : Estate) (had : Option Nat) (left : Option NodeHandle) (n : Nursery) : Estate where
  births := n.births
  ward := n.ward
  handle b :=
    if left ≠ none ∧ n.inCare = some b then left
    else if had = some b then none
    else e.handle b
  slot := e.slot

def place (e : Estate) (s : Nat) (b : Option Nat) : Estate :=
  { e with slot := Function.update e.slot s b }

/-- What is done with the handles and the slots, and what it tells. -/
inductive Event
  /-- Time passes, in which children may end by themselves. -/
  | pause
  | spawn (l : Launch)
  | start (l : Launch)
  | handle (birth : Nat) (u : HandleUse) (a : u.Answer)
  | slot (name : Nat) (u : SlotUse) (a : u.Answer)
  /-- A slot is given up, and with it the handle that it holds. -/
  | dropSlot (name : Nat)

/-- What can happen in one step. -/
inductive Step (e : Estate) : Event → Estate → Prop
  | pause {n : Nursery} (drift : (e.nursery none).Drift n) : Step e .pause (e.after none none n)
  | spawn {l : Launch} {r : Except StartFailure NodeHandle} {n : Nursery}
      (plays : (NodeHandle.spawn l).Plays nurseryWorld (e.nursery none) r n) :
      Step e (.spawn l) (e.after none r.toOption n)
  | start {l : Launch} {r : Except StartFailure NodeHandle} {n : Nursery}
      (plays : (NodeHandle.start l).Plays nurseryWorld (e.nursery none) r n) :
      Step e (.start l) (e.after none r.toOption n)
  | handle {b : Nat} {h : NodeHandle} {u : HandleUse} {a : u.Answer} {left : Option NodeHandle}
      {n : Nursery} (has : e.handle b = some h) (outside : ∀ s, e.slot s ≠ some b)
      (plays : (u.body h).Plays nurseryWorld (e.nursery (some b)) (a, left) n) :
      Step e (.handle b u a) (e.after (some b) left n)
  | slot {s : Nat} {u : SlotUse} {a : u.Answer} {k : Slotted Nursery}
      (plays : u.thread.Plays (slotWorld nurseryWorld) (e.slotted s) a k) :
      Step e (.slot s u a)
        ((e.after (e.slot s) k.held k.state).place s (k.held.bind fun _ => k.state.inCare))
  | dropSlot {s b : Nat} {h : NodeHandle} {n : Nursery} (holds : e.slot s = some b)
      (has : e.handle b = some h)
      (plays : h.drop.Plays nurseryWorld (e.nursery (some b)) () n) :
      Step e (.dropSlot s) ((e.after (some b) none n).place s none)

/-- What can come of an estate, by any number of steps. -/
def Later : Estate → Estate → Prop := Relation.ReflTransGen fun e e' => ∃ ev, e.Step ev e'

/-- Whether an event tells that a child has ended, or has ended it, while its handle is left. -/
def TellsEnd (e : Estate) (b : Nat) : Event → Prop
  | .handle b' u a => b' = b ∧ u.TellsEnd a
  | .slot s .isRunning false => e.slot s = some b ∧ e.handle b ≠ none
  | _ => False

/-- A child is gone, its handle notes that its node has stopped, and whoever looks at it is told that
it is not alive. -/
structure Over (e : Estate) (b : Nat) : Prop where
  gone : (e.ward b).life = .gone
  stopped : ∀ h, e.handle b = some h → h.state = .stopped
  not_alive : ∀ alive e', e.Step (.handle b .isAlive alive) e' → alive = false
  not_running : ∀ s running e', e.slot s = some b → e.Step (.slot s .isRunning running) e' →
    running = false

/-- What holds between two events: of each child nothing was done to it or it is gone, those that
are not gone have different numbers, and each handle is about its child. -/
structure Sound (e : Estate) : Prop where
  wards : ∀ b < e.births, (e.ward b).Sound
  apart : (e.nursery none).Apart
  handles : ∀ b h, e.handle b = some h → b < e.births ∧ h.Tends (e.ward b)

variable {e e' : Estate} {b : Nat} {h : NodeHandle} {had : Option Nat} {left : Option NodeHandle}
  {n : Nursery}

theorem sound_empty : empty.Sound where
  wards _ hb := absurd hb (Nat.not_lt_zero _)
  apart _ hb := absurd hb (Nat.not_lt_zero _)
  handles _ _ hh := nomatch hh

theorem Sound.keeps_none (he : e.Sound) : Nursery.Keeps none (e.nursery had) :=
  .of_sound he.wards

theorem Sound.keeps_handle (he : e.Sound) (has : e.handle b = some h) :
    Nursery.Keeps (some h) (e.nursery (some b)) := by
  refine ⟨he.wards, fun g hg => ?_⟩
  obtain rfl := Option.some.inj hg
  obtain ⟨hb, htends⟩ := he.handles b h has
  exact ⟨b, hb, rfl, htends⟩

theorem Sound.keeps_slotted (he : e.Sound) (s : Nat) :
    Nursery.Keeps (e.slotted s).held (e.slotted s).state := by
  unfold slotted
  cases e.slot s with
  | none => exact he.keeps_none
  | some b =>
      cases hhas : e.handle b with
      | none =>
          rw [Option.bind_some, hhas]
          exact he.keeps_none
      | some h =>
          rw [Option.bind_some, hhas]
          exact he.keeps_handle hhas

theorem Sound.after (he : e.Sound) (hkeeps : Nursery.Keeps left n)
    (hleaves : (e.nursery had).Leaves n) : (e.after had left n).Sound := by
  refine ⟨hkeeps.sound, hleaves.apart he.apart, fun b h hh => ?_⟩
  change (if left ≠ none ∧ n.inCare = some b then left
    else if had = some b then none else e.handle b) = some h at hh
  split at hh
  · rename_i hcare
    obtain ⟨b', hb', hcare', htends⟩ := hkeeps.tends h hh
    obtain rfl := Option.some.inj (hcare.2.symm.trans hcare')
    exact ⟨hb', htends⟩
  · split at hh
    · cases hh
    · rename_i helsewhere
      obtain ⟨hb, htends⟩ := he.handles b h hh
      exact ⟨(hleaves.raises b hb).1, htends.drift (hleaves.spares b hb helsewhere)⟩

theorem Sound.place (he : e.Sound) (s : Nat) (c : Option Nat) : (e.place s c).Sound :=
  ⟨he.wards, he.apart, he.handles⟩

end Estate

theorem Nursery.Keeps.handleUse {n n' : Nursery} {h : NodeHandle} {u : HandleUse} {a : u.Answer}
    {left : Option NodeHandle} (hn : Keeps (some h) n)
    (hplays : (u.body h).Plays nurseryWorld n (a, left) n') :
    Keeps left n' ∧ (u.TellsEnd a → n.Ends n') := by
  cases u with
  | confirm =>
      obtain ⟨⟨r, h'⟩, m, hconfirm, hdone⟩ := plays_bind_iff.mp hplays
      obtain ⟨hresult, rfl⟩ := plays_pure_iff.mp hdone
      obtain ⟨rfl, rfl⟩ := Prod.mk.inj hresult
      obtain ⟨hkeeps, hends⟩ := hn.confirm hconfirm
      refine ⟨hkeeps, fun htells => ?_⟩
      cases a with
      | ok _ => exact htells.elim
      | error e => exact hends e rfl
  | isAlive =>
      obtain ⟨⟨alive, h'⟩, m, hlook, hdone⟩ := plays_bind_iff.mp hplays
      obtain ⟨hresult, rfl⟩ := plays_pure_iff.mp hdone
      obtain ⟨rfl, rfl⟩ := Prod.mk.inj hresult
      obtain ⟨hkeeps, hends, -⟩ := hn.isAlive hlook
      refine ⟨hkeeps, fun htells => ?_⟩
      cases a with
      | true => exact htells.elim
      | false => exact hends rfl
  | stop =>
      obtain ⟨h', m, hstop, hdone⟩ := plays_bind_iff.mp hplays
      obtain ⟨hresult, rfl⟩ := plays_pure_iff.mp hdone
      obtain ⟨-, rfl⟩ := Prod.mk.inj hresult
      obtain ⟨hkeeps, hends⟩ := hn.stop hstop
      exact ⟨hkeeps, fun _ => hends⟩
  | drop =>
      obtain ⟨_, m, hdrop, hdone⟩ := plays_bind_iff.mp hplays
      obtain ⟨hresult, rfl⟩ := plays_pure_iff.mp hdone
      obtain ⟨-, rfl⟩ := Prod.mk.inj hresult
      exact ⟨hn.drop hdrop, fun htells => htells.elim⟩

namespace Estate

variable {e e' : Estate} {b : Nat} {ev : Event}

theorem Sound.step (he : e.Sound) (hstep : e.Step ev e') : e'.Sound := by
  cases hstep with
  | pause drift => exact he.after (he.keeps_none.drift drift) (.of_drift drift)
  | spawn plays => exact he.after (he.keeps_none.spawn plays) (.of_plays plays)
  | start plays => exact he.after (he.keeps_none.start plays) (.of_plays plays)
  | handle has outside plays =>
      exact he.after ((he.keeps_handle has).handleUse plays).1 (.of_plays plays)
  | slot plays => exact (he.after ((he.keeps_slotted _).use plays) (.of_thread plays)).place _ _
  | dropSlot holds has plays =>
      exact (he.after ((he.keeps_handle has).drop plays) (.of_plays plays)).place _ _

theorem Step.raises (hstep : e.Step ev e') (hb : b < e.births) :
    b < e'.births ∧ (e.ward b).Becomes (e'.ward b) := by
  cases hstep with
  | pause drift => exact (Nursery.Leaves.of_drift drift).raises b hb
  | spawn plays => exact (Nursery.Leaves.of_plays plays).raises b hb
  | start plays => exact (Nursery.Leaves.of_plays plays).raises b hb
  | handle has outside plays => exact (Nursery.Leaves.of_plays plays).raises b hb
  | slot plays => exact (Nursery.Leaves.of_thread plays).raises b hb
  | dropSlot holds has plays => exact (Nursery.Leaves.of_plays plays).raises b hb

theorem Later.sound (hlater : e.Later e') (he : e.Sound) : e'.Sound := by
  induction hlater with
  | refl => exact he
  | tail _ hstep ih =>
      obtain ⟨ev, hstep⟩ := hstep
      exact ih.step hstep

theorem Later.raises (hlater : e.Later e') (hb : b < e.births) :
    b < e'.births ∧ (e.ward b).Becomes (e'.ward b) := by
  induction hlater with
  | refl => exact ⟨hb, rfl, id⟩
  | tail _ hstep ih =>
      obtain ⟨ev, hstep⟩ := hstep
      obtain ⟨hb', hbecomes⟩ := ih
      exact ⟨(hstep.raises hb').1, hbecomes.trans (hstep.raises hb').2⟩

theorem Sound.gone_of_tellsEnd (he : e.Sound) (hstep : e.Step ev e') (htells : e.TellsEnd b ev) :
    b < e.births ∧ (e'.ward b).life = .gone := by
  cases hstep with
  | pause | spawn | start | dropSlot => exact htells.elim
  | handle has outside plays =>
      obtain ⟨rfl, hu⟩ := htells
      exact ⟨(he.handles _ _ has).1, ((he.keeps_handle has).handleUse plays).2 hu _ rfl⟩
  | @slot s u a k plays =>
      cases u with
      | start | stop | teardown | dropGuard => exact htells.elim
      | isRunning =>
          cases a with
          | true => exact htells.elim
          | false =>
              obtain ⟨hslot, hhandle⟩ := htells
              obtain ⟨h, hh⟩ := Option.ne_none_iff_exists'.mp hhandle
              have hheld : (e.slotted s).held ≠ none := by
                change (e.slot s).bind e.handle ≠ none
                rw [hslot, Option.bind_some]
                exact hhandle
              have hends := ((he.keeps_slotted s).isRunning plays).2.1 rfl hheld
              exact ⟨(he.handles b h hh).1, hends b hslot⟩

theorem Sound.over (he : e.Sound) (hgone : (e.ward b).life = .gone) : e.Over b where
  gone := hgone
  stopped h hh := (he.handles b h hh).2.stopped hgone
  not_alive alive e' hstep := by
    cases hstep with
    | @handle _ h _ _ left n has outside plays =>
        obtain ⟨⟨looked, h'⟩, m, hlook, hdone⟩ := plays_bind_iff.mp plays
        obtain ⟨hresult, rfl⟩ := plays_pure_iff.mp hdone
        obtain ⟨rfl, -⟩ := Prod.mk.inj hresult
        exact ((he.keeps_handle has).isAlive hlook).2.2 b rfl hgone
  not_running s running e' hslot hstep := by
    cases hstep with
    | slot plays => exact ((he.keeps_slotted s).isRunning plays).2.2 b hslot hgone

end Estate

/-- What must hold of all that is noted of one child: it is asked to end at most once and killed at
most once, it is killed only after it was asked and outstayed the time that it was given, no signal
is sent once its end was taken note of, and none is ever sent to another number than its own. -/
structure Disciplined (notices : List Notice) : Prop where
  asked_once : notices.count .asked ≤ 1
  killed_once : notices.count .killed ≤ 1
  killed_late : ∀ before after, notices = before ++ .killed :: after →
    [.asked, .outstayed].Sublist before
  reaped_last : ∀ before after, notices = before ++ .reaped :: after →
    .asked ∉ after ∧ .killed ∉ after
  own_number : .strayed ∉ notices

theorem killed_late_of_not_mem {l : List Notice} (hkilled : .killed ∉ l)
    (before after : List Notice) (h : l = before ++ .killed :: after) :
    [.asked, .outstayed].Sublist before := by
  rw [h] at hkilled
  exact absurd (List.mem_append_right _ List.mem_cons_self) hkilled

theorem reaped_last_of_append {l : List Notice} (hreaped : .reaped ∉ l)
    (before after : List Notice) (h : l ++ [.reaped] = before ++ .reaped :: after) :
    .asked ∉ after ∧ .killed ∉ after := by
  have hnil : Notice.reaped ∉ ([] : List Notice) := List.not_mem_nil
  obtain ⟨-, -, rfl⟩ := (List.append_cons_inj_of_notMem hreaped hnil).mp h
  exact ⟨List.not_mem_nil, List.not_mem_nil⟩

theorem disciplined_nil : Disciplined [] where
  asked_once := Nat.zero_le 1
  killed_once := Nat.zero_le 1
  killed_late := killed_late_of_not_mem List.not_mem_nil
  reaped_last before after h := by
    cases before <;> cases h
  own_number := List.not_mem_nil

theorem disciplined_of_mem_endings {l : List Notice} (h : l ∈ Ward.endings) : Disciplined l := by
  rcases List.mem_cons.mp h with rfl | h
  · exact ⟨by decide, by decide, killed_late_of_not_mem (by decide),
      reaped_last_of_append (l := []) (by decide), by decide⟩
  rcases List.mem_cons.mp h with rfl | h
  · exact ⟨by decide, by decide, killed_late_of_not_mem (by decide),
      reaped_last_of_append (l := [.asked]) (by decide), by decide⟩
  obtain rfl := List.mem_singleton.mp h
  refine ⟨by decide, by decide, fun before after hkilled => ?_,
    reaped_last_of_append (l := [.asked, .outstayed, .killed]) (by decide), by decide⟩
  -- The child was killed once, and what had been noted of it by then is all that comes before.
  have hsplit : [.asked, .outstayed] ++ .killed :: [.reaped] = before ++ .killed :: after := hkilled
  have hearlier : Notice.killed ∉ [Notice.asked, .outstayed] := by decide
  have hlater : Notice.killed ∉ [Notice.reaped] := by decide
  obtain ⟨rfl, -, -⟩ := (List.append_cons_inj_of_notMem hearlier hlater).mp hsplit
  exact List.Sublist.refl _

theorem Ward.Sound.disciplined {w : Ward} (hw : w.Sound) : Disciplined w.notices := by
  rcases hw with ⟨-, hnone⟩ | ⟨-, hnotices⟩
  · rw [hnone]
    exact disciplined_nil
  · exact disciplined_of_mem_endings hnotices

namespace Estate

/-- Whatever is done with handles and slots, one after the other, each child that was ever started is
asked to end at most once and killed at most once, killed only where it outstayed the time to end,
and sent no signal once its end was taken note of; no two children that are not gone have one number.
Once somebody was told that a child has ended, or has ended it, it is gone, and its handle says so for
good. -/
theorem Later.signals_disciplined {e : Estate} (he : empty.Later e) :
    (∀ b < e.births, Disciplined (e.ward b).notices) ∧
      (∀ b < e.births, ∀ b' < e.births, (e.ward b).life ≠ .gone → (e.ward b').life ≠ .gone →
        (e.ward b).pid = (e.ward b').pid → b = b') ∧
      ∀ b ev e₁ e₂, e.TellsEnd b ev → e.Step ev e₁ → e₁.Later e₂ → e₂.Over b := by
  have hsound := he.sound sound_empty
  refine ⟨fun b hb => (hsound.wards b hb).disciplined, hsound.apart, ?_⟩
  intro b ev e₁ e₂ htells hstep hlater
  obtain ⟨hb, hgone⟩ := hsound.gone_of_tellsEnd hstep htells
  have hgone₂ := (hlater.raises (hstep.raises hb).1).2.gone hgone
  exact (hlater.sound (hsound.step hstep)).over hgone₂

theorem stop_plain_killed :
    (HandleUse.stop.body (.fresh .plain 7)).Plays wardWorld (.newborn 7)
      ((), some { NodeHandle.fresh .plain 7 with child? := none, state := .stopped })
      ⟨7, .gone, [.asked, .outstayed, .killed, .reaped]⟩ := by
  refine ⟨[⟨.hasExited 7, false⟩, ⟨.terminate 7, ()⟩, ⟨.awaitExit 7 0, false⟩, ⟨.kill 7, ()⟩,
    ⟨.reap 7, ()⟩, ⟨.removeFile "logs/node.log", .ok ()⟩], ?_, ?_⟩
  · exact .ask (.ask (.ask (.ask (.ask (.ask (.done _))))))
  · exact ⟨.newborn 7, ⟨_, .inl rfl, rfl, rfl⟩, ⟨7, .living, [.asked]⟩, ⟨_, .inl rfl, rfl⟩,
      ⟨7, .living, [.asked, .outstayed]⟩, ⟨_, .inl rfl, by decide, rfl⟩,
      ⟨7, .ended, [.asked, .outstayed, .killed]⟩, ⟨_, .inl rfl, rfl⟩,
      ⟨7, .gone, [.asked, .outstayed, .killed, .reaped]⟩, ⟨_, .inl rfl, by decide, rfl⟩,
      _, ⟨_, .inl rfl, rfl⟩, rfl⟩

theorem spawn_plain_born :
    (NodeHandle.spawn .plain).Plays nurseryWorld (empty.nursery none) (.ok (.fresh .plain 7))
      ((empty.nursery none).bear 7) := by
  refine ⟨[⟨.createDirectories "logs", .ok ()⟩, ⟨.createFile "logs/node.log", .ok 0⟩,
    ⟨.spawn "./node" ["--dev"] "/project" 0, .ok 7⟩], .ask (.ask (.ask (.done _))), ?_⟩
  have hidle {c : MachineCall} {a : c.Answer} (hown : ¬ c.Spawns) :
      nurseryWorld c (empty.nursery none) a (empty.nursery none) :=
    nurseryWorld_of_attends hown ⟨rfl, rfl, fun _ hb => (nomatch hb), fun _ _ => .inl rfl⟩
  exact ⟨_, hidle id, _, hidle id, _, ⟨_, .refl _, fun b hb => absurd hb (Nat.not_lt_zero b), rfl⟩,
    rfl⟩

theorem signals_disciplined_killed :
    let n := (empty.nursery none).bear 7
    let e₁ := empty.after none (some (.fresh .plain 7)) n
    let e₂ := e₁.after (some 0)
      (some { NodeHandle.fresh .plain 7 with child? := none, state := .stopped })
      (n.become 0 ⟨7, .gone, [.asked, .outstayed, .killed, .reaped]⟩)
    empty.Later e₁ ∧ e₁.Step (.handle 0 .stop ()) e₂ ∧
      (e₂.ward 0).notices = [.asked, .outstayed, .killed, .reaped] ∧
      Disciplined (e₂.ward 0).notices ∧ e₂.Over 0 := by
  intro n e₁ e₂
  have hspawn : empty.Step (.spawn .plain) e₁ := .spawn spawn_plain_born
  have hlater : empty.Later e₁ := .single ⟨_, hspawn⟩
  have hasks : (HandleUse.stop.body (.fresh .plain 7)).Asks fun c => ¬ c.Spawns :=
    Asks.bind (NodeHandle.stop_asks MachineCall.not_spawns_of_child id) fun _ => trivial
  have hkilled := stop_plain_killed
  rw [← Nursery.bear_ward_self (empty.nursery none) 7] at hkilled
  have hplays := Nursery.plays_of_ward (n := n) hasks hkilled rfl
  have houtside : ∀ s, e₁.slot s ≠ some 0 := fun s hs => (nomatch hs)
  have hstop : e₁.Step (.handle 0 .stop ()) e₂ := .handle rfl houtside hplays
  refine ⟨hlater, hstop, ?_, ?_, ?_⟩
  · exact congrArg Ward.notices (Nursery.become_ward_self n 0 _)
  · exact (Later.signals_disciplined (hlater.tail ⟨_, hstop⟩)).1 0 Nat.zero_lt_one
  · exact (Later.signals_disciplined hlater).2.2 0 (.handle 0 .stop ()) e₂ e₂ ⟨rfl, trivial⟩ hstop
      .refl

end Estate

end NodeTrial
