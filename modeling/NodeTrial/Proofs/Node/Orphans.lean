import NodeTrial.Proofs.Node.Keeping

namespace NodeTrial

open Offspring

/-- The ways in which the slot is used. -/
inductive SlotUse
  | start (l : Launch)
  | isRunning
  | stop
  | teardown
  /-- Give up the guard that ends what is in the slot. -/
  | dropGuard

namespace SlotUse

def Answer : SlotUse → Type
  | start _ => Except StartFailure Pid
  | isRunning => Bool
  | stop | teardown | dropGuard => Unit

def thread : (u : SlotUse) → Thread u.Answer
  | start l => NodeSlot.start l
  | isRunning => NodeSlot.isRunning
  | stop => Request.steps .stopNode
  | teardown => NodeSlot.teardown
  | dropGuard => NodeSlot.guarded (pure ())

end SlotUse

namespace Keeping

/-- What the slot and its children can come to when the slot, empty at first, is used by one use
after the other, and children may end in between. -/
inductive Reached : Keeping → Prop
  | initial : Reached ⟨none, []⟩
  | drift {k : Keeping} {cs : List Offspring} (before : Reached k)
      (ends : Drift k.children cs) : Reached ⟨k.held, cs⟩
  | use {k k' : Keeping} (u : SlotUse) {a : u.Answer} (before : Reached k)
      (plays : u.thread.Plays threadWorld k a k') : Reached k'

theorem Tended.teardown {k k' : Keeping} {u : Unit} (hk : k.Tended)
    (h : NodeSlot.teardown.Plays threadWorld k u k') : k'.Tended := by
  obtain ⟨hheld, hspent⟩ := NodeSlot.teardown_plays hk h
  exact .of_empty hheld hspent

/-- Every use of the slot leaves it tended. -/
theorem Tended.use {k k' : Keeping} {u : SlotUse} {a : u.Answer} (hk : k.Tended)
    (h : u.thread.Plays threadWorld k a k') : k'.Tended := by
  cases u with
  | start l =>
      rcases NodeSlot.start_plays hk h with ⟨e, -, hheld, hspent⟩ | ⟨p, m, rest, -, -, -, rfl, hrest⟩
      · exact .of_empty hheld hspent
      · exact ⟨p, .living, rest, rfl, rfl, rfl, hrest⟩
  | isRunning => exact NodeSlot.isRunning_plays hk h
  | stop => exact hk.teardown h
  | teardown => exact hk.teardown h
  | dropGuard =>
      obtain ⟨_, k₁, hpure, h₁⟩ := Dialogue.plays_bind_iff.mp h
      obtain ⟨-, rfl⟩ := Dialogue.plays_pure_iff.mp hpure
      obtain ⟨_, k₂, hteardown, hdone⟩ := Dialogue.plays_bind_iff.mp h₁
      obtain ⟨-, rfl⟩ := Dialogue.plays_pure_iff.mp hdone
      exact hk.teardown hteardown

theorem Reached.tended {k : Keeping} (h : Reached k) : k.Tended := by
  -- Between two uses children may end by themselves, which leaves the slot tended as well.
  induction h with
  | initial => exact List.forall_mem_nil _
  | drift before ends ih => exact ih.drift ends
  | use u before plays ih => exact ih.use plays

def living (k : Keeping) : List Offspring := k.children.filter (·.life = .living)

theorem living_of_spent {k : Keeping} (h : Spent k.children) : k.living = [] := by
  apply List.filter_eq_nil_iff.mpr
  intro c hc
  rw [h c hc]
  decide

theorem living_cons {held : Option NodeHandle} {p : Pid} {l : Life} {rest : List Offspring}
    (h : Spent rest) : (Keeping.mk held (⟨p, l⟩ :: rest)).living =
      if l = .living then [⟨p, .living⟩] else [] := by
  have hrest : rest.filter (fun c => decide (c.life = .living)) = [] :=
    living_of_spent (k := ⟨held, rest⟩) h
  rw [living, List.filter_cons, hrest]
  cases l <;> rfl

theorem Tended.living_eq {k : Keeping} (h : k.Tended) :
    k.living = [] ∨ ∃ handle p, k.held = some handle ∧ handle.child? = some p ∧
      handle.pid? = some p ∧ k.living = [⟨p, .living⟩] := by
  obtain ⟨_ | handle, cs⟩ := k
  · exact .inl (living_of_spent h)
  · obtain ⟨p, l, rest, rfl, hchild, hpid, hrest⟩ := h
    rw [living_cons hrest]
    split
    · exact .inr ⟨handle, p, rfl, hchild, hpid, rfl⟩
    · exact .inl rfl

/-- After any uses of a slot one after the other, at most one child that was ever started is living,
the one that the slot holds, and nothing is left of any child if the slot is empty. A start that
succeeds tells the number of the child that the slot then holds and that was living when it was
looked at after it had settled, and one that fails leaves the slot empty. -/
theorem Reached.no_orphan {k : Keeping} (h : Reached k) :
    k.living.length ≤ 1 ∧
      (∀ c ∈ k.living, ∃ handle, k.held = some handle ∧ handle.child? = some c.pid ∧
        handle.pid? = some c.pid) ∧
      (k.held = none → ∀ c ∈ k.children, c.life = .gone) ∧
      ∀ l r k', (NodeSlot.start l).Plays threadWorld k r k' →
        (∀ e, r = .error e → k'.held = none) ∧
        ∀ pid, r = .ok pid → ∃ handle m, k'.held = some handle ∧ handle.child? = some pid ∧
          handle.pid? = some pid ∧ (NodeSlot.settled l).Plays threadWorld k (.ok handle) m ∧
          Thread.confirm.Plays threadWorld m (.ok ()) k' ∧ k'.living = [⟨pid, .living⟩] := by
  have htended := h.tended
  refine ⟨?_, ?_, ?_, ?_⟩
  · rcases htended.living_eq with hnone | ⟨handle, p, -, -, -, hone⟩
    · simp [hnone]
    · simp [hone]
  · rcases htended.living_eq with hnone | ⟨handle, p, hheld, hchild, hpid, hone⟩
    · rw [hnone]
      exact List.forall_mem_nil _
    · rw [hone]
      exact List.forall_mem_singleton.mpr ⟨handle, hheld, hchild, hpid⟩
  · intro hheld
    obtain ⟨held, cs⟩ := k
    obtain rfl : held = none := hheld
    exact htended
  · intro l r k' hstart
    rcases NodeSlot.start_plays htended hstart with
      ⟨e, rfl, hheld, -⟩ | ⟨p, m, rest, rfl, hsettled, hconfirm, rfl, hrest⟩
    · exact ⟨fun _ _ => hheld, fun pid hpid => (nomatch hpid)⟩
    · refine ⟨fun e he => (nomatch he), ?_⟩
      intro pid hpid
      obtain rfl := Except.ok.inj hpid
      refine ⟨_, m, rfl, rfl, rfl, hsettled, hconfirm, ?_⟩
      exact living_cons hrest

theorem start_plain_plays :
    (NodeSlot.start .plain).Plays threadWorld ⟨none, []⟩ (.ok 7)
      ⟨some (.fresh .plain 7), [⟨7, .living⟩]⟩ := by
  refine ⟨[⟨.slot .take, none⟩, ⟨.machine (.createDirectories "logs"), .ok ()⟩,
    ⟨.machine (.createFile "logs/node.log"), .ok 0⟩,
    ⟨.machine (.spawn "./node" ["--dev"] "/project" 0), .ok 7⟩,
    ⟨.slot (.put (.fresh .plain 7)), ()⟩, ⟨.slot .confirm, .ok ()⟩], ?_, ?_⟩
  · exact .ask (.ask (.ask (.ask (.ask (.ask (.done _))))))
  · refine ⟨⟨none, []⟩, Dialogue.plays_pure_iff.mpr ⟨rfl, rfl⟩, ⟨none, []⟩, ⟨rfl, [], .refl _, rfl⟩,
      ⟨none, []⟩, ⟨rfl, [], .refl _, rfl⟩, ⟨none, [⟨7, .living⟩]⟩, ⟨rfl, [], .refl _, ?_, rfl⟩,
      ⟨some (.fresh .plain 7), [⟨7, .living⟩]⟩, Dialogue.plays_pure_iff.mpr ⟨rfl, rfl⟩,
      ⟨some (.fresh .plain 7), [⟨7, .living⟩]⟩, ?_, rfl⟩
    · exact List.forall_mem_nil _
    · refine ⟨[⟨.hasExited 7, false⟩], .ask (.done _), [⟨7, .living⟩], ?_, rfl⟩
      exact ⟨[⟨7, .living⟩], .refl _, rfl, rfl⟩

theorem no_orphan_plain :
    let k : Keeping := ⟨some (.fresh .plain 7), [⟨7, .living⟩]⟩
    k.Reached ∧ k.living.length ≤ 1 ∧
      (∃ handle, k.held = some handle ∧ handle.child? = some 7 ∧ handle.pid? = some 7) ∧
      k.living = [⟨7, .living⟩] := by
  intro k
  have hreached : k.Reached := .use (.start .plain) .initial start_plain_plays
  obtain ⟨hone, hheld, -, -⟩ := hreached.no_orphan
  obtain ⟨-, -, -, hstart⟩ := Reached.initial.no_orphan
  obtain ⟨handle, m, -, -, -, -, -, hliving⟩ := (hstart _ _ _ start_plain_plays).2 7 rfl
  refine ⟨hreached, hone, hheld ⟨7, .living⟩ ?_, hliving⟩
  rw [hliving]
  exact List.mem_singleton.mpr rfl

end Keeping

end NodeTrial
