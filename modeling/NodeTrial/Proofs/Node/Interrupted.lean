import NodeTrial.Proofs.Node.StartSteps

namespace NodeTrial

open Offspring Dialogue

theorem Offspring.Drift.trans {cs₁ cs₂ cs₃ : List Offspring} (h₁ : Drift cs₁ cs₂)
    (h₂ : Drift cs₂ cs₃) : Drift cs₁ cs₃ := by
  induction h₁ generalizing cs₃ with
  | nil => exact h₂
  | cons hc hcs ih =>
      cases h₂ with
      | cons hc' hcs' =>
          refine .cons ⟨hc'.1.trans hc.1, ?_⟩ (ih hcs')
          rcases hc.2 with hsame | ⟨hliving, hended⟩
          · rw [← hsame]
            exact hc'.2
          · rcases hc'.2 with hsame | ⟨hliving', -⟩
            · exact .inr ⟨hliving, hsame.trans hended⟩
            · rw [hended] at hliving'
              cases hliving'

section Empty

variable {k k' : Keeping}

theorem held_eq_none_of_step {q : ThreadStep} {a : q.Answer} (hput : ¬ q.IsPut)
    (hheld : k.held = none) (h : threadWorld q k a k') : k'.held = none := by
  obtain ⟨held, cs⟩ := k
  obtain rfl : held = none := hheld
  cases q with
  | machine c => exact h.1
  | request q => exact h.1
  | slot q =>
      cases q with
      | put handle => exact absurd ⟨handle, rfl⟩ hput
      | _ => exact (Prod.mk.inj (plays_pure_iff.mp h).1).2

theorem held_eq_none_of_follows {t : List (Exchange ThreadStep ThreadStep.Answer)}
    (hput : ∀ e ∈ t, ¬ e.1.IsPut) (hheld : k.held = none) (h : Follows threadWorld k t k') :
    k'.held = none :=
  Follows.preserves (·.held = none)
    (fun _ _ _ _ hq hstep hheld => held_eq_none_of_step hq hheld hstep) hput hheld h

theorem drift_of_afterward {q : ThreadStep} {a : q.Answer} (hq : q.IsAfterward)
    (hheld : k.held = none) (h : threadWorld q k a k') :
    k'.held = none ∧ Drift k.children k'.children := by
  obtain ⟨held, cs⟩ := k
  obtain rfl : held = none := hheld
  cases q with
  | request q => exact hq.elim
  | machine c =>
      cases c with
      | sleep time => exact ⟨h.1, Care.idle_plays (plays_question_iff.mpr h.2) trivial⟩
      | _ => exact hq.elim
  | slot q =>
      cases q with
      | confirm =>
          obtain ⟨hresult, hchildren⟩ := plays_pure_iff.mp h
          refine ⟨(Prod.mk.inj hresult).2, ?_⟩
          rw [hchildren]
          exact Drift.refl _
      | _ => exact hq.elim

theorem Follows.of_drift {cs : List Offspring} {t : List (Exchange ThreadStep ThreadStep.Answer)}
    (hdrift : Drift cs k.children) (ht : ∀ e ∈ t, e.1.IsMachine)
    (h : Follows threadWorld k t k') :
    ∃ m, Follows threadWorld ⟨k.held, cs⟩ t m ∧ m.held = k'.held ∧ Drift m.children k'.children := by
  cases t with
  | nil =>
      obtain rfl := h
      exact ⟨⟨k'.held, cs⟩, rfl, rfl, hdrift⟩
  | cons e t =>
      obtain ⟨q, a⟩ := e
      obtain ⟨c, rfl⟩ : ThreadStep.IsMachine q := ht _ List.mem_cons_self
      obtain ⟨k₁, ⟨hheld, m, hm, hanswer⟩, hrest⟩ := h
      exact ⟨k', ⟨k₁, ⟨hheld, m, hdrift.trans hm, hanswer⟩, hrest⟩, rfl, Drift.refl _⟩

theorem follows_stepsOf_second {run : Interleaving ThreadStep ThreadStep.Answer}
    (hheld : k.held = none) (hfirst : ∀ e ∈ stepsOf .first run, e.1.IsAfterward)
    (hsecond : ∀ e ∈ stepsOf .second run, e.1.IsMachine)
    (h : Follows threadWorld k (run.map (·.2)) k') :
    k'.held = none ∧ ∃ m, Follows threadWorld k (stepsOf .second run) m ∧ m.held = none ∧
      Drift m.children k'.children := by
  -- The slot stays empty all the while, which is what the induction needs of each step.
  induction run generalizing k with
  | nil =>
      obtain rfl := h
      exact ⟨hheld, k', rfl, hheld, Drift.refl _⟩
  | cons step run ih =>
      obtain ⟨side, e⟩ := step
      obtain ⟨k₁, he, hrest⟩ := h
      cases side with
      | first =>
          obtain ⟨hafterward, hfirst⟩ := List.forall_mem_cons.mp hfirst
          obtain ⟨hheld₁, hdrift⟩ := drift_of_afterward hafterward hheld he
          obtain ⟨hheld', m, hm, hmheld, hmdrift⟩ := ih hheld₁ hfirst hsecond hrest
          obtain ⟨n, hn, hnheld, hndrift⟩ := Follows.of_drift hdrift hsecond hm
          rw [hheld₁, ← hheld] at hn
          exact ⟨hheld', n, hn, hnheld.trans hmheld, hndrift.trans hmdrift⟩
      | second =>
          obtain ⟨q, a⟩ := e
          obtain ⟨hmachine, hrestSecond⟩ := List.forall_mem_cons.mp hsecond
          obtain ⟨c, rfl⟩ : ThreadStep.IsMachine q := hmachine
          obtain ⟨hheld', m, hm, hmheld, hmdrift⟩ := ih (he.1.trans hheld) hfirst hrestSecond hrest
          exact ⟨hheld', m, ⟨k₁, he, hm⟩, hmheld, hmdrift⟩

end Empty

theorem tended_of_afterward {k k' : Keeping} {q : ThreadStep} {a : q.Answer} (hq : q.IsAfterward)
    (hk : k.Tended) (h : threadWorld q k a k') : k'.Tended := by
  obtain ⟨held, cs⟩ := k
  obtain ⟨held', cs'⟩ := k'
  cases q with
  | request q => exact hq.elim
  | machine c =>
      cases c with
      | sleep time =>
          obtain ⟨rfl, hsleep⟩ := h
          exact hk.drift (Care.idle_plays (plays_question_iff.mpr hsleep) trivial)
      | _ => exact hq.elim
  | slot q =>
      cases q with
      | confirm =>
          cases held with
          | none =>
              obtain ⟨hheld, hdrift⟩ := drift_of_afterward hq rfl h
              exact .of_empty hheld (by rw [Spent.drift hk hdrift]; exact hk)
          | some handle =>
              obtain ⟨p, l, rest, rfl, hchild, hpid, hrest⟩ := hk
              rcases NodeSlot.confirm_plays hrest hchild (plays_question_iff.mpr h) with
                ⟨-, hk'⟩ | ⟨e, -, hheld, hspent⟩
              · rw [hk']
                exact ⟨p, .living, rest, rfl, hchild, hpid, hrest⟩
              · exact .of_empty hheld hspent
      | _ => exact hq.elim

theorem tended_of_follows {k k' : Keeping} {t : List (Exchange ThreadStep ThreadStep.Answer)}
    (ht : ∀ e ∈ t, e.1.IsAfterward) (hk : k.Tended) (h : Follows threadWorld k t k') :
    k'.Tended :=
  Follows.preserves Keeping.Tended
    (fun _ _ _ _ hq hstep hk => tended_of_afterward hq hk hstep) ht hk h

namespace NodeSlot

theorem start_ends_none {l : Launch} {k k' : Keeping} {e : Exchange ThreadStep ThreadStep.Answer}
    {t : List (Exchange ThreadStep ThreadStep.Answer)} {left : Thread (Except StartFailure Pid)}
    (h : (start l).Advances (e :: t) left) (hheld : k.held = none)
    (he : threadWorld e.1 k e.2 k') : ∀ e' ∈ e :: t, ¬ e'.1.EndsChild := by
  rw [start_eq_afterSpawn] at h
  cases h with
  | @ask _ _ taken _ _ more =>
      obtain ⟨htaken, -⟩ := Thread.take_plays (plays_question_iff.mpr he)
      obtain rfl : taken = none := htaken.trans hheld
      exact List.forall_mem_cons.mpr ⟨id, (afterTeardown_asks l).of_advances more⟩

/-- Once the node is in the slot, the slot is tended, and a start does nothing more to the children
but look. -/
theorem tended_of_start {l : Launch} {k k' : Keeping}
    {t : List (Exchange ThreadStep ThreadStep.Answer)} {left : Thread (Except StartFailure Pid)}
    (hk : k.Tended) (h : (start l).Advances t left) (hput : ∃ e ∈ t, e.1.IsPut)
    (hfollows : Follows threadWorld k t k') :
    k'.Tended ∧ left.Asks ThreadStep.IsAfterward := by
  obtain ⟨t₁, t₂, t₃, handle, rfl, hteardown, hspawn, hafter⟩ := start_advances_put h hput
  obtain ⟨k₁, hk₁, hfollows₁⟩ := follows_append.mp hfollows
  obtain ⟨k₂, hk₂, k₃, hput₃, hfollows₃⟩ := follows_append.mp hfollows₁
  obtain ⟨hheld₁, hspent⟩ := teardown_plays hk ⟨t₁, hteardown, hk₁⟩
  obtain ⟨hheld₂, hspawned⟩ := Thread.care_plays_iff.mp ⟨t₂, hspawn, hk₂⟩
  rw [hheld₁] at hheld₂
  obtain rfl := put_plays hheld₂ (plays_question_iff.mpr hput₃)
  have hk₃ : (Keeping.mk (some handle) k₂.children).Tended := by
    rcases NodeHandle.spawn_plays hspent hspawned with ⟨e, he, -⟩ | ⟨p, hhandle, hchildren⟩
    · cases he
    · obtain rfl := Except.ok.inj hhandle
      exact ⟨p, .living, k₁.children, hchildren, rfl, rfl, hspent⟩
  have hasks := afterPut_asks l handle
  exact ⟨tended_of_follows (hasks.of_advances hafter) hk₃ hfollows₃, hasks.left hafter⟩

end NodeSlot

/-- A start and the watcher took steps in some order until the watcher was done, and the program
with it, however far the start had come. -/
structure Interrupted (l : Launch) (i : Interruption) (k : Keeping)
    (run : Interleaving ThreadStep ThreadStep.Answer) (k' : Keeping) : Prop where
  starting : ∃ left, (NodeSlot.start l).Advances (stepsOf .first run) left
  watching : i.watcher.Leads (stepsOf .second run) i.exitCode
  follows : Follows threadWorld k (run.map (·.2)) k'

/-- The node was in the slot before the watcher did anything. -/
def StoredFirst (run : Interleaving ThreadStep ThreadStep.Answer) : Prop :=
  ∃ e ∈ headStart run, e.1.IsPut

theorem storedFirst_append_second_iff {t u : List (Exchange ThreadStep ThreadStep.Answer)}
    {e : Exchange ThreadStep ThreadStep.Answer} :
    StoredFirst (t.map (Side.first, ·) ++ (e :: u).map (Side.second, ·)) ↔
      ∃ e' ∈ t, e'.1.IsPut := by
  rw [StoredFirst, headStart_append_second]

namespace Interrupted

variable {l : Launch} {i : Interruption} {k k' : Keeping}
  {run : Interleaving ThreadStep ThreadStep.Answer}

/-- What an interrupted start is made of: the steps of the start up to the moment at which the
watcher takes what is in the slot, and the steps of both from then on. -/
theorem split (h : Interrupted l i k run k') :
    ∃ (k₁ : Keeping) (after : Interleaving ThreadStep ThreadStep.Answer)
      (middle left : Thread (Except StartFailure Pid)),
      (NodeSlot.start l).Advances (headStart run) middle ∧
      Follows threadWorld k (headStart run) k₁ ∧
      stepsOf .first run = headStart run ++ stepsOf .first after ∧
      stepsOf .second run = ⟨.slot .take, k₁.held⟩ :: stepsOf .second after ∧
      middle.Advances (stepsOf .first after) left ∧
      Follows threadWorld ⟨none, k₁.children⟩ (after.map (·.2)) k' := by
  obtain ⟨left, hstart⟩ := h.starting
  obtain ⟨taken, t', hsecond, -, -⟩ := NodeSlot.teardown_leads (Interruption.watcher_leads h.watching)
  obtain ⟨after, hrun, hfirst, rfl⟩ := eq_headStart_append hsecond
  have hfollows := h.follows
  rw [hfirst] at hstart
  obtain ⟨middle, hmiddle, hleft⟩ := advances_append_iff.mp hstart
  have hsteps : run.map (·.2) = headStart run ++ ⟨.slot .take, taken⟩ :: after.map (·.2) := by
    conv_lhs => rw [hrun]
    simp [Function.comp_def]
  rw [hsteps] at hfollows
  obtain ⟨k₁, hk₁, k₂, htake, hafter⟩ := follows_append.mp hfollows
  obtain ⟨rfl, rfl⟩ := Thread.take_plays (plays_question_iff.mpr htake)
  exact ⟨k₁, after, middle, left, hmiddle, hk₁, hfirst, hsecond, hleft, hafter⟩

theorem spent_of_storedFirst (h : Interrupted l i k run k') (hk : k.Tended)
    (hstored : StoredFirst run) : k'.held = none ∧ Spent k'.children := by
  obtain ⟨k₁, after, middle, left, hmiddle, hk₁, -, hsecond, hleft, hafter⟩ := h.split
  obtain ⟨htended, hasks⟩ := NodeSlot.tended_of_start hk hmiddle hstored hk₁
  have hteardown := Interruption.watcher_leads h.watching
  obtain ⟨taken, t', ht', hmachine, -⟩ := NodeSlot.teardown_leads hteardown
  rw [hsecond] at hteardown ht'
  obtain ⟨-, rfl⟩ := List.cons.inj ht'
  -- From here on the start only lets time pass and looks into an empty slot, so that its steps can
  -- be left out and the watcher's are a teardown by itself.
  obtain ⟨hheld, m, hm, -, hdrift⟩ :=
    follows_stepsOf_second rfl (hasks.of_advances hleft) hmachine hafter
  have htake : threadWorld (.slot .take) k₁ k₁.held ⟨none, k₁.children⟩ :=
    plays_pure_iff.mpr ⟨rfl, rfl⟩
  obtain ⟨-, hspent⟩ := NodeSlot.teardown_plays htended ⟨_, hteardown, _, htake, hm⟩
  refine ⟨hheld, ?_⟩
  rw [hspent.drift hdrift]
  exact hspent

theorem stepsOf_second_of_not_storedFirst (h : Interrupted l i k run k') (hheld : k.held = none)
    (hstored : ¬ StoredFirst run) : stepsOf .second run = [⟨.slot .take, none⟩] := by
  obtain ⟨k₁, after, middle, left, -, hk₁, -, hsecond, -, -⟩ := h.split
  have hheld₁ : k₁.held = none :=
    held_eq_none_of_follows (fun e he hput => hstored ⟨e, he, hput⟩) hheld hk₁
  obtain ⟨taken, t', ht', -, hnone⟩ :=
    NodeSlot.teardown_leads (Interruption.watcher_leads h.watching)
  rw [hsecond, hheld₁] at ht'
  obtain ⟨htaken, hsame⟩ := List.cons.inj ht'
  rw [hsecond, hheld₁, hsame, hnone (eq_of_heq (Sigma.mk.inj htaken).2).symm]

theorem first_ends_none (h : Interrupted l i k run k') (hheld : k.held = none)
    (hstored : ¬ StoredFirst run) : ∀ e ∈ stepsOf .first run, ¬ e.1.EndsChild := by
  have halone := h.stepsOf_second_of_not_storedFirst hheld hstored
  obtain ⟨left, hstart⟩ := h.starting
  obtain ⟨k₁, after, -, -, -, hk₁, hfirst, hsecond, -, hafter⟩ := h.split
  rw [hfirst] at hstart ⊢
  -- The start begins by taking what is in the slot, before the watcher comes or after it. The slot
  -- is empty either way, so there is nothing that this teardown could end.
  cases hhead : headStart run with
  | cons e t =>
      rw [hhead] at hstart hk₁
      obtain ⟨m, he, -⟩ := hk₁
      exact NodeSlot.start_ends_none hstart hheld he
  | nil =>
      rw [hhead] at hstart
      have hnone : stepsOf .second after = [] := by
        rw [hsecond] at halone
        exact (List.cons.inj halone).2
      rw [← stepsOf_first_of_alone hnone] at hafter
      cases hrest : stepsOf .first after with
      | nil => exact List.forall_mem_nil _
      | cons e t =>
          rw [hrest] at hstart hafter
          obtain ⟨m, he, -⟩ := hafter
          exact NodeSlot.start_ends_none hstart rfl he

theorem ends_none_of_not_storedFirst (h : Interrupted l i k run k') (hheld : k.held = none)
    (hstored : ¬ StoredFirst run) : ∀ step ∈ run, ¬ step.2.1.EndsChild := by
  rintro ⟨side, e⟩ hstep
  have hside : e ∈ stepsOf side run :=
    List.mem_map.mpr ⟨(side, e), List.mem_filter.mpr ⟨hstep, decide_eq_true rfl⟩, rfl⟩
  cases side with
  | first => exact h.first_ends_none hheld hstored e hside
  | second =>
      rw [h.stepsOf_second_of_not_storedFirst hheld hstored] at hside
      rw [List.mem_singleton.mp hside]
      exact id

end Interrupted

theorem Interrupted.of_head {l : Launch} {i : Interruption} {k k' k'' : Keeping}
    {t u : List (Exchange ThreadStep ThreadStep.Answer)} {left : Thread (Except StartFailure Pid)}
    (hstart : (NodeSlot.start l).Advances t left) (hfirst : Follows threadWorld k t k')
    (hwatch : i.watcher.Leads u i.exitCode) (hsecond : Follows threadWorld k' u k'') :
    Interrupted l i k (t.map (Side.first, ·) ++ u.map (Side.second, ·)) k'' where
  starting := ⟨left, by rw [stepsOf_first_append_second]; exact hstart⟩
  watching := by
    rw [stepsOf_second_append_second]
    exact hwatch
  follows := by
    have hsteps : (t.map (Side.first, ·) ++ u.map (Side.second, ·)).map (·.2) = t ++ u := by
      simp [Function.comp_def]
    rw [hsteps]
    exact follows_append.mpr ⟨k', hfirst, hsecond⟩

theorem take_of_empty (cs : List Offspring) :
    Follows threadWorld ⟨none, cs⟩ [⟨.slot .take, none⟩] ⟨none, cs⟩ :=
  ⟨⟨none, cs⟩, plays_pure_iff.mpr ⟨rfl, rfl⟩, rfl⟩

theorem Interruption.watcher_leads_of_empty (i : Interruption) :
    i.watcher.Leads [⟨.slot .take, none⟩] i.exitCode :=
  .ask (.done _)

theorem NodeHandle.exists_spawn (l : Launch) :
    (NodeHandle.spawn l).Plays childWorld [] (.ok (.fresh l 1)) [⟨1, .living⟩] := by
  have granted {c : MachineCall} {a : c.Answer} {cs : List Offspring} (h : c.answered [] a cs) :
      (Care.ask c).Plays childWorld [] a cs :=
    plays_question_iff.mpr ⟨[], .refl _, h⟩
  have hprepare : (prepareLog l.logPath).Plays childWorld [] (.ok ()) [] := by
    unfold prepareLog
    split
    · exact plays_pure_iff.mpr ⟨rfl, rfl⟩
    · exact plays_bind_iff.mpr ⟨.ok (), [], granted rfl, plays_pure_iff.mpr ⟨rfl, rfl⟩⟩
  refine plays_bind_iff.mpr ⟨.ok 1, [⟨1, .living⟩], ?_, plays_pure_iff.mpr ⟨rfl, rfl⟩⟩
  refine plays_bind_iff.mpr ⟨.ok (), [], hprepare, ?_⟩
  refine plays_bind_iff.mpr ⟨.ok 0, [], granted rfl, ?_⟩
  refine plays_bind_iff.mpr ⟨.ok 1, [⟨1, .living⟩], granted ?_, plays_pure_iff.mpr ⟨rfl, rfl⟩⟩
  exact ⟨List.forall_mem_nil _, rfl⟩

theorem Thread.exists_spawn (l : Launch) :
    (Thread.care (NodeHandle.spawn l)).Plays threadWorld ⟨none, []⟩ (.ok (.fresh l 1))
      ⟨none, [⟨1, .living⟩]⟩ :=
  Thread.care_plays_iff.mpr ⟨rfl, NodeHandle.exists_spawn l⟩

theorem NodeSlot.teardown_of_empty : teardown.Leads [⟨.slot .take, none⟩] () :=
  .ask (.done _)

/-- A watcher that comes between the start of the child and its being put into the slot leaves it
living. -/
theorem exists_orphan_of_spawn (l : Launch) (i : Interruption) :
    ∃ run k', Interrupted l i ⟨none, []⟩ run k' ∧ ¬ StoredFirst run ∧
      k'.children = [⟨1, .living⟩] := by
  obtain ⟨t, hleads, hfollows⟩ := Thread.exists_spawn l
  have hstart : (NodeSlot.start l).Advances (⟨.slot .take, none⟩ :: t)
      (NodeSlot.afterSpawn l (.ok (.fresh l 1))) := by
    rw [NodeSlot.start_eq_afterSpawn]
    exact advances_bind_iff.mpr (.inr ⟨_, t, (), rfl, NodeSlot.teardown_of_empty,
      hleads.advances_bind⟩)
  refine ⟨_, _, .of_head hstart (follows_append.mpr ⟨_, take_of_empty [], hfollows⟩)
    i.watcher_leads_of_empty (take_of_empty _), ?_, rfl⟩
  intro hstored
  obtain ⟨e, he, hput⟩ := storedFirst_append_second_iff.mp hstored
  rcases List.mem_cons.mp he with rfl | he
  · exact ThreadStep.take_not_isPut hput
  · exact (Thread.care_asks_no_put _).of_leads hleads e he hput

theorem exists_orphan_of_teardown (l : Launch) (i : Interruption) (handle : NodeHandle)
    (cs : List Offspring) :
    ∃ run, Interrupted l i ⟨some handle, cs⟩ run ⟨none, cs⟩ ∧ ¬ StoredFirst run := by
  have hstart : (NodeSlot.start l).Advances [⟨.slot .take, some handle⟩] _ := .ask (.here _)
  have htake : Follows threadWorld ⟨some handle, cs⟩ [⟨.slot .take, some handle⟩] ⟨none, cs⟩ :=
    ⟨⟨none, cs⟩, plays_pure_iff.mpr ⟨rfl, rfl⟩, rfl⟩
  refine ⟨_, .of_head hstart htake i.watcher_leads_of_empty (take_of_empty cs), ?_⟩
  intro hstored
  obtain ⟨e, he, hput⟩ := storedFirst_append_second_iff.mp hstored
  obtain rfl := List.mem_singleton.mp he
  exact ThreadStep.take_not_isPut hput

/-- Whether an interrupted start leaves a child alone hangs on whether the node was in the slot before
the watcher came. If it was, nothing is left of any child. If it was not, and the slot was empty at
first, the watcher finds nothing, and nobody ends any child. There are two gaps in which the watcher
leaves a child living: the one between the start of the child and its being put into the slot, and
the one in which what was in the slot has been taken out of it to be ended. -/
theorem interrupted_start (l : Launch) (i : Interruption) :
    (∀ k run k', k.Tended → Interrupted l i k run k' →
      (StoredFirst run → k'.held = none ∧ ∀ c ∈ k'.children, c.life = .gone) ∧
      (k.held = none → ¬ StoredFirst run → stepsOf .second run = [⟨.slot .take, none⟩] ∧
        ∀ step ∈ run, ¬ step.2.1.EndsChild)) ∧
    (∃ run k', Interrupted l i ⟨none, []⟩ run k' ∧ ¬ StoredFirst run ∧
      k'.children = [⟨1, .living⟩]) ∧
    ∀ handle cs, ∃ run, Interrupted l i ⟨some handle, cs⟩ run ⟨none, cs⟩ ∧ ¬ StoredFirst run := by
  refine ⟨?_, exists_orphan_of_spawn l i, exists_orphan_of_teardown l i⟩
  intro k run k' hk h
  refine ⟨h.spent_of_storedFirst hk, fun hheld hstored => ?_⟩
  exact ⟨h.stepsOf_second_of_not_storedFirst hheld hstored,
    h.ends_none_of_not_storedFirst hheld hstored⟩

/-- The steps of a start until the node is in the slot, its child under the number 7. -/
def stepsToPut : List (Exchange ThreadStep ThreadStep.Answer) :=
  [⟨.slot .take, none⟩,
    ⟨.machine (.createDirectories "logs"), .ok ()⟩,
    ⟨.machine (.createFile "logs/node.log"), .ok 0⟩,
    ⟨.machine (.spawn "./node" ["--dev"] "/project" 0), .ok 7⟩,
    ⟨.slot (.put (.fresh .plain 7)), ()⟩]

/-- The steps of a watcher that finds this node, which ends when it is asked to. -/
def stepsToEnd : List (Exchange ThreadStep ThreadStep.Answer) :=
  [⟨.slot .take, some (.fresh .plain 7)⟩,
    ⟨.machine (.hasExited 7), false⟩,
    ⟨.machine (.terminate 7), ()⟩,
    ⟨.machine (.awaitExit 7 0), true⟩,
    ⟨.machine (.removeFile "logs/node.log"), .ok ()⟩,
    ⟨.machine (.removeFile "logs/node.log"), .ok ()⟩]

theorem follows_stepsToPut :
    Follows threadWorld ⟨none, []⟩ stepsToPut ⟨some (.fresh .plain 7), [⟨7, .living⟩]⟩ :=
  ⟨⟨none, []⟩, plays_pure_iff.mpr ⟨rfl, rfl⟩, ⟨none, []⟩, ⟨rfl, [], .refl _, rfl⟩,
    ⟨none, []⟩, ⟨rfl, [], .refl _, rfl⟩, ⟨none, [⟨7, .living⟩]⟩,
    ⟨rfl, [], .refl _, List.forall_mem_nil _, rfl⟩,
    ⟨some (.fresh .plain 7), [⟨7, .living⟩]⟩, plays_pure_iff.mpr ⟨rfl, rfl⟩, rfl⟩

theorem follows_stepsToEnd :
    Follows threadWorld ⟨some (.fresh .plain 7), [⟨7, .living⟩]⟩ stepsToEnd
      ⟨none, [⟨7, .gone⟩]⟩ := by
  have ends : Drift [⟨7, .living⟩] [⟨7, .ended⟩] := .cons ⟨rfl, .inr ⟨rfl, rfl⟩⟩ .nil
  exact ⟨⟨none, [⟨7, .living⟩]⟩, plays_pure_iff.mpr ⟨rfl, rfl⟩,
    ⟨none, [⟨7, .living⟩]⟩, ⟨rfl, _, .refl _, rfl, rfl⟩,
    ⟨none, [⟨7, .living⟩]⟩, ⟨rfl, _, .refl _, rfl⟩,
    ⟨none, [⟨7, .gone⟩]⟩, ⟨rfl, _, ends, by decide, rfl⟩,
    ⟨none, [⟨7, .gone⟩]⟩, ⟨rfl, _, .refl _, rfl⟩,
    ⟨none, [⟨7, .gone⟩]⟩, ⟨rfl, _, .refl _, rfl⟩, rfl⟩

theorem interrupted_start_plain :
    ∃ run k', Interrupted .plain .terminate ⟨none, []⟩ run k' ∧ StoredFirst run ∧
      k'.held = none ∧ ∀ c ∈ k'.children, c.life = .gone := by
  have tended : (Keeping.mk none []).Tended := List.forall_mem_nil _
  have hstart : (NodeSlot.start .plain).Advances stepsToPut
      (pure () >>= fun _ => NodeSlot.afterPut .plain (.fresh .plain 7)) :=
    .ask (.ask (.ask (.ask (.ask (.here _)))))
  have hwatch : Interruption.terminate.watcher.Leads stepsToEnd Interruption.terminate.exitCode :=
    .ask (.ask (.ask (.ask (.ask (.ask (.done _))))))
  have hrun := Interrupted.of_head hstart follows_stepsToPut hwatch follows_stepsToEnd
  have hstored : StoredFirst (stepsToPut.map (Side.first, ·) ++ stepsToEnd.map (Side.second, ·)) :=
    storedFirst_append_second_iff.mpr
      ⟨⟨.slot (.put (.fresh .plain 7)), ()⟩, by simp [stepsToPut], _, rfl⟩
  exact ⟨_, _, hrun, hstored, ((interrupted_start .plain .terminate).1 _ _ _ tended hrun).1 hstored⟩

end NodeTrial
