import NodeTrial.CommandLine.Session
import NodeTrial.Proofs.Node.Interrupted
import NodeTrial.Proofs.Run.Ending
import NodeTrial.Proofs.Run.Storing

/-!
A run and the watcher after a signal has come. The watcher takes the node and ends it, which may take
as long as the node is given for that, and nothing holds the run up meanwhile. The program ends with
whichever of the two is done first, and a run that is done first has come to its report.
-/

namespace NodeTrial

open Dialogue

/-- The program ends with an exit code once the run or the watcher is done, however far the other has
come. -/
inductive ProgramEnds (s : Setting) (i : Interruption)
    (run watch : List (Exchange ThreadStep ThreadStep.Answer)) : Nat → Prop
  | completed {r : Except Report.StoreError RunResult}
      (running : (CommandLine.thread s).Leads run r)
      (watching : ∃ left, i.watcher.Advances watch left) :
      ProgramEnds s i run watch (CommandLine.exitCode r)
  | interrupted {code : Nat} (running : ∃ left, (CommandLine.thread s).Advances run left)
      (watching : i.watcher.Leads watch code) : ProgramEnds s i run watch code

/-- A run took the steps `early` before a signal came. Then the run and the watcher took steps in
some order until the program ended. -/
structure InterruptedRun (s : Setting) (i : Interruption) (k : Keeping)
    (early : List (Exchange ThreadStep ThreadStep.Answer))
    (late : Interleaving ThreadStep ThreadStep.Answer) (k' : Keeping) (code : Nat) : Prop where
  follows : Follows threadWorld k (early ++ late.map (·.2)) k'
  ends : ProgramEnds s i (early ++ stepsOf .first late) (stepsOf .second late) code

/-- Whether a step changes files for the report. -/
def ThreadStep.Stores : ThreadStep → Prop
  | .request q => q.stores = true
  | _ => False

def moved (path : String) : Exchange ThreadStep ThreadStep.Answer :=
  ⟨.request (.moveFile (Report.temporaryPath path) path), .ok ()⟩

theorem Request.steps_of_stores {q : Request} (h : q.stores = true) :
    q.steps = Thread.request q := by
  cases q with
  | createDirectories path => rfl
  | writeFile path text => rfl
  | moveFile source target => rfl
  | _ => cases h

theorem Request.steps_asks_no_store {q : Request} (h : q.stores = false) :
    q.steps.Asks fun step => ¬ step.Stores := by
  cases q with
  | startNode l => exact NodeSlot.start_asks (fun _ => id) (fun _ => id) l
  | stopNode => exact NodeSlot.teardown_asks id fun _ => id
  | nodeRunning => exact .question id
  | createDirectories path => cases h
  | writeFile path text => cases h
  | moveFile source target => cases h
  | _ => exact .question (ne_true_of_eq_false h)

namespace CommandLine

variable {s : Setting} {u : List (Exchange ThreadStep ThreadStep.Answer)}
  {r : Except Report.StoreError RunResult}

theorem thread_leads (h : (thread s).Leads u r) :
    ∃ t v, (Run.all s).Leads t r ∧ Carried Request.steps t v ∧ v ⊆ u := by
  obtain ⟨v, w, a, rfl, hrun, h⟩ := leads_bind_iff.mp h
  obtain ⟨w₁, w₂, _, rfl, -, hdone⟩ := leads_bind_iff.mp h
  obtain ⟨-, rfl⟩ := leads_pure_iff.mp hdone
  obtain ⟨t, ht, hcarried⟩ := leads_run_iff.mp hrun
  exact ⟨t, v, ht, hcarried, List.subset_append_left v _⟩

theorem mem_of_stores {t : Transcript} (hcarried : Carried Request.steps t u)
    {e : Exchange Request Request.Answer} (he : e ∈ t) (hstores : e.1.stores = true) :
    ⟨.request e.1, e.2⟩ ∈ u := by
  obtain ⟨v, hv, hsub⟩ := hcarried.leads_of_mem he
  rw [Request.steps_of_stores hstores] at hv
  obtain rfl := leads_question_iff.mp hv
  exact hsub List.mem_cons_self

theorem exists_stores (h : (thread s).Leads u r) : ∃ e ∈ u, e.1.Stores := by
  obtain ⟨t, v, ht, hcarried, hsub⟩ := thread_leads h
  obtain ⟨path, text, w, stored, hstore, hw, -⟩ := Run.exists_storing ht
  obtain ⟨e, he, hstores⟩ := Report.exists_stores hstore
  exact ⟨_, hsub (mem_of_stores hcarried (hw he) hstores), hstores⟩

theorem moved_mem {result : RunResult} (h : (thread s).Leads u (.ok result)) :
    moved result.reportPath ∈ u := by
  obtain ⟨t, v, ht, hcarried, hsub⟩ := thread_leads h
  obtain ⟨path, text, w, stored, hstore, hw, -, hresult⟩ := Run.exists_storing ht
  obtain ⟨rfl, rfl⟩ := hresult result rfl
  obtain ⟨front, rfl⟩ := Report.store_ok hstore
  have hmove : ⟨.moveFile (Report.temporaryPath result.reportPath) result.reportPath, .ok ()⟩ ∈ t :=
    hw (List.mem_append_right _ (List.mem_cons_of_mem _ List.mem_cons_self))
  exact hsub (mem_of_stores hcarried hmove rfl)

theorem exitCode_eq (r : Except Report.StoreError RunResult) : exitCode r = 0 ∨ exitCode r = 1 := by
  cases r with
  | error e => exact .inr rfl
  | ok result => exact result.tally.exitCode_eq

end CommandLine

theorem Interruption.code_of_watcher {i : Interruption}
    {t : List (Exchange ThreadStep ThreadStep.Answer)} {code : Nat} (h : i.watcher.Leads t code) :
    code = i.exitCode := by
  obtain ⟨t₁, t₂, _, rfl, -, hdone⟩ := leads_bind_iff.mp h
  exact (leads_pure_iff.mp hdone).2

theorem Interruption.exitCode_ne {i : Interruption} {code : Nat} (h : code = 0 ∨ code = 1) :
    code ≠ i.exitCode := by
  cases i <;> rcases h with rfl | rfl <;> decide

/-- A program that ends otherwise than the signal demands has got to its report. -/
theorem InterruptedRun.code_eq {s : Setting} {i : Interruption} {k k' : Keeping}
    {early : List (Exchange ThreadStep ThreadStep.Answer)}
    {late : Interleaving ThreadStep ThreadStep.Answer} {code : Nat}
    (h : InterruptedRun s i k early late k' code) :
    code = i.exitCode ∨
      (code = 0 ∨ code = 1) ∧ ∃ e ∈ early ++ stepsOf .first late, e.1.Stores := by
  cases h.ends with
  | @completed r running watching =>
      exact .inr ⟨CommandLine.exitCode_eq r, CommandLine.exists_stores running⟩
  | interrupted running watching => exact .inl (Interruption.code_of_watcher watching)

/-- The answers of surroundings in which a node can be started, and the report stored. -/
def Request.staged : (q : Request) → q.Answer
  | .startNode _ => .ok 1
  | .isFile _ => true
  | q => Run.barren q

theorem Report.stored_of_staged {path text : String} {t : Transcript}
    {stored : Except StoreError Unit} (h : (store path text).Leads t stored)
    (ht : ∀ e ∈ t, e.2 = e.1.staged) : stored = .ok () := by
  rcases store_cases h with ⟨directory, e, rfl, -⟩ |
    ⟨front, -, ⟨e, rfl, -⟩ | ⟨moved, rfl, rfl⟩⟩
  · exact nomatch ht _ List.mem_cons_self
  · exact nomatch ht _ (List.mem_append_right _ List.mem_cons_self)
  · obtain rfl : moved = .ok () :=
      ht _ (List.mem_append_right _ (List.mem_cons_of_mem _ List.mem_cons_self))
    rfl

theorem Phase.Runtime.orders_of_staged {s : Setting} {t : Transcript} {f : Finding}
    (h : (start s).Leads t f) (ht : ∀ e ∈ t, e.2 = e.1.staged) :
    orders t = [.startNode (launch s)] := by
  rcases start_cases h with ⟨rfl, -⟩ | ⟨pid, rfl, -⟩ | ⟨e, rfl, -⟩
  · exact absurd (ht _ List.mem_cons_self) Bool.noConfusion
  · rfl
  · exact nomatch ht _ (List.mem_cons_of_mem _ List.mem_cons_self)

theorem Run.not_start_of_conclusion {s : Setting} {st : Standing} {t : Transcript}
    {r : Except Report.StoreError RunResult} (h : (conclusion s st).Leads t r) :
    ∀ e ∈ t, ∀ l, e.1 ≠ .startNode l := by
  intro e he l hl
  rcases (conclusion_asks s st).of_leads h e he with hstop | hoffline
  · exact nomatch hl.symm.trans hstop
  · rw [hl] at hoffline
    exact hoffline

/-- Where a node can be started a run starts it once, before anything is stored. -/
theorem Run.exists_start (s : Setting) :
    ∃ t₁ t₂ result,
      (Run.all s).Leads (t₁ ++ ⟨.startNode (Phase.Runtime.launch s), .ok 1⟩ :: t₂) (.ok result) ∧
      (∀ e ∈ t₁ ++ t₂, e.2 = e.1.staged ∧ ∀ l, e.1 ≠ .startNode l) ∧
      ∀ e ∈ t₁, e.1.stores = false := by
  obtain ⟨w, r, h, hanswers⟩ := exists_leads_answers Request.staged (Run.all s)
  obtain ⟨path, text, v, stored, hstore, hv, hresult, -⟩ := exists_storing h
  obtain ⟨result, rfl⟩ := hresult (Report.stored_of_staged hstore fun e he => hanswers e (hv he))
  obtain ⟨t, u, st, rfl, hchecks, hconclusion⟩ := all_leads h
  obtain ⟨c, hquiet, -⟩ := checks_leads hchecks
  have hstarting := Phase.Runtime.orders_of_staged c.runtime.start_leads fun e he =>
    hanswers e (List.mem_append_left u (Course.mem_of_starting hquiet he))
  have horders : orders t = .startNode (Phase.Runtime.launch s) ::
      if c.runtime.health.outcome = .fail then [.stopNode] else [] := by
    rw [← orders_quiet, hquiet, orders_quiet, c.orders_eq, hstarting]
    rfl
  obtain ⟨t₁, a, t₂, rfl, hbefore, hafter⟩ := orders_eq_cons horders
  obtain rfl : a = .ok 1 := hanswers ⟨.startNode _, a⟩ (by simp)
  have hnever : ∀ e ∈ t₁ ++ (t₂ ++ u), ∀ l, e.1 ≠ .startNode l := by
    refine List.forall_mem_append.mpr ⟨not_start_of_orders ?_, List.forall_mem_append.mpr
      ⟨not_start_of_orders ?_, not_start_of_conclusion hconclusion⟩⟩
    · rw [hbefore]
      exact List.forall_mem_nil _
    · rw [hafter]
      split <;> simp
  refine ⟨t₁, t₂ ++ u, result, ?_, fun e he => ⟨hanswers e ?_, hnever e he⟩, fun e he => ?_⟩
  · simpa using h
  · simp only [List.mem_append, List.mem_cons] at he ⊢
    tauto
  · exact (checks_not_stores s .initial).of_leads hchecks e (List.mem_append_left _ he)

theorem Request.staged_plays {q : Request} (hq : ∀ l, q ≠ .startNode l) (cs : List Offspring) :
    q.steps.Plays threadWorld ⟨none, cs⟩ q.staged ⟨none, cs⟩ := by
  cases q with
  | startNode l => exact absurd rfl (hq l)
  | stopNode => exact ⟨_, NodeSlot.teardown_of_empty, take_of_empty cs⟩
  | nodeRunning => exact plays_question_iff.mpr (plays_pure_iff.mpr ⟨rfl, rfl⟩)
  | _ => exact plays_question_iff.mpr ⟨rfl, .refl cs⟩

theorem follows_of_staged {t : Transcript} {cs : List Offspring}
    (ht : ∀ e ∈ t, e.2 = e.1.staged ∧ ∀ l, e.1 ≠ .startNode l) :
    Follows (served threadWorld Request.steps) ⟨none, cs⟩ t ⟨none, cs⟩ := by
  induction t with
  | nil => rfl
  | cons e t ih =>
      obtain ⟨q, a⟩ := e
      obtain ⟨⟨hanswer, hq⟩, hrest⟩ := List.forall_mem_cons.mp ht
      obtain rfl : a = q.staged := hanswer
      exact ⟨⟨none, cs⟩, Request.staged_plays hq cs, ih hrest⟩

theorem NodeSlot.start_staged (l : Launch) :
    (start l).Plays threadWorld ⟨none, []⟩ (.ok 1) ⟨some (.fresh l 1), [⟨1, .living⟩]⟩ := by
  have hsettle : (Thread.care (NodeHandle.settle l.settle)).Plays threadWorld
      ⟨some (.fresh l 1), [⟨1, .living⟩]⟩ () ⟨some (.fresh l 1), [⟨1, .living⟩]⟩ := by
    refine Thread.care_plays_iff.mpr ⟨rfl, ?_⟩
    unfold NodeHandle.settle
    split
    · exact plays_pure_iff.mpr ⟨rfl, rfl⟩
    · exact plays_question_iff.mpr ⟨_, .refl _, rfl⟩
  have hconfirm : Thread.confirm.Plays threadWorld ⟨some (.fresh l 1), [⟨1, .living⟩]⟩ (.ok ())
      ⟨some (.fresh l 1), [⟨1, .living⟩]⟩ := by
    refine Thread.use_plays_iff.mpr ⟨[⟨.hasExited 1, false⟩], .ask (.done _), _, ?_, rfl⟩
    exact ⟨_, .refl _, rfl, rfl⟩
  rw [start_eq_afterSpawn]
  refine plays_bind_iff.mpr ⟨(), _, ⟨_, teardown_of_empty, take_of_empty []⟩, ?_⟩
  refine plays_bind_iff.mpr ⟨.ok (.fresh l 1), _, Thread.exists_spawn l, ?_⟩
  refine plays_bind_iff.mpr ⟨(), ⟨some (.fresh l 1), [⟨1, .living⟩]⟩, ?_, ?_⟩
  · exact Thread.use_plays_iff.mpr (plays_pure_iff.mpr ⟨rfl, rfl⟩)
  · refine plays_bind_iff.mpr ⟨(), _, hsettle, plays_bind_iff.mpr ⟨.ok (), _, hconfirm, ?_⟩⟩
    exact plays_pure_iff.mpr ⟨rfl, rfl⟩

/-- The steps of a watcher that takes the node and asks it to end. -/
def endingSteps (l : Launch) : List (Exchange ThreadStep ThreadStep.Answer) :=
  [⟨.slot .take, some (.fresh l 1)⟩, ⟨.machine (.hasExited 1), false⟩, ⟨.machine (.terminate 1), ()⟩]

/-- The steps that it takes from then on, where the node ends in time. -/
def endedSteps (l : Launch) : List (Exchange ThreadStep ThreadStep.Answer) :=
  [⟨.machine (.awaitExit 1 l.stopGrace), true⟩, ⟨.machine (.removeFile l.logPath), .ok ()⟩,
    ⟨.machine (.removeFile l.logPath), .ok ()⟩]

theorem follows_endingSteps (l : Launch) :
    Follows threadWorld ⟨some (.fresh l 1), [⟨1, .living⟩]⟩ (endingSteps l)
      ⟨none, [⟨1, .living⟩]⟩ :=
  ⟨⟨none, [⟨1, .living⟩]⟩, plays_pure_iff.mpr ⟨rfl, rfl⟩,
    ⟨none, [⟨1, .living⟩]⟩, ⟨rfl, _, .refl _, rfl, rfl⟩,
    ⟨none, [⟨1, .living⟩]⟩, ⟨rfl, _, .refl _, rfl⟩, rfl⟩

theorem follows_endedSteps (l : Launch) :
    Follows threadWorld ⟨none, [⟨1, .living⟩]⟩ (endedSteps l) ⟨none, [⟨1, .gone⟩]⟩ := by
  have ends : Offspring.Drift [⟨1, .living⟩] [⟨1, .ended⟩] := .cons ⟨rfl, .inr ⟨rfl, rfl⟩⟩ .nil
  exact ⟨⟨none, [⟨1, .gone⟩]⟩, ⟨rfl, _, ends, by decide, rfl⟩,
    ⟨none, [⟨1, .gone⟩]⟩, ⟨rfl, _, .refl _, rfl⟩,
    ⟨none, [⟨1, .gone⟩]⟩, ⟨rfl, _, .refl _, rfl⟩, rfl⟩

theorem Interruption.watcher_advances_ending (i : Interruption) (l : Launch) :
    ∃ left, i.watcher.Advances (endingSteps l) left :=
  ⟨_, .ask (.ask (.ask (.here _)))⟩

theorem Interruption.watcher_leads_ended (i : Interruption) (l : Launch) :
    i.watcher.Leads (endingSteps l ++ endedSteps l) i.exitCode :=
  .ask (.ask (.ask (.ask (.ask (.ask (.done _))))))

theorem CommandLine.exists_thread_leads (s : Setting) (cs : List Offspring) :
    ∃ u₁ u₂ result, (thread s).Leads (u₁ ++ u₂) (.ok result) ∧
      (∀ e ∈ u₁, ¬ e.1.Stores) ∧
      Follows threadWorld ⟨none, []⟩ u₁
        ⟨some (.fresh (Phase.Runtime.launch s) 1), [⟨1, .living⟩]⟩ ∧
      Follows threadWorld ⟨none, cs⟩ u₂ ⟨none, cs⟩ := by
  obtain ⟨t₁, t₂, result, hleads, hstaged, hstores⟩ := Run.exists_start s
  obtain ⟨hstaged₁, hstaged₂⟩ := List.forall_mem_append.mp hstaged
  have hstart : Follows (served threadWorld Request.steps) ⟨none, []⟩
      (t₁ ++ [⟨.startNode (Phase.Runtime.launch s), .ok 1⟩])
      ⟨some (.fresh (Phase.Runtime.launch s) 1), [⟨1, .living⟩]⟩ :=
    follows_append.mpr ⟨_, follows_of_staged hstaged₁, _, NodeSlot.start_staged _, rfl⟩
  obtain ⟨v₁, hcarried₁, hfollows₁⟩ := exists_carried hstart
  have hrest : Follows (served threadWorld Request.steps) ⟨none, cs⟩ t₂ ⟨none, cs⟩ :=
    follows_of_staged hstaged₂
  obtain ⟨v₂, hcarried₂, hfollows₂⟩ := exists_carried hrest
  rw [List.append_cons] at hleads
  refine ⟨v₁, v₂ ++ [⟨.slot .take, none⟩], result, ?_, ?_, hfollows₁,
    follows_append.mpr ⟨_, hfollows₂, take_of_empty cs⟩⟩
  · rw [← List.append_assoc]
    refine leads_bind_iff.mpr ⟨v₁ ++ v₂, _, .ok result, rfl, ?_, ?_⟩
    · exact leads_run_iff.mpr ⟨_, hleads, hcarried₁.append hcarried₂⟩
    · exact leads_bind_iff.mpr ⟨_, [], (), rfl, NodeSlot.teardown_of_empty, .done _⟩
  · refine hcarried₁.forall_mem (P := fun step => ¬ step.Stores)
      (List.forall_mem_append.mpr ⟨fun e he => ?_, ?_⟩)
    · exact Request.steps_asks_no_store (hstores e he)
    · exact List.forall_mem_singleton.mpr (Request.steps_asks_no_store rfl)

theorem InterruptedRun.of_turns {s : Setting} {i : Interruption} {k k' : Keeping} {code : Nat}
    {early u w₁ : List (Exchange ThreadStep ThreadStep.Answer)}
    (w₂ : List (Exchange ThreadStep ThreadStep.Answer))
    (hfollows : Follows threadWorld k (early ++ (w₁ ++ u ++ w₂)) k')
    (hends : ProgramEnds s i (early ++ u) (w₁ ++ w₂) code) :
    InterruptedRun s i k early
      (w₁.map (Side.second, ·) ++ u.map (Side.first, ·) ++ w₂.map (Side.second, ·)) k' code where
  follows := by
    simpa [Function.comp_def] using hfollows
  ends := by
    simpa [stepsOf_append, stepsOf_map] using hends

/-- A program that a signal interrupts ends with the exit code of the signal, unless its run has come
to its report before the watcher was done; then it may end with the code of the run. The run is not
held up while the watcher ends the node. So a run whose node is up when the signal comes, with nothing
stored yet, can go on to its end, its report in place and its node living, although the watcher took
the node at once; and even if the watcher is done first after all, the report is there. -/
theorem interrupted_run (s : Setting) (i : Interruption) :
    (∀ k early late k' code, InterruptedRun s i k early late k' code →
      code = i.exitCode ∨
        (code = 0 ∨ code = 1) ∧ ∃ e ∈ early ++ stepsOf .first late, e.1.Stores) ∧
    ∃ early late rest, ∃ result : RunResult,
      (∀ e ∈ early, ¬ e.1.Stores) ∧
      late.head? = some (.second, ⟨.slot .take, some (.fresh (Phase.Runtime.launch s) 1)⟩) ∧
      moved result.reportPath ∈ stepsOf .first late ∧ result.exitCode ≠ i.exitCode ∧
      InterruptedRun s i ⟨none, []⟩ early late ⟨none, [⟨1, .living⟩]⟩ result.exitCode ∧
      InterruptedRun s i ⟨none, []⟩ early (late ++ rest) ⟨none, [⟨1, .gone⟩]⟩ i.exitCode := by
  refine ⟨fun k early late k' code h => h.code_eq, ?_⟩
  obtain ⟨early, u, result, hthread, hstores, hearly, hu⟩ :=
    CommandLine.exists_thread_leads s [⟨1, .living⟩]
  let l := Phase.Runtime.launch s
  have hlate := follows_append.mpr ⟨_, follows_endingSteps l, hu⟩
  have overtaking : InterruptedRun s i ⟨none, []⟩ early
      ((endingSteps l).map (Side.second, ·) ++ u.map (Side.first, ·) ++ [])
      ⟨none, [⟨1, .living⟩]⟩ result.exitCode := by
    refine .of_turns [] ?_ (.completed (r := .ok result) hthread ?_)
    · rw [List.append_nil]
      exact follows_append.mpr ⟨_, hearly, hlate⟩
    · rw [List.append_nil]
      exact i.watcher_advances_ending l
  have overtaken : InterruptedRun s i ⟨none, []⟩ early
      ((endingSteps l).map (Side.second, ·) ++ u.map (Side.first, ·) ++
        (endedSteps l).map (Side.second, ·)) ⟨none, [⟨1, .gone⟩]⟩ i.exitCode := by
    refine .of_turns _ ?_ (.interrupted ⟨_, hthread.advances⟩ (i.watcher_leads_ended l))
    exact follows_append.mpr ⟨_, hearly, follows_append.mpr ⟨_, hlate, follows_endedSteps l⟩⟩
  rw [List.append_nil] at overtaking
  refine ⟨early, _, _, result, hstores, rfl, ?_, ?_, overtaking, overtaken⟩
  · -- What was done before the signal stored nothing, so the report was stored after it.
    have hmoved := (List.mem_append.mp (CommandLine.moved_mem hthread)).resolve_left fun hmem =>
      hstores _ hmem rfl
    simpa [stepsOf_append, stepsOf_map] using hmoved
  · exact Interruption.exitCode_ne result.tally.exitCode_eq

/-- A run that the watcher does not hold up in time ends with a code of its own, and so it has stored
something after the signal. -/
theorem interrupted_run_overtaking :
    ∃ early late code, ∃ left : List Offspring,
      InterruptedRun Run.sharedAddress .terminate ⟨none, []⟩ early late ⟨none, left⟩ code ∧
      (∀ e ∈ early, ¬ e.1.Stores) ∧ (code = 0 ∨ code = 1) ∧
      ∃ e ∈ stepsOf .first late, e.1.Stores := by
  obtain ⟨hends, early, late, -, result, hstores, -, -, hcode, hrun, -⟩ :=
    interrupted_run Run.sharedAddress .terminate
  obtain hsignal | ⟨hown, e, he, hstored⟩ := hends _ _ _ _ _ hrun
  · exact absurd hsignal hcode
  · refine ⟨early, late, _, _, hrun, hstores, hown, e, ?_, hstored⟩
    exact (List.mem_append.mp he).resolve_left fun hearly => hstores e hearly hstored

end NodeTrial
