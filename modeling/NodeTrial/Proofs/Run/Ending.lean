import NodeTrial.Proofs.Node.SlotWorld
import NodeTrial.Proofs.Run.Cascade

namespace NodeTrial

/-- Whether a request starts or stops the node. -/
def Request.isOrder : Request → Bool
  | .startNode _ => true
  | .stopNode => true
  | _ => false

/-- The starts and stops of a transcript, in order. -/
def orders (t : Transcript) : List Request := (t.map (·.1)).filter Request.isOrder

theorem orders_append (t u : Transcript) : orders (t ++ u) = orders t ++ orders u := by
  rw [orders, List.map_append, List.filter_append]
  rfl

theorem orders_eq_nil {t : Transcript} (h : ∀ e ∈ t, e.1.isOrder = false) : orders t = [] := by
  rw [orders, List.filter_eq_nil_iff, List.forall_mem_map]
  intro e he
  rw [h e he]
  exact Bool.false_ne_true

theorem orders_quiet (t : Transcript) : orders (quiet t) = orders t := by
  rw [orders, quiet, List.filter_map, List.filter_filter, orders, List.filter_map]
  congr 2
  funext e
  obtain ⟨q, a⟩ := e
  cases q <;> rfl

theorem orders_eq_cons {t : Transcript} {q : Request} {qs : List Request}
    (h : orders t = q :: qs) :
    ∃ t₁ a t₂, t = t₁ ++ ⟨q, a⟩ :: t₂ ∧ orders t₁ = [] ∧ orders t₂ = qs := by
  obtain ⟨l₁, l₂, hsplit, hnone, -, hrest⟩ := List.filter_eq_cons_iff.mp h
  obtain ⟨t₁, t', rfl, rfl, htail⟩ := List.map_eq_append_iff.mp hsplit
  obtain ⟨⟨q, a⟩, t₂, rfl, rfl, rfl⟩ := List.map_eq_cons_iff.mp htail
  exact ⟨t₁, a, t₂, rfl, List.filter_eq_nil_iff.mpr hnone, hrest⟩

theorem not_start_of_orders {t : Transcript} (h : ∀ q ∈ orders t, q = .stopNode) :
    ∀ e ∈ t, ∀ l, e.1 ≠ .startNode l := by
  intro e he l hl
  have horder : e.1.isOrder = true := by
    rw [hl]
    rfl
  have hstop := h e.1 (List.mem_filter.mpr ⟨List.mem_map_of_mem he, horder⟩)
  rw [hl] at hstop
  cases hstop

theorem Request.Offline.isOrder {q : Request} (h : q.Offline) : q.isOrder = false := by
  cases q with
  | startNode l => exact h.elim
  | stopNode => exact h.elim
  | _ => rfl

theorem Request.Consults.isOrder {s : Setting} {q : Request} (h : q.Consults s) :
    q.isOrder = false := by
  cases q with
  | startNode l => exact h.elim
  | stopNode => exact h.elim
  | _ => rfl

theorem orders_of_offline {t : Transcript} (h : ∀ e ∈ t, e.1.Offline) : orders t = [] :=
  orders_eq_nil fun e he => (h e he).isOrder

namespace Phase

namespace Runtime

theorem orders_starting {s : Setting} {t : Transcript} {f : Finding} (h : (start s).Leads t f) :
    orders t = [] ∨ orders t = [.startNode (launch s)] := by
  rcases start_cases h with ⟨rfl, -⟩ | ⟨pid, rfl, -⟩ | ⟨e, rfl, -⟩
  · exact .inl rfl
  · exact .inr rfl
  · exact .inr rfl

theorem orders_waiting {s : Setting} {t : Transcript} {f : Finding} (h : (health s).Leads t f) :
    orders t = [] := by
  rcases health_cases h with ⟨rfl, -⟩ | ⟨t', e, rfl, hpoll, -⟩
  · rfl
  · have hprobes : orders t' = [] := by
      refine orders_eq_nil fun e he => ?_
      rcases (healthPoll_asks s).of_leads hpoll e he with hq | ⟨n, hq⟩ <;> rw [hq] <;> rfl
    exact hprobes

theorem health_fail_iff {s : Setting} {t : Transcript} {f : Finding} (h : (health s).Leads t f) :
    f.outcome = .fail ↔ f.outcome = .fail ∧ f.cause? = some .timeout := by
  rcases health_cases h with ⟨-, rfl⟩ | ⟨t', e, -, -, rfl⟩
  · decide
  · cases e with
    | ready n => exact ⟨fun hfail => ⟨hfail, nomatch hfail⟩, And.left⟩
    | timedOut n => exact ⟨fun hfail => ⟨hfail, rfl⟩, And.left⟩

theorem orders_reaction (f : Finding) :
    orders (reaction f) = if f.outcome = .fail then [.stopNode] else [] := by
  cases f <;> rfl

theorem Course.orders_eq {s : Setting} {ready : Bool} (c : Course s ready) :
    orders c.transcript =
      orders c.starting ++ if c.health.outcome = .fail then [.stopNode] else [] := by
  have hasks : (Runtime.production s (readyAfter ready c.health)).Asks fun q => q.isOrder = false :=
    production_asks (fun _ => rfl) (fun _ _ _ => rfl) s _
  have hsampling : orders c.sampling = [] := orders_eq_nil (hasks.of_leads c.production_leads)
  rw [transcript, orders_append, orders_append, orders_append, orders_waiting c.health_leads,
    orders_reaction, hsampling, List.append_nil, List.append_nil]

end Runtime

namespace Integration

theorem Course.orders_eq {s : Setting} {ready : Bool} (c : Course s ready) :
    orders c.transcript = [] := by
  have hbuilding : orders c.building = [] :=
    orders_of_offline fun e he => ((Build.package_asks s _).of_leads c.deployer_leads e he).offline
  have horder (q : Request) (h : q.Consults s) : q.isOrder = false := h.isOrder
  have hdeploying : orders c.deploying = [] :=
    orders_eq_nil (((deployAll_asks s _).mono horder).of_leads c.deployment_leads)
  have hcreating : orders c.creating = [] :=
    orders_eq_nil (((create_asks s _).mono horder).of_leads c.creation_leads)
  have hcalling : orders c.calling = [] :=
    orders_eq_nil (c.steps_checked.asks fun step hstep =>
      (stepChecks_asks s c.creation step hstep).mono horder)
  rw [transcript, orders_append, orders_append, orders_append, hbuilding, hdeploying, hcreating,
    hcalling]
  rfl

end Integration

end Phase

theorem Run.Course.orders_eq {s : Setting} {ready : Bool} (c : Course s ready) :
    orders c.transcript = orders c.runtime.starting ++
      if c.runtime.health.outcome = .fail then [.stopNode] else [] := by
  have hprobing : orders c.probing = [] := by
    obtain ⟨t, a, ht, hlooks⟩ := Phase.Environment.transcript_eq c.environment_checked
    rw [ht, orders_append, orders_of_offline fun e he => (hlooks e he).offline]
    rfl
  rw [transcript, orders_append, orders_append, orders_append, hprobing,
    orders_of_offline c.building_offline, c.runtime.orders_eq, c.integration.orders_eq,
    List.append_nil]
  rfl

/-- The invocation that a request is for, if it is for a tool. -/
def Request.tool? : Request → Option Invocation
  | .tool i => some i
  | _ => none

def invoked (t : Transcript) : List Invocation := t.filterMap (·.1.tool?)

theorem invoked_append (t u : Transcript) : invoked (t ++ u) = invoked t ++ invoked u :=
  List.filterMap_append

/-- The invocations that ask for the versions in a report; the node has one only if its binary is
present. -/
def Report.versionProbes (root : String) (c : Config) (present : Bool) : List Invocation :=
  (if present then
    [(Invocation.command (Path.join root c.node.binary) ["--version"]).inDirectory root]
  else []) ++
    [.command "rustc" ["--version"], .command "cargo" ["--version"],
      .command "cargo" ["contract", "--version"]]

theorem Report.invoked_version {i : Invocation} {t : Transcript} {v : String}
    (h : (version i).Leads t v) : invoked t = [i] := by
  obtain ⟨t₁, t₂, o, rfl, htool, hdone⟩ := Dialogue.leads_bind_iff.mp h
  obtain ⟨rfl, -⟩ := Dialogue.leads_pure_iff.mp hdone
  rw [Dialogue.leads_question_iff.mp htool]
  rfl

theorem Report.invoked_nodeVersion {root binary : String} {t : Transcript} {v : String}
    (h : (nodeVersion root binary).Leads t v) :
    ∃ present : Bool, invoked t =
      if present then [(Invocation.command binary ["--version"]).inDirectory root] else [] := by
  obtain ⟨t₁, t₂, present, rfl, hfile, h₂⟩ := Dialogue.leads_bind_iff.mp h
  obtain rfl := Dialogue.leads_question_iff.mp hfile
  refine ⟨present, ?_⟩
  cases present with
  | false =>
      obtain ⟨rfl, -⟩ := Dialogue.leads_pure_iff.mp h₂
      rfl
  | true =>
      have hversion := invoked_version h₂
      exact hversion

theorem Report.invoked_collect {root : String} {c : Config} {t : Transcript} {f : Facts}
    (h : (collect root c).Leads t f) :
    ∃ present, invoked t = versionProbes root c present := by
  obtain ⟨t₁, t', _, rfl, hnode, h⟩ := Dialogue.leads_bind_iff.mp h
  obtain ⟨t₂, t', _, rfl, htime, h⟩ := Dialogue.leads_bind_iff.mp h
  obtain ⟨t₃, t', _, rfl, hplatform, h⟩ := Dialogue.leads_bind_iff.mp h
  obtain ⟨t₄, t', _, rfl, hrustc, h⟩ := Dialogue.leads_bind_iff.mp h
  obtain ⟨t₅, t', _, rfl, hcargo, h⟩ := Dialogue.leads_bind_iff.mp h
  obtain ⟨t₆, t', _, rfl, hcontract, h⟩ := Dialogue.leads_bind_iff.mp h
  obtain ⟨rfl, -⟩ := Dialogue.leads_pure_iff.mp h
  obtain ⟨present, hpresent⟩ := invoked_nodeVersion hnode
  obtain rfl := Dialogue.leads_question_iff.mp htime
  obtain rfl := Dialogue.leads_question_iff.mp hplatform
  refine ⟨present, ?_⟩
  simp only [invoked_append, hpresent, invoked_version hrustc, invoked_version hcargo,
    invoked_version hcontract]
  rfl

theorem Setting.tell_asks_no_tool (s : Setting) (line : String) :
    (s.tell line).Asks fun q => q.tool? = none := by
  unfold Setting.tell
  split
  · exact ⟨rfl, fun _ => trivial⟩
  · trivial

theorem Run.invoked_report {s : Setting} {l : Ledger} {t : Transcript}
    {r : Except Report.StoreError RunResult} (h : (report s l).Leads t r) :
    ∃ present, invoked t = Report.versionProbes s.root s.config present := by
  obtain ⟨t₁, t₂, facts, rfl, hcollect, h₂⟩ := Dialogue.leads_bind_iff.mp h
  obtain ⟨present, hpresent⟩ := Report.invoked_collect hcollect
  refine ⟨present, ?_⟩
  have hstoring : invoked t₂ = [] := by
    refine List.filterMap_eq_nil_iff.mpr (Dialogue.Asks.of_leads (P := fun q => q.tool? = none)
      (Dialogue.Asks.bind ?_ fun stored => ?_) h₂)
    · exact Report.store_asks (fun _ => rfl) (fun _ _ => rfl) (fun _ _ => rfl) _ _
    · cases stored with
      | error e => trivial
      | ok _ => exact Dialogue.Asks.bind (tellAll_asks s s.tell_asks_no_tool _) fun _ => trivial
  rw [invoked_append, hpresent, hstoring, List.append_nil]

/-- After its checks a run stops the node, and then it reports. -/
theorem Run.conclusion_leads {s : Setting} {st : Standing} {t : Transcript}
    {r : Except Report.StoreError RunResult} (h : (conclusion s st).Leads t r) :
    ∃ told u, t = told ++ ⟨.stopNode, ()⟩ :: u ∧ quiet told = [] ∧
      (report s st.ledger).Leads u r := by
  obtain ⟨told, t', _, rfl, hbanner, h⟩ := Dialogue.leads_bind_iff.mp h
  obtain ⟨t₁, u, _, rfl, hstop, hreport⟩ := Dialogue.leads_bind_iff.mp h
  obtain ⟨t₂, t₃, _, rfl, hask, hdone⟩ := Dialogue.leads_bind_iff.mp hstop
  obtain ⟨rfl, rfl⟩ := Dialogue.leads_pure_iff.mp hdone
  obtain rfl := Dialogue.leads_question_iff.mp hask
  exact ⟨told, u, rfl, Setting.quiet_of_announce hbanner, hreport⟩

theorem Request.Offline.held_eq {σ : Type} {world : Dialogue.World MachineCall MachineCall.Answer σ}
    {k k' : Slotted σ} {q : Request} {a : q.Answer} (hq : q.Offline)
    (h : Dialogue.served (slotWorld world) Request.steps q k a k') : k'.held = k.held := by
  have hrequest : q.steps = Thread.request q := by
    cases q with
    | startNode l => exact hq.elim
    | stopNode => exact hq.elim
    | nodeRunning => exact hq.elim
    | _ => rfl
  rw [Dialogue.served, hrequest] at h
  obtain rfl : k' = k := Dialogue.plays_question_iff.mp h
  rfl

theorem Run.slot_empty {σ : Type} {world : Dialogue.World MachineCall MachineCall.Answer σ}
    {s : Setting} {k k' : Slotted σ} {r : Except Report.StoreError RunResult}
    (h : (Run.all s).thread.Plays (slotWorld world) k r k') : k'.held = none := by
  obtain ⟨st, k₁, -, h₁⟩ := Dialogue.plays_bind_iff.mp (Dialogue.plays_run_iff.mp h)
  obtain ⟨_, k₂, -, h₂⟩ := Dialogue.plays_bind_iff.mp h₁
  obtain ⟨_, k₃, hstop, t, hreport, hfollows⟩ := Dialogue.plays_bind_iff.mp h₂
  obtain ⟨_, k₄, hteardown, hdone⟩ := Dialogue.plays_bind_iff.mp hstop
  obtain ⟨-, rfl⟩ := Dialogue.plays_pure_iff.mp hdone
  have hempty := (NodeSlot.teardown_cases (Dialogue.plays_question_iff.mp hteardown)).1
  refine Dialogue.Follows.preserves (fun m => m.held = none) (fun q m a m' hq hm hheld => ?_)
    ((report_asks s _).of_leads hreport) hempty hfollows
  exact (Request.Offline.held_eq hq hm).trans hheld

/-- A check that used up its time. -/
def Record.TimedOut (r : Record) : Prop := r.outcome = .fail ∧ r.cause? = some .timeout

instance (r : Record) : Decidable r.TimedOut :=
  inferInstanceAs (Decidable (r.outcome = .fail ∧ r.cause? = some .timeout))

/-- The node does not outlive a run that comes to its end, whatever the run is answered and whether
its report can be stored or not. The node is started at most once. It is stopped after the checks,
and once before where the check of its health timed out. After the last stop nothing concerns the
node or the network, and the only tools that are invoked tell the versions in the report. A slot in
which the node was kept is empty in the end. -/
theorem Run.node_stopped_last {s : Setting} {w : Transcript}
    {r : Except Report.StoreError RunResult} (h : (Run.all s).Leads w r) :
    (∃ t told u st started present, ∃ n : NodeRecords s st.ledger.records,
      w = t ++ told ++ ⟨.stopNode, ()⟩ :: u ∧ (Run.checks s .initial).Leads t st ∧
      quiet told = [] ∧ (∀ result, r = .ok result → result.records = st.ledger.records) ∧
      (started = [] ∨ started = [.startNode (Phase.Runtime.launch s)]) ∧
      orders w = started ++ (if n.health.TimedOut then [.stopNode] else []) ++ [.stopNode] ∧
      (∀ e ∈ u, e.1.Offline) ∧ invoked u = Report.versionProbes s.root s.config present) ∧
    ∀ (σ : Type) (world : Dialogue.World MachineCall MachineCall.Answer σ) (k k' : Slotted σ),
      (Run.all s).thread.Plays (slotWorld world) k r k' → k'.held = none := by
  refine ⟨?_, fun σ world k k' hplays => slot_empty hplays⟩
  obtain ⟨t, v, st, rfl, hchecks, hconclusion⟩ := all_leads h
  obtain ⟨c, hquiet, hledger⟩ := checks_leads hchecks
  obtain ⟨told, u, rfl, htold, hreport⟩ := conclusion_leads hconclusion
  obtain ⟨present, hpresent⟩ := invoked_report hreport
  have hoffline := (report_asks s st.ledger).of_leads hreport
  have hrecords : st.ledger.records = Ledger.recordsFrom 1 c.findings := by
    rw [hledger, Ledger.records_enterAll]
    rfl
  refine ⟨t, told, u, st, orders c.runtime.starting, present, c.nodeRecords hrecords,
    (List.append_assoc _ _ _).symm, hchecks, htold, ?_,
    Phase.Runtime.orders_starting c.runtime.start_leads, ?_, hoffline, hpresent⟩
  · rintro result rfl
    exact (records_of_conclusion hconclusion).1
  · have htimed : c.runtime.health.outcome = .fail ↔ (c.nodeRecords hrecords).health.TimedOut :=
      Phase.Runtime.health_fail_iff c.runtime.health_leads
    have hstop : orders (⟨.stopNode, ()⟩ :: u) = [.stopNode] :=
      congrArg (Request.stopNode :: ·) (orders_of_offline hoffline)
    rw [orders_append, orders_append, ← orders_quiet t, hquiet, orders_quiet, c.orders_eq,
      ← orders_quiet told, htold, hstop, if_congr htimed rfl rfl]
    rfl

/-- The answers of surroundings in which a node can be started that never reports health. -/
def Run.ailing : (q : Request) → q.Answer
  | .isFile _ => true
  | .startNode _ => .ok 7
  | .nodeRunning => true
  | q => barren q

theorem Run.node_stopped_last_ailing :
    ∃ w r t u, (Run.all sharedAddress).Leads w r ∧
      orders w = [.startNode (Phase.Runtime.launch sharedAddress), .stopNode, .stopNode] ∧
      w = t ++ ⟨.stopNode, ()⟩ :: u ∧ ∀ e ∈ u, e.1.Offline := by
  obtain ⟨w, r, h, hanswers⟩ := Dialogue.exists_leads_answers ailing (Run.all sharedAddress)
  obtain ⟨⟨t, told, u, st, started, present, n, hw, hchecks, -, -, hstarted, horders, hoffline, -⟩,
    -⟩ := node_stopped_last h
  obtain ⟨c, hquiet, hrecords⟩ := course_of_checks hchecks
  have hcourse : ∀ e ∈ c.runtime.starting ++ c.runtime.waiting,
      e.1.isTell = false → e.2 = ailing e.1 := by
    intro e he htell
    have hmem : e ∈ quiet t := by
      rw [hquiet, mem_quiet_iff, Course.transcript, Phase.Runtime.Course.transcript]
      rcases List.mem_append.mp he with he | he <;> simp [he, htell]
    apply hanswers e
    rw [hw]
    simp [(mem_quiet_iff.mp hmem).1]
  have hstart : c.runtime.start.outcome = .pass := by
    rcases Phase.Runtime.start_cases c.runtime.start_leads with ⟨ht, -⟩ | ⟨pid, -, hf⟩ | ⟨e, ht, -⟩
    · rw [ht] at hcourse
      exact absurd (hcourse _ List.mem_cons_self rfl) Bool.noConfusion
    · rw [hf]
      rfl
    · rw [ht] at hcourse
      have hnode := hcourse _ (List.mem_cons_of_mem _ List.mem_cons_self) rfl
      cases hnode
  have htimed : n.health.TimedOut := by
    rw [(n.unique (c.nodeRecords hrecords)).2]
    rcases Phase.Runtime.health_cases c.runtime.health_leads with ⟨ht, -⟩ | ⟨t', e, ht, hpoll, hf⟩
    · rw [ht] at hcourse
      exact absurd (hcourse _ (List.mem_append_right _ List.mem_cons_self) rfl) Bool.noConfusion
    · cases e with
      | ready k =>
          obtain ⟨code, -, hmem⟩ := Phase.Runtime.healthPoll_ready hpoll
          rw [ht] at hcourse
          have hstatus := hcourse _ (List.mem_append_right _ (List.mem_cons_of_mem _ hmem)) rfl
          cases hstatus
      | timedOut k =>
          change c.runtime.health.outcome = .fail ∧ c.runtime.health.cause? = some .timeout
          rw [hf]
          exact ⟨rfl, rfl⟩
  refine ⟨w, r, t ++ told, u, h, ?_, hw, hoffline⟩
  rw [if_pos htimed] at horders
  obtain rfl | rfl := hstarted
  · -- The start that the course tells of is among the orders.
    obtain ⟨pid, hmem⟩ := Course.startNode_mem hquiet hstart
    have hstops : ∀ q ∈ orders w, q = .stopNode := by
      rw [horders]
      simp
    have hasked : ⟨.startNode (Phase.Runtime.launch sharedAddress), .ok pid⟩ ∈ w := by
      rw [hw, List.append_assoc]
      exact List.mem_append_left _ hmem
    exact absurd rfl (not_start_of_orders hstops _ hasked _)
  · exact horders

end NodeTrial
