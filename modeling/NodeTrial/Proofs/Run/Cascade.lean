import NodeTrial.Proofs.Run.Unhealthy

namespace NodeTrial

/-- A check was skipped because something was missing, and its detail tells what. -/
def Record.Lacks (r : Record) (p : Prerequisite) : Prop :=
  r.outcome = .skip ∧ r.cause? = some .unmetPrerequisite ∧ r.detail? = some p.skipReason

theorem Record.lacks_recordAt {f : Finding} {p : Prerequisite} {place : Nat} {name : String}
    (h : f = .unmet p) : (f.recordAt place name).Lacks p := by
  subst h
  have hblank : Text.blank (Finding.unmet p).detail = false := by
    cases p <;> decide
  refine ⟨rfl, rfl, ?_⟩
  rw [Finding.recordAt, hblank]
  rfl

theorem Ledger.lacks_recordsFrom {p : Prerequisite} {fs : List (String × Finding)} {place : Nat}
    (h : ∀ f ∈ fs, f.2 = .unmet p) : ∀ r ∈ recordsFrom place fs, r.Lacks p := by
  induction fs generalizing place with
  | nil => exact List.forall_mem_nil _
  | cons f fs ih =>
      obtain ⟨name, f⟩ := f
      obtain ⟨hfirst, hrest⟩ := List.forall_mem_cons.mp h
      exact List.forall_mem_cons.mpr ⟨Record.lacks_recordAt hfirst, ih hrest⟩

/-- The records of a run told apart: what was recorded before the node was started, and then one by
one what was recorded about the node and about the contracts on it. -/
structure NodeRecords (s : Setting) (records : List Record) where
  front : List Record
  start : Record
  health : Record
  production : Record
  deployer : Record
  deployment : Record
  cycle : List Record
  records_eq : records = front ++ start :: health :: production :: deployer :: deployment :: cycle
  map_name_front : front.map (·.name) =
    environmentNames ++ (buildNames ++ contractNames s.config.contracts.names)
  name_start : start.name = "Start node"
  name_health : health.name = "Node health check"
  name_production : production.name = "Block production"
  name_deployer : deployer.name = "Build deployer"
  name_deployment : deployment.name = "Deploy all contracts"
  map_name_cycle : cycle.map (·.name) = cycleNames s.config.cycle.contract

theorem NodeRecords.unique {s : Setting} {records : List Record} (n m : NodeRecords s records) :
    n.start = m.start ∧ n.health = m.health := by
  have hlength : n.front.length = m.front.length := by
    rw [← List.length_map, n.map_name_front, ← m.map_name_front, List.length_map]
  obtain ⟨-, hrest⟩ := List.append_inj (n.records_eq.symm.trans m.records_eq) hlength
  obtain ⟨hstart, hrest⟩ := List.cons.inj hrest
  obtain ⟨hhealth, -⟩ := List.cons.inj hrest
  exact ⟨hstart, hhealth⟩

namespace Run

open Phase

def Course.nodeRecords {s : Setting} {ready : Bool} (c : Course s ready) {place : Nat}
    {records : List Record} (h : records = Ledger.recordsFrom place c.findings) :
    NodeRecords s records where
  front := Ledger.recordsFrom place c.preparation
  start := c.runtime.start.recordAt (place + c.preparation.length) Runtime.startName
  health := c.runtime.health.recordAt (place + c.preparation.length + 1) Runtime.healthName
  production :=
    c.runtime.production.recordAt (place + c.preparation.length + 2) Runtime.productionName
  deployer := c.integration.deployer.recordAt (place + c.preparation.length + 3) "Build deployer"
  deployment :=
    c.integration.deployment.recordAt (place + c.preparation.length + 4) Integration.deployAllName
  cycle := Ledger.recordsFrom (place + c.preparation.length + 5) c.cycle
  records_eq := by
    rw [h, Course.findings, List.append_assoc, Ledger.recordsFrom_append]
    rfl
  map_name_front := by
    rw [Ledger.map_name_recordsFrom, c.map_fst_preparation]
  name_start := rfl
  name_health := rfl
  name_production := rfl
  name_deployer := rfl
  name_deployment := rfl
  map_name_cycle := by
    rw [Ledger.map_name_recordsFrom, Course.cycle, List.map_cons,
      c.integration.steps_checked.map_fst, Integration.map_fst_stepChecks]
    rfl

theorem exists_course {s : Setting} {w : Transcript} {r : Except Report.StoreError RunResult}
    (h : (Run.all s).Leads w r) :
    ∃ t u st, ∃ c : Course s false, w = t ++ u ∧ (Run.checks s .initial).Leads t st ∧
      quiet t = quiet c.transcript ∧ st.ledger.records = Ledger.recordsFrom 1 c.findings ∧
      (∀ e ∈ u, e.1 = .stopNode ∨ e.1.Offline) ∧
      ∀ result, r = .ok result → result.records = st.ledger.records := by
  obtain ⟨t, u, st, rfl, hchecks, hconclusion⟩ := all_leads h
  obtain ⟨c, hquiet, hrecords⟩ := course_of_checks hchecks
  refine ⟨t, u, st, c, rfl, hchecks, hquiet, hrecords,
    (conclusion_asks s st).of_leads hconclusion, ?_⟩
  rintro result rfl
  exact (records_of_conclusion hconclusion).1

theorem fetched_conclusion {u : Transcript} (h : ∀ e ∈ u, e.1 = .stopNode ∨ e.1.Offline) :
    fetched u = [] := by
  apply fetched_eq_nil
  intro e he url hurl
  have hasked := h e he
  rw [hurl] at hasked
  rcases hasked with hstop | hoffline
  · cases hstop
  · exact hoffline

theorem conclusion_not_usesNode {u : Transcript} (h : ∀ e ∈ u, e.1 = .stopNode ∨ e.1.Offline) :
    ∀ e ∈ u, ¬ e.1.UsesNode := by
  intro e he
  rcases h e he with hstop | hoffline
  · rw [hstop]
    exact id
  · exact hoffline.not_usesNode

theorem Course.mem_of_starting {s : Setting} {ready : Bool} {c : Course s ready} {t : Transcript}
    (hquiet : quiet t = quiet c.transcript) {e : Exchange Request Request.Answer}
    (he : e ∈ c.runtime.starting) : e ∈ t := by
  have hwatches : e.1.Watches := (Runtime.start_asks s).of_leads c.runtime.start_leads e he
  have hmem : e ∈ quiet c.transcript := by
    rw [mem_quiet_iff, transcript, Runtime.Course.transcript]
    simp [he, hwatches.not_tell]
  rw [← hquiet] at hmem
  exact (mem_quiet_iff.mp hmem).1

theorem Course.startNode_mem {s : Setting} {ready : Bool} {c : Course s ready} {t : Transcript}
    (hquiet : quiet t = quiet c.transcript) (hstart : c.runtime.start.outcome = .pass) :
    ∃ pid : Nat, (⟨.startNode (Runtime.launch s), .ok pid⟩ : Exchange Request Request.Answer) ∈ t := by
  rcases Runtime.start_cases c.runtime.start_leads with ⟨-, hf⟩ | ⟨pid, ht, -⟩ | ⟨e, -, hf⟩
  · rw [hf] at hstart
    cases hstart
  · refine ⟨pid, mem_of_starting hquiet ?_⟩
    rw [ht]
    exact List.mem_cons_of_mem _ List.mem_cons_self
  · rw [hf] at hstart
    cases hstart

/-- The cascade of skipped checks, for every setting and whatever a run is answered. A node that is
not recorded as started is not asked for its health, and one address is fetched during the whole
run, the one that shows whether dependencies can be reached. A node that is not recorded as healthy
is not worked on during the whole run, and each check that would do so is skipped with the first
thing that its gate found missing. -/
theorem skip_cascade {s : Setting} {w : Transcript} {r : Except Report.StoreError RunResult}
    (h : (Run.all s).Leads w r) (hnode : HonestNode w) :
    ∃ t u st, ∃ n : NodeRecords s st.ledger.records,
      w = t ++ u ∧ (Run.checks s .initial).Leads t st ∧
      (∀ result, r = .ok result → result.records = st.ledger.records) ∧
      (n.start.outcome = .pass → ∃ pid : Nat,
        (⟨.startNode (Runtime.launch s), .ok pid⟩ : Exchange Request Request.Answer) ∈ w) ∧
      (n.start.outcome ≠ .pass → n.health.Lacks .nodeRunning ∧
        fetched w = [s.config.environment.dependencyUrl]) ∧
      (n.health.outcome ≠ .pass → n.production.Lacks .nodeReady ∧
        (∀ e ∈ w, ¬ e.1.UsesNode) ∧
        ∃ front g₁ g₂ p q, quiet t = front ++ g₁ ++ g₂ ∧
          Integration.GateMisses (s.path s.config.deployer.binary) .deployerBinary g₁ p ∧
          n.deployment.Lacks p ∧
          Integration.GateMisses (Integration.artifact s) .contractArtifact g₂ q ∧
          ∀ step ∈ n.cycle, step.Lacks q) := by
  obtain ⟨t, u, st, c, rfl, hchecks, hquiet, hrecords, hconclusion, hresult⟩ := exists_course h
  have hcourse : HonestNode c.transcript := by
    rw [HonestNode, ← honestFrom_quiet, ← hquiet, honestFrom_quiet]
    exact (honestFrom_append.mp hnode).1
  refine ⟨t, u, st, c.nodeRecords hrecords, rfl, hchecks, hresult, ?_, ?_, ?_⟩
  · intro hstart
    obtain ⟨pid, hmem⟩ := Course.startNode_mem hquiet hstart
    exact ⟨pid, List.mem_append_left u hmem⟩
  · intro hstart
    constructor
    · exact Record.lacks_recordAt (c.health_of_start hcourse hstart).2.2
    · rw [fetched_append, fetched_conclusion hconclusion, List.append_nil, ← fetched_quiet, hquiet,
        fetched_quiet]
      exact c.fetched_of_start hcourse hstart
  · intro hhealth
    obtain ⟨p, q, hgated⟩ := c.gated_of_health hhealth
    refine ⟨Record.lacks_recordAt hgated.production_eq, ?_, ?_⟩
    · refine List.forall_mem_append.mpr ⟨not_usesNode_of_quiet ?_,
        conclusion_not_usesNode hconclusion⟩
      rw [hquiet]
      exact fun e he => c.not_usesNode_of_health hhealth e (mem_quiet_iff.mp he).1
    · refine ⟨_, _, _, p, q, hquiet.trans hgated.quiet_transcript, hgated.deploying,
        Record.lacks_recordAt hgated.deployment_eq, hgated.creating,
        Ledger.lacks_recordsFrom hgated.cycle_eq⟩

/-- The answers of surroundings without tools, network or node, where only the report is stored. -/
def barren : (q : Request) → q.Answer
  | .tool i => .notFound i.program
  | .status url => .error (.unansweredStatus url)
  | .call url method _ => .error (.unansweredCall url method)
  | .startNode _ => .error ⟨"Permission denied", ""⟩
  | .nodeRunning => false
  | .isFile _ => false
  | .createDirectories _ => .ok ()
  | .writeFile .. => .ok ()
  | .moveFile .. => .ok ()
  | .time => ""
  | .platform => ""
  | .stopNode | .pause _ | .tell _ => ()

theorem barren_honest {t : Transcript} (h : ∀ e ∈ t, e.2 = barren e.1) : HonestNode t := by
  apply honestFrom_of_forall
  rintro e he rfl
  exact absurd (h _ he) Bool.noConfusion

theorem barren_not_started {t : Transcript} (h : ∀ e ∈ t, e.2 = barren e.1) {l : Launch}
    {pid : Nat} : (⟨.startNode l, .ok pid⟩ : Exchange Request Request.Answer) ∉ t := by
  intro he
  have hanswer : Except.ok pid = barren (.startNode l) := h _ he
  cases hanswer

/-- A setting whose dependencies are looked for where the node tells its health. -/
def sharedAddress : Setting where
  root := "/project"
  config := { Config.default with
    environment := { EnvironmentConfig.default with dependencyUrl := Config.default.healthUrl }
    cycle := { CycleConfig.default with limitationPatterns := [] } }
  patterns := []
  echo := false

/-- Where the cascade sets in at the start of the node, everything behind it is skipped. -/
theorem skip_cascade_barren :
    ∃ w r, (Run.all sharedAddress).Leads w r ∧ HonestNode w ∧
      ∃ t u st, ∃ n : NodeRecords sharedAddress st.ledger.records,
        w = t ++ u ∧ (Run.checks sharedAddress .initial).Leads t st ∧
        n.start.outcome ≠ .pass ∧ n.health.Lacks .nodeRunning ∧
        fetched w = ["http://127.0.0.1:9944/health"] ∧ n.production.Lacks .nodeReady ∧
        ∀ e ∈ w, ¬ e.1.UsesNode := by
  obtain ⟨w, r, h, hanswers⟩ := Dialogue.exists_leads_answers barren (Run.all sharedAddress)
  have hnode := barren_honest hanswers
  obtain ⟨t, u, st, n, hw, hchecks, -, hstarted, hstart, hhealth⟩ := skip_cascade h hnode
  have hnot : n.start.outcome ≠ .pass := fun hpass =>
    (hstarted hpass).elim fun _ hmem => barren_not_started hanswers hmem
  obtain ⟨hlacks, hfetched⟩ := hstart hnot
  have hunhealthy : n.health.outcome ≠ .pass := by
    rw [hlacks.1]
    decide
  obtain ⟨hproduction, hunused, -⟩ := hhealth hunhealthy
  exact ⟨w, r, h, hnode, t, u, st, n, hw, hchecks, hnot, hlacks, hfetched, hproduction, hunused⟩

/-- An accepted configuration may name the address of the health as the one where dependencies are
looked for, and then that address is fetched although the node was never started. -/
theorem health_fetched_without_start :
    Setting.of "/project" sharedAddress.config false = .ok sharedAddress ∧
      sharedAddress.config.check = .ok [] ∧
      ∃ w r, (Run.all sharedAddress).Leads w r ∧ HonestNode w ∧
        ∃ t u st, ∃ n : NodeRecords sharedAddress st.ledger.records,
          w = t ++ u ∧ (Run.checks sharedAddress .initial).Leads t st ∧
          n.start.outcome ≠ .pass ∧ sharedAddress.config.healthUrl ∈ fetched w := by
  refine ⟨rfl, rfl, ?_⟩
  obtain ⟨w, r, h, hanswers⟩ := Dialogue.exists_leads_answers barren (Run.all sharedAddress)
  obtain ⟨t, u, st, c, rfl, hchecks, hquiet, hrecords, -, -⟩ := exists_course h
  refine ⟨t ++ u, r, h, barren_honest hanswers, t, u, st, c.nodeRecords hrecords, rfl, hchecks,
    fun hpass => ?_, ?_⟩
  · obtain ⟨pid, hmem⟩ := Course.startNode_mem hquiet hpass
    exact barren_not_started hanswers (List.mem_append_left u hmem)
  · rw [fetched_append, ← fetched_quiet t, hquiet, fetched_quiet, Course.transcript]
    simp only [fetched_append, c.fetched_probing]
    exact List.mem_cons_self

end Run

end NodeTrial
