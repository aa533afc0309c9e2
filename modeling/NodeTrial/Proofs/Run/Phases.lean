import NodeTrial.Proofs.Run.Findings
import NodeTrial.Run

/-!
The course of each phase of checks: which computations it carries out, in which order, and what it
enters into the ledger, whatever the surroundings answer. Each phase has one statement of that kind,
`run_leads`, and everything about whole runs is drawn from these.
-/

namespace NodeTrial

theorem Setting.quiet_of_announce {s : Setting} {p : Phase} {t : Transcript} {u : Unit}
    (h : (s.announce p).Leads t u) : quiet t = [] := quiet_of_tell h

namespace Phase

theorem Environment.run_leads {s : Setting} {st st' : Standing} {t : Transcript}
    (h : (Environment.run s st).Leads t st') :
    ∃ fs t', Checked (checks s) fs t' ∧ quiet t = quiet t' ∧ st' = st.after fs := by
  obtain ⟨t₁, t₂, _, rfl, hbanner, hchecks⟩ := Dialogue.leads_bind_iff.mp h
  obtain ⟨fs, t', hfs, hquiet, rfl⟩ := Standing.carryOutAll_leads hchecks
  refine ⟨fs, t', hfs, ?_, rfl⟩
  rw [quiet_append, Setting.quiet_of_announce hbanner, hquiet, List.nil_append]

namespace Build

/-- The two checks of each contract came to findings; the second of them hangs on the first. -/
inductive ContractsChecked (s : Setting) :
    List String → List (String × Finding) → Transcript → Prop
  | nil : ContractsChecked s [] [] []
  | cons {contract : String} {contracts : List String} {compiled built : Finding}
      {fs : List (String × Finding)} {t u t' : Transcript}
      (compiling : (compile s contract).Leads t compiled)
      (looking : (artifacts s contract (compiled.outcome = .pass)).Leads u built)
      (rest : ContractsChecked s contracts fs t') :
      ContractsChecked s (contract :: contracts)
        (("Compile contract: " ++ contract, compiled) ::
          ("Contract artifacts: " ++ contract, built) :: fs)
        (t ++ u ++ t')

theorem contractChecks_leads {s : Setting} {st st' : Standing} {contract : String}
    {t : Transcript} (h : (contractChecks s st contract).Leads t st') :
    ∃ compiled built t₁ t₂, (compile s contract).Leads t₁ compiled ∧
      (artifacts s contract (compiled.outcome = .pass)).Leads t₂ built ∧
      quiet t = quiet (t₁ ++ t₂) ∧
      st' = st.after [("Compile contract: " ++ contract, compiled),
        ("Contract artifacts: " ++ contract, built)] := by
  obtain ⟨t₁, t', compiled, rfl, hcompile, h⟩ := Dialogue.leads_bind_iff.mp h
  obtain ⟨u, t'', _, rfl, henter, h⟩ := Dialogue.leads_bind_iff.mp h
  obtain ⟨hu, rfl⟩ := Standing.enter_leads henter
  obtain ⟨built, t₂, hbuilt, hquiet, rfl⟩ := Standing.carryOut_leads h
  refine ⟨compiled, built, t₁, t₂, hcompile, hbuilt, ?_, rfl⟩
  rw [quiet_append, quiet_append, hu, hquiet, List.nil_append, quiet_append]

theorem allContractChecks_leads {s : Setting} {st st' : Standing} {contracts : List String}
    {t : Transcript} (h : (allContractChecks s st contracts).Leads t st') :
    ∃ fs t', ContractsChecked s contracts fs t' ∧ quiet t = quiet t' ∧ st' = st.after fs := by
  induction contracts generalizing st t with
  | nil =>
      obtain ⟨rfl, rfl⟩ := Dialogue.leads_pure_iff.mp h
      exact ⟨[], [], .nil, rfl, rfl⟩
  | cons contract contracts ih =>
      obtain ⟨t₁, t₂, _, rfl, hfirst, hrest⟩ := Dialogue.leads_bind_iff.mp h
      obtain ⟨compiled, built, u₁, u₂, hcompile, hbuilt, hq₁, rfl⟩ := contractChecks_leads hfirst
      obtain ⟨fs, t', hfs, hq₂, rfl⟩ := ih hrest
      refine ⟨_, _, .cons hcompile hbuilt hfs, ?_, ?_⟩
      · rw [quiet_append, hq₁, hq₂, ← quiet_append]
      · exact (Standing.after_append st [_, _] fs).symm

theorem run_leads {s : Setting} {st st' : Standing} {t : Transcript}
    (h : (Build.run s st).Leads t st') :
    ∃ fs gs t₁ t₂, Checked (nodeChecks s) fs t₁ ∧
      ContractsChecked s s.config.contracts.names gs t₂ ∧
      quiet t = quiet (t₁ ++ t₂) ∧ st' = st.after (fs ++ gs) := by
  obtain ⟨u, t', _, rfl, hbanner, h⟩ := Dialogue.leads_bind_iff.mp h
  obtain ⟨t₁, t₂, _, rfl, hnode, hcontracts⟩ := Dialogue.leads_bind_iff.mp h
  obtain ⟨fs, t₁', hfs, hq₁, rfl⟩ := Standing.carryOutAll_leads hnode
  obtain ⟨gs, t₂', hgs, hq₂, rfl⟩ := allContractChecks_leads hcontracts
  refine ⟨fs, gs, t₁', t₂', hfs, hgs, ?_, (Standing.after_append st fs gs).symm⟩
  rw [quiet_append, quiet_append, Setting.quiet_of_announce hbanner, hq₁, hq₂, List.nil_append,
    quiet_append]

end Build

namespace Runtime

/-- Whether the node is ready once its health is known. -/
def readyAfter (ready : Bool) (health : Finding) : Bool :=
  match health.outcome with
  | .pass => true
  | .fail => false
  | .skip => ready

/-- What is asked of the node once its health is known: one that never became healthy is stopped. -/
def reaction (health : Finding) : Transcript :=
  match health.outcome with
  | .fail => [⟨.stopNode, ()⟩]
  | _ => []

/-- The course of the phase, begun with a node that is ready or not. -/
structure Course (s : Setting) (ready : Bool) where
  start : Finding
  health : Finding
  production : Finding
  starting : Transcript
  waiting : Transcript
  sampling : Transcript
  start_leads : (Runtime.start s).Leads starting start
  health_leads : (Runtime.health s).Leads waiting health
  production_leads : (Runtime.production s (readyAfter ready health)).Leads sampling production

namespace Course

variable {s : Setting} {ready : Bool}

def findings (c : Course s ready) : List (String × Finding) :=
  [(startName, c.start), (healthName, c.health), (productionName, c.production)]

def transcript (c : Course s ready) : Transcript :=
  c.starting ++ c.waiting ++ reaction c.health ++ c.sampling

end Course

theorem awaitHealth_leads {s : Setting} {st st' : Standing} {t : Transcript}
    (h : (awaitHealth s st).Leads t st') :
    ∃ f t', (health s).Leads t' f ∧ quiet t = quiet (t' ++ reaction f) ∧
      st' = { st.after [(healthName, f)] with nodeReady := readyAfter st.nodeReady f } := by
  obtain ⟨t₁, t₂, f, rfl, hhealth, h⟩ := Dialogue.leads_bind_iff.mp h
  refine ⟨f, t₁, hhealth, ?_⟩
  rw [quiet_append, quiet_append]
  unfold reaction readyAfter
  split at h
  next hf =>
    obtain ⟨hquiet, rfl⟩ := Standing.enter_leads h
    rw [hf, hquiet]
    exact ⟨rfl, rfl⟩
  next hf =>
    obtain ⟨u₁, u₂, _, rfl, henter, h⟩ := Dialogue.leads_bind_iff.mp h
    obtain ⟨u₃, u₄, _, rfl, hstop, hdone⟩ := Dialogue.leads_bind_iff.mp h
    obtain ⟨hquiet, rfl⟩ := Standing.enter_leads henter
    obtain ⟨rfl, rfl⟩ := Dialogue.leads_pure_iff.mp hdone
    rw [hf, quiet_append, hquiet, Dialogue.leads_question_iff.mp hstop]
    exact ⟨rfl, rfl⟩
  next hf =>
    obtain ⟨hquiet, rfl⟩ := Standing.enter_leads h
    rw [hf, hquiet]
    exact ⟨rfl, rfl⟩

theorem run_leads {s : Setting} {st st' : Standing} {t : Transcript}
    (h : (Runtime.run s st).Leads t st') :
    ∃ c : Course s st.nodeReady, quiet t = quiet c.transcript ∧
      st' = { st.after c.findings with nodeReady := readyAfter st.nodeReady c.health } := by
  obtain ⟨u, t', _, rfl, hbanner, h⟩ := Dialogue.leads_bind_iff.mp h
  obtain ⟨t₁, t', _, rfl, h₁, h⟩ := Dialogue.leads_bind_iff.mp h
  obtain ⟨t₂, t₃, _, rfl, h₂, h₃⟩ := Dialogue.leads_bind_iff.mp h
  obtain ⟨start, t₁', hstart, hq₁, rfl⟩ := Standing.carryOut_leads h₁
  obtain ⟨health, t₂', hhealth, hq₂, rfl⟩ := awaitHealth_leads h₂
  obtain ⟨production, t₃', hproduction, hq₃, rfl⟩ := Standing.carryOut_leads h₃
  refine ⟨⟨start, health, production, t₁', t₂', t₃', hstart, hhealth, hproduction⟩, ?_, rfl⟩
  simp only [Course.transcript, quiet_append, Setting.quiet_of_announce hbanner, hq₁, hq₂, hq₃,
    List.nil_append, List.append_assoc]

end Runtime

namespace Integration

/-- The course of the phase, begun with a node that is ready or not. -/
structure Course (s : Setting) (ready : Bool) where
  deployer : Finding
  deployment : Finding
  creation : Creation
  steps : List (String × Finding)
  building : Transcript
  deploying : Transcript
  creating : Transcript
  calling : Transcript
  deployer_leads : (Build.package s s.config.deployer.package).Leads building deployer
  deployment_leads : (deployAll s ready).Leads deploying deployment
  creation_leads : (create s ready).Leads creating creation
  steps_checked : Checked (stepChecks s creation) steps calling

namespace Course

variable {s : Setting} {ready : Bool}

def findings (c : Course s ready) : List (String × Finding) :=
  ("Build deployer", c.deployer) :: (deployAllName, c.deployment) ::
    (creationName s.config.cycle.contract, c.creation.finding) :: c.steps

def transcript (c : Course s ready) : Transcript :=
  c.building ++ c.deploying ++ c.creating ++ c.calling

end Course

theorem run_leads {s : Setting} {st st' : Standing} {t : Transcript}
    (h : (Integration.run s st).Leads t st') :
    ∃ c : Course s st.nodeReady, quiet t = quiet c.transcript ∧ st' = st.after c.findings := by
  obtain ⟨u, t', _, rfl, hbanner, h⟩ := Dialogue.leads_bind_iff.mp h
  obtain ⟨t₁, t', _, rfl, h₁, h⟩ := Dialogue.leads_bind_iff.mp h
  obtain ⟨t₂, t', _, rfl, h₂, h⟩ := Dialogue.leads_bind_iff.mp h
  obtain ⟨deployer, t₁', hdeployer, hq₁, rfl⟩ := Standing.carryOut_leads h₁
  obtain ⟨deployment, t₂', hdeployment, hq₂, rfl⟩ := Standing.carryOut_leads h₂
  obtain ⟨t₃, t', creation, rfl, hcreation, h⟩ := Dialogue.leads_bind_iff.mp h
  obtain ⟨v, t₄, _, rfl, h₃, h₄⟩ := Dialogue.leads_bind_iff.mp h
  obtain ⟨hq₃, rfl⟩ := Standing.enter_leads h₃
  obtain ⟨steps, t₄', hsteps, hq₄, rfl⟩ := Standing.carryOutAll_leads h₄
  refine ⟨⟨deployer, deployment, creation, steps, t₁', t₂', t₃, t₄', hdeployer, hdeployment,
    hcreation, hsteps⟩, ?_, rfl⟩
  simp only [Course.transcript, quiet_append, Setting.quiet_of_announce hbanner, hq₁, hq₂, hq₃, hq₄,
    List.nil_append, List.append_assoc]

end Integration

end Phase

namespace Run

/-- The course of all phases of checks, begun with a node that is ready or not. -/
structure Course (s : Setting) (ready : Bool) where
  environment : List (String × Finding)
  nodes : List (String × Finding)
  contracts : List (String × Finding)
  probing : Transcript
  building : Transcript
  compiling : Transcript
  environment_checked : Checked (Phase.Environment.checks s) environment probing
  nodes_checked : Checked (Phase.Build.nodeChecks s) nodes building
  contracts_checked :
    Phase.Build.ContractsChecked s s.config.contracts.names contracts compiling
  runtime : Phase.Runtime.Course s ready
  integration : Phase.Integration.Course s (Phase.Runtime.readyAfter ready runtime.health)

namespace Course

variable {s : Setting} {ready : Bool}

def preparation (c : Course s ready) : List (String × Finding) :=
  c.environment ++ (c.nodes ++ c.contracts)

def findings (c : Course s ready) : List (String × Finding) :=
  c.preparation ++ c.runtime.findings ++ c.integration.findings

def transcript (c : Course s ready) : Transcript :=
  c.probing ++ (c.building ++ c.compiling) ++ c.runtime.transcript ++ c.integration.transcript

end Course

theorem checks_leads {s : Setting} {st st' : Standing} {t : Transcript}
    (h : (Run.checks s st).Leads t st') :
    ∃ c : Course s st.nodeReady, quiet t = quiet c.transcript ∧
      st'.ledger = st.ledger.enterAll c.findings := by
  obtain ⟨t₁, t', _, rfl, h₁, h⟩ := Dialogue.leads_bind_iff.mp h
  obtain ⟨t₂, t', _, rfl, h₂, h⟩ := Dialogue.leads_bind_iff.mp h
  obtain ⟨t₃, t₄, _, rfl, h₃, h₄⟩ := Dialogue.leads_bind_iff.mp h
  obtain ⟨environment, u₁, henvironment, hq₁, rfl⟩ := Phase.Environment.run_leads h₁
  obtain ⟨nodes, contracts, u₂, u₃, hnodes, hcontracts, hq₂, rfl⟩ := Phase.Build.run_leads h₂
  obtain ⟨runtime, hq₃, rfl⟩ := Phase.Runtime.run_leads h₃
  obtain ⟨integration, hq₄, rfl⟩ := Phase.Integration.run_leads h₄
  refine ⟨⟨environment, nodes, contracts, u₁, u₂, u₃, henvironment, hnodes, hcontracts, runtime,
    integration⟩, ?_, ?_⟩
  · rw [quiet_append, quiet_append, quiet_append, hq₁, hq₂, hq₃, hq₄]
    simp only [Course.transcript, quiet_append, List.append_assoc]
    rfl
  · simp only [Standing.after, Course.findings, Course.preparation, Ledger.enterAll_append]

theorem course_of_checks {s : Setting} {st : Standing} {t : Transcript}
    (h : (Run.checks s .initial).Leads t st) :
    ∃ c : Course s false, quiet t = quiet c.transcript ∧
      st.ledger.records = Ledger.recordsFrom 1 c.findings := by
  obtain ⟨c, hquiet, hledger⟩ := checks_leads h
  refine ⟨c, hquiet, ?_⟩
  rw [hledger, Ledger.records_enterAll]
  rfl

/-- What a run does after its checks: the node is stopped, and the report is stored. -/
def conclusion (s : Setting) (st : Standing) : Trial (Except Report.StoreError RunResult) := do
  s.announce .reporting
  let st ← st.stopNode
  report s st.ledger

theorem all_leads {s : Setting} {t : Transcript} {r : Except Report.StoreError RunResult}
    (h : (Run.all s).Leads t r) :
    ∃ t₁ t₂ st, t = t₁ ++ t₂ ∧ (Run.checks s .initial).Leads t₁ st ∧
      (conclusion s st).Leads t₂ r :=
  Dialogue.leads_bind_iff.mp h

theorem records_of_conclusion {s : Setting} {st : Standing} {t : Transcript} {r : RunResult}
    (h : (conclusion s st).Leads t (.ok r)) :
    r.records = st.ledger.records ∧ r.tally = st.ledger.tally := by
  obtain ⟨t₁, u₁, _, rfl, -, h₁⟩ := Dialogue.leads_bind_iff.mp h
  obtain ⟨t₂, u₂, st₂, rfl, hstop, h₂⟩ := Dialogue.leads_bind_iff.mp h₁
  obtain ⟨t₃, u₃, facts, rfl, -, h₃⟩ := Dialogue.leads_bind_iff.mp h₂
  obtain ⟨t₄, u₄, stored, rfl, -, h₄⟩ := Dialogue.leads_bind_iff.mp h₃
  obtain ⟨t₅, u₅, _, rfl, -, hst⟩ := Dialogue.leads_bind_iff.mp hstop
  obtain ⟨rfl, rfl⟩ := Dialogue.leads_pure_iff.mp hst
  cases stored with
  | error e =>
      obtain ⟨-, hr⟩ := Dialogue.leads_pure_iff.mp h₄
      cases hr
  | ok _ =>
      obtain ⟨t₆, u₆, _, rfl, -, h₆⟩ := Dialogue.leads_bind_iff.mp h₄
      obtain ⟨-, hr⟩ := Dialogue.leads_pure_iff.mp h₆
      cases hr
      exact ⟨rfl, rfl⟩

end Run

end NodeTrial
