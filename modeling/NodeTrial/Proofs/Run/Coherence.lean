import NodeTrial.Proofs.Run.Cascade
import NodeTrial.Proofs.Text.FullLines

namespace NodeTrial

open Dialogue

/-- The causes of checks that were carried out and did not pass. -/
def Cause.ofFailure : List Cause :=
  [.toolMissing, .compileFailure, .spawnFailure, .timeout, .checkFailed]

/-- The causes of checks that were skipped. -/
def Cause.ofSkip : List Cause := [.unmetPrerequisite, .knownLimitation]

/-- A finding whose cause belongs to its outcome and whose detail, if it is no pass, is not blank. -/
def Finding.Coherent : Finding → Prop
  | .pass _ => True
  | .fail cause detail => cause ∈ Cause.ofFailure ∧ Text.blank detail = false
  | .skip cause detail => cause ∈ Cause.ofSkip ∧ Text.blank detail = false

/-- A record whose outcome, cause and detail go together. -/
structure Record.Coherent (r : Record) : Prop where
  pass_iff : r.outcome = .pass ↔ r.cause? = none
  cause_of_fail : r.outcome = .fail → ∃ cause ∈ Cause.ofFailure, r.cause? = some cause
  cause_of_skip : r.outcome = .skip → ∃ cause ∈ Cause.ofSkip, r.cause? = some cause
  detail_of_not_pass : r.outcome ≠ .pass →
    ∃ detail, r.detail? = some detail ∧ Text.blank detail = false

theorem Finding.Coherent.recordAt {f : Finding} (h : f.Coherent) (place : Nat) (name : String) :
    (f.recordAt place name).Coherent := by
  cases f with
  | pass detail =>
      refine ⟨⟨fun _ => rfl, fun _ => rfl⟩, ?_, ?_, fun hpass => absurd rfl hpass⟩
      · rintro ⟨⟩
      · rintro ⟨⟩
  | fail cause detail =>
      obtain ⟨hcause, hdetail⟩ := h
      refine ⟨⟨?_, ?_⟩, fun _ => ⟨cause, hcause, rfl⟩, ?_, fun _ => ⟨detail, ?_, hdetail⟩⟩
      · rintro ⟨⟩
      · rintro ⟨⟩
      · rintro ⟨⟩
      · simp [Finding.recordAt, Finding.detail, hdetail]
  | skip cause detail =>
      obtain ⟨hcause, hdetail⟩ := h
      refine ⟨⟨?_, ?_⟩, ?_, fun _ => ⟨cause, hcause, rfl⟩, fun _ => ⟨detail, ?_, hdetail⟩⟩
      · rintro ⟨⟩
      · rintro ⟨⟩
      · rintro ⟨⟩
      · simp [Finding.recordAt, Finding.detail, hdetail]

theorem Ledger.coherent_recordsFrom {fs : List (String × Finding)} {place : Nat}
    (h : ∀ f ∈ fs, f.2.Coherent) : ∀ r ∈ recordsFrom place fs, r.Coherent := by
  induction fs generalizing place with
  | nil => exact List.forall_mem_nil _
  | cons f fs ih =>
      obtain ⟨hfirst, hrest⟩ := List.forall_mem_cons.mp h
      exact List.forall_mem_cons.mpr ⟨hfirst.recordAt place f.1, ih hrest⟩

theorem Finding.unmet_coherent (p : Prerequisite) : (Finding.unmet p).Coherent := by
  refine ⟨by decide, ?_⟩
  cases p <;> decide

theorem Finding.checkFailed_coherent {words : String} (h : Text.blank words = false)
    (rest : String) : (Finding.fail .checkFailed (words ++ rest)).Coherent :=
  ⟨by decide, Text.not_blank_append_left h rest⟩

theorem Phase.Integration.limited_coherent : limited.Coherent :=
  ⟨by decide, by decide⟩

/-- An unsuccessful tool leads to a detail that is not blank, since there is one to fall back upon
where the tool printed nothing but white space. -/
theorem ToolOutput.failure_coherent (o : ToolOutput) (tool : String) (lines timeout : Nat) :
    (o.failure tool lines timeout).1 ∈ Cause.ofFailure ∧
      Text.blank (o.failure tool lines timeout).2 = false := by
  unfold failure
  split
  · exact ⟨by simp [Cause.ofFailure], Text.not_blank_append_right tool (by decide)⟩
  split
  · refine ⟨by simp [Cause.ofFailure], ?_⟩
    rw [String.append_assoc, String.append_assoc]
    exact Text.not_blank_append_right tool (Text.not_blank_append_left (by decide) _)
  · refine ⟨by simp [Cause.ofFailure], ?_⟩
    dsimp only
    split
    next =>
      rw [String.append_assoc]
      exact Text.not_blank_append_right tool (Text.not_blank_append_left (by decide) _)
    next hshown =>
      rw [Bool.eq_false_iff]
      intro hblank
      rw [Text.firstLines_eq_empty hblank] at hshown
      exact hshown rfl

namespace Setting

variable (s : Setting) (o : ToolOutput)

theorem toolFailure_coherent (tool : String) : (s.toolFailure o tool).Coherent :=
  o.failure_coherent tool s.config.detailLines s.config.toolTimeout

theorem versionFinding_coherent (tool : String) : (s.versionFinding o tool).Coherent := by
  unfold versionFinding
  split
  · trivial
  · exact s.toolFailure_coherent o tool

end Setting

theorem Checked.coherent {checks : List (String × Trial Finding)} {fs : List (String × Finding)}
    {t : Transcript} (h : Checked checks fs t)
    (hchecks : ∀ c ∈ checks, c.2.Yields Finding.Coherent) : ∀ f ∈ fs, f.2.Coherent := by
  induction h with
  | nil => exact List.forall_mem_nil _
  | cons first rest ih =>
      obtain ⟨hfirst, hrest⟩ := List.forall_mem_cons.mp hchecks
      exact List.forall_mem_cons.mpr ⟨hfirst.of_leads first, ih hrest⟩

namespace Phase

variable (s : Setting)

namespace Environment

theorem target_yields : (target s).Yields Finding.Coherent := by
  refine .bind fun o => ?_
  change Finding.Coherent (if _ then _ else _)
  split
  · exact s.toolFailure_coherent o "rustup"
  split
  · trivial
  · rw [String.append_assoc, String.append_assoc]
    exact ⟨by decide, Text.not_blank_append_right _ (Text.not_blank_append_left (by decide) _)⟩

theorem network_yields : (network s).Yields Finding.Coherent := by
  refine .bind fun reached => ?_
  cases reached with
  | true => trivial
  | false => exact Finding.checkFailed_coherent (by decide) _

theorem checks_yield : ∀ c ∈ checks s, c.2.Yields Finding.Coherent := by
  simp only [checks, List.forall_mem_cons]
  exact ⟨.bind fun o => s.versionFinding_coherent o _, target_yields s,
    .bind fun o => s.versionFinding_coherent o _, network_yields s, List.forall_mem_nil _⟩

end Environment

namespace Build

theorem package_yields (name : String) : (package s name).Yields Finding.Coherent := by
  refine .bind fun o => ?_
  change Finding.Coherent (if _ then _ else _)
  split
  · trivial
  · exact s.toolFailure_coherent o "cargo"

theorem runtimeArtifact_yields : (runtimeArtifact s).Yields Finding.Coherent := by
  refine .bind fun isFile => ?_
  cases isFile with
  | true => trivial
  | false => exact Finding.checkFailed_coherent (by decide) _

theorem versionFinding_coherent (o : ToolOutput) : (versionFinding s o).Coherent := by
  unfold versionFinding
  dsimp only
  split
  · exact s.toolFailure_coherent o "node"
  split
  · trivial
  · rw [String.append_assoc, String.append_assoc]
    exact Finding.checkFailed_coherent (by decide) _

theorem nodeVersion_yields : (nodeVersion s).Yields Finding.Coherent := by
  refine .bind fun isFile => ?_
  cases isFile with
  | true => exact .bind fun o => versionFinding_coherent s o
  | false => exact Finding.unmet_coherent _

theorem nodeChecks_yield : ∀ c ∈ nodeChecks s, c.2.Yields Finding.Coherent := by
  simp only [nodeChecks, List.forall_mem_cons]
  exact ⟨package_yields s _, package_yields s _, runtimeArtifact_yields s, nodeVersion_yields s,
    List.forall_mem_nil _⟩

theorem compile_yields (contract : String) : (compile s contract).Yields Finding.Coherent := by
  refine .bind fun o => ?_
  change Finding.Coherent (if _ then _ else _)
  split
  · trivial
  · exact s.toolFailure_coherent o "cargo-contract"

theorem artifacts_yields (contract : String) (compiled : Bool) :
    (artifacts s contract compiled).Yields Finding.Coherent := by
  unfold artifacts
  cases compiled with
  | false => exact Finding.unmet_coherent _
  | true =>
      refine .bind fun names => ?_
      cases names with
      | nil => trivial
      | cons name names => exact Finding.checkFailed_coherent (by decide) _

theorem ContractsChecked.coherent {s : Setting} {contracts : List String}
    {fs : List (String × Finding)} {t : Transcript} (h : ContractsChecked s contracts fs t) :
    ∀ f ∈ fs, f.2.Coherent := by
  induction h with
  | nil => exact List.forall_mem_nil _
  | cons compiling looking rest ih =>
      exact List.forall_mem_cons.mpr ⟨(compile_yields s _).of_leads compiling,
        List.forall_mem_cons.mpr ⟨(artifacts_yields s _ _).of_leads looking, ih⟩⟩

end Build

namespace Runtime

theorem start_coherent {s : Setting} (hlines : s.config.detailLines ≠ 0) {t : Transcript}
    {f : Finding} (h : (start s).Leads t f)
    (hnode : ∀ l e, (⟨.startNode l, .error e⟩ : Exchange Request Request.Answer) ∈ t →
      Text.blank e.reason = false) : f.Coherent := by
  rcases start_cases h with ⟨-, rfl⟩ | ⟨pid, -, rfl⟩ | ⟨e, rfl, rfl⟩
  · exact Finding.unmet_coherent _
  · trivial
  · have hreason := hnode (launch s) e (by simp)
    have hdisplay : Text.blank e.display = false := by
      unfold StartFailure.display
      split
      · exact hreason
      · rw [String.append_assoc]
        exact Text.not_blank_append_left hreason _
    refine ⟨by decide, ?_⟩
    rw [Config.detail, Bool.eq_false_iff, ne_eq, Text.blank_firstLines_iff, hdisplay]
    simp [hlines]

theorem healthFinding_coherent (e : PollEnd) : (healthFinding s e).Coherent := by
  cases e with
  | ready n => trivial
  | timedOut n =>
      refine ⟨by decide, ?_⟩
      rw [String.append_assoc, String.append_assoc]
      exact Text.not_blank_append_left (by decide) _

theorem health_yields : (health s).Yields Finding.Coherent := by
  refine .bind fun running => ?_
  cases running with
  | true => exact .bind fun e => healthFinding_coherent s e
  | false => exact Finding.unmet_coherent _

theorem productionFinding_coherent (p : Progress) : (productionFinding p).Coherent := by
  cases p with
  | changed before after => trivial
  | unchanged height =>
      refine ⟨by decide, ?_⟩
      change Text.blank (_ ++ _ ++ _) = false
      rw [String.append_assoc]
      exact Text.not_blank_append_left (by decide) _
  | missing sample => exact ⟨by decide, by cases sample <;> decide⟩

theorem production_yields (ready : Bool) : (production s ready).Yields Finding.Coherent := by
  unfold production
  cases ready with
  | true => exact .bind fun p => productionFinding_coherent p
  | false => exact Finding.unmet_coherent _

end Runtime

namespace Integration

theorem deployerFinding_coherent (o : ToolOutput) : (deployerFinding s o).Coherent := by
  unfold deployerFinding
  split
  · exact limited_coherent
  split
  · trivial
  · exact s.toolFailure_coherent o "deployer"

theorem deployAll_yields (ready : Bool) : (deployAll s ready).Yields Finding.Coherent := by
  refine .bind fun missing => ?_
  cases missing with
  | some p => exact Finding.unmet_coherent p
  | none => exact .bind fun o => deployerFinding_coherent s o

/-- A creation whose finding is coherent, and that of the later steps as well, if it failed. -/
def Creation.Coherent : Creation → Prop
  | «at» _ => True
  | failed finding later => finding.Coherent ∧ later.Coherent

theorem creationOf_coherent (o : ToolOutput) : (creationOf s o).Coherent := by
  unfold creationOf
  split
  · exact ⟨limited_coherent, limited_coherent⟩
  split
  · split
    · trivial
    · exact ⟨Finding.checkFailed_coherent (by decide) _, Finding.unmet_coherent _⟩
  · exact ⟨s.toolFailure_coherent o "cargo-contract", Finding.unmet_coherent _⟩

theorem create_yields (ready : Bool) : (create s ready).Yields Creation.Coherent := by
  refine .bind fun missing => ?_
  cases missing with
  | some p => exact ⟨Finding.unmet_coherent p, Finding.unmet_coherent p⟩
  | none => exact .bind fun o => creationOf_coherent s o

theorem screen_coherent {s : Setting} {o : ToolOutput} {f : Finding} (h : screen s o = some f) :
    f.Coherent := by
  unfold screen at h
  split at h
  · cases h
    exact limited_coherent
  split at h
  · cases h
  · cases h
    exact s.toolFailure_coherent o "cargo-contract"

theorem screenCall_coherent {s : Setting} {o : ToolOutput} {f : Finding}
    (h : screenCall s o = some f) : f.Coherent := by
  unfold screenCall at h
  split at h
  next hscreen =>
    cases h
    exact screen_coherent hscreen
  next =>
    split at h
    · cases h
    · cases h
      exact Finding.checkFailed_coherent (by decide) _

theorem queryFinding_coherent (o : ToolOutput) (word passed : String)
    {otherwise : String → String} (h : ∀ value, Text.blank (otherwise value) = false) :
    (queryFinding s o word passed otherwise).Coherent := by
  unfold queryFinding
  split
  next hscreen => exact screen_coherent hscreen
  next =>
    split
    · trivial
    · exact ⟨by decide, h _⟩

theorem query_yields (address name : String) (args : List String) (word : String) :
    (query s address name args word).Yields Finding.Coherent := by
  refine .bind fun o => queryFinding_coherent s o word _ fun value => ?_
  rw [String.append_assoc, String.append_assoc]
  exact Text.not_blank_append_left (by decide) _

theorem grant_yields (address : String) : (grant s address).Yields Finding.Coherent := by
  refine .bind fun o => ?_
  change ((screenCall s o).getD _).Coherent
  cases hscreen : screenCall s o with
  | some f => exact screenCall_coherent hscreen
  | none => trivial

theorem clearedFinding_coherent (o : ToolOutput) : (clearedFinding s o).Coherent :=
  queryFinding_coherent s o _ _ fun value => by
    rw [String.append_assoc]
    exact Text.not_blank_append_left (by decide) _

theorem revoke_yields (address : String) : (revoke s address).Yields Finding.Coherent := by
  refine .bind fun o => ?_
  split
  next hscreen => exact screenCall_coherent hscreen
  next => exact .bind fun o => clearedFinding_coherent s o

theorem stepChecks_yield {c : Creation} (h : c.Coherent) :
    ∀ step ∈ stepChecks s c, step.2.Yields Finding.Coherent := by
  cases c with
  | «at» address =>
      simp only [stepChecks, steps, List.map_cons, List.map_nil, List.forall_mem_cons]
      exact ⟨grant_yields s address, query_yields s address _ _ _, query_yields s address _ _ _,
        revoke_yields s address, List.forall_mem_nil _⟩
  | failed finding later => exact List.forall_mem_map.mpr fun step _ => h.2

theorem Creation.Coherent.finding {c : Creation} (h : c.Coherent) : c.finding.Coherent := by
  cases c with
  | «at» address => trivial
  | failed finding later => exact h.1

end Integration

end Phase

namespace Run

theorem Course.findings_coherent {s : Setting} (hlines : s.config.detailLines ≠ 0) {ready : Bool}
    (c : Course s ready)
    (hnode : ∀ l e, (⟨.startNode l, .error e⟩ : Exchange Request Request.Answer) ∈ c.transcript →
      Text.blank e.reason = false) : ∀ f ∈ c.findings, f.2.Coherent := by
  have hstart : c.runtime.start.Coherent := by
    refine Phase.Runtime.start_coherent hlines c.runtime.start_leads fun l e he => hnode l e ?_
    simp [Course.transcript, Phase.Runtime.Course.transcript, he]
  have hcreation : c.integration.creation.Coherent :=
    (Phase.Integration.create_yields s _).of_leads c.integration.creation_leads
  simp only [Course.findings, preparation, Phase.Runtime.Course.findings,
    Phase.Integration.Course.findings, List.forall_mem_append, List.forall_mem_cons]
  exact ⟨⟨⟨c.environment_checked.coherent (Phase.Environment.checks_yield s),
      c.nodes_checked.coherent (Phase.Build.nodeChecks_yield s), c.contracts_checked.coherent⟩,
      hstart, (Phase.Runtime.health_yields s).of_leads c.runtime.health_leads,
      (Phase.Runtime.production_yields s _).of_leads c.runtime.production_leads,
      List.forall_mem_nil _⟩,
    (Phase.Build.package_yields s _).of_leads c.integration.deployer_leads,
    (Phase.Integration.deployAll_yields s _).of_leads c.integration.deployment_leads,
    hcreation.finding,
    c.integration.steps_checked.coherent (Phase.Integration.stepChecks_yield s hcreation)⟩

theorem detailLines_ne_zero {c : Config} {patterns : List Pattern} (h : c.check = .ok patterns) :
    c.detailLines ≠ 0 := by
  intro hzero
  unfold Config.check at h
  simp only [hzero, if_true] at h
  split at h
  · cases h
  split at h <;> cases h

/-- Whatever a run with an accepted configuration is answered, as long as a start of the node that
fails tells a reason, outcome, cause and detail of every record go together. -/
theorem records_coherent {s : Setting} {patterns : List Pattern}
    (hconfig : s.config.check = .ok patterns) {w : Transcript}
    {r : Except Report.StoreError RunResult} (h : (Run.all s).Leads w r)
    (hnode : ∀ l e, (⟨.startNode l, .error e⟩ : Exchange Request Request.Answer) ∈ w →
      Text.blank e.reason = false) :
    ∃ t u st, w = t ++ u ∧ (Run.checks s .initial).Leads t st ∧
      (∀ record ∈ st.ledger.records, record.Coherent) ∧
      ∀ result, r = .ok result → result.records = st.ledger.records := by
  obtain ⟨t, u, st, c, rfl, hchecks, hquiet, hrecords, -, hresult⟩ := exists_course h
  refine ⟨t, u, st, rfl, hchecks, ?_, hresult⟩
  rw [hrecords]
  apply Ledger.coherent_recordsFrom
  apply c.findings_coherent (detailLines_ne_zero hconfig)
  intro l e he
  have hmem : (⟨.startNode l, .error e⟩ : Exchange Request Request.Answer) ∈ quiet t := by
    rw [hquiet]
    exact mem_quiet_iff.mpr ⟨he, rfl⟩
  exact hnode l e (List.mem_append_left u (mem_quiet_iff.mp hmem).1)

/-- The answers of surroundings where every file is there, but each tool fails and prints nothing
but white space, and the node does not start. -/
def mute : (q : Request) → q.Answer
  | .tool _ => ⟨some 2, " \n", "\t", false, false⟩
  | .isFile _ => true
  | .startNode _ => .error ⟨"Permission denied", "\n"⟩
  | q => barren q

/-- All checks of a run whose tools print nothing are recorded with a cause and a detail. -/
theorem records_coherent_mute :
    sharedAddress.config.check = .ok [] ∧
      ∃ w r, (Run.all sharedAddress).Leads w r ∧
        (∀ l e, (⟨.startNode l, .error e⟩ : Exchange Request Request.Answer) ∈ w →
          Text.blank e.reason = false) ∧
        ∃ t u st, w = t ++ u ∧ (Run.checks sharedAddress .initial).Leads t st ∧
          st.ledger.records.length = 22 ∧ ∀ record ∈ st.ledger.records, record.Coherent := by
  have hconfig : sharedAddress.config.check = .ok [] := rfl
  obtain ⟨w, r, h, hanswers⟩ := Dialogue.exists_leads_answers mute (Run.all sharedAddress)
  have hnode : ∀ l e, (⟨.startNode l, .error e⟩ : Exchange Request Request.Answer) ∈ w →
      Text.blank e.reason = false := by
    intro l e he
    have hanswer : Except.error e = mute (.startNode l) := hanswers _ he
    cases hanswer
    decide
  obtain ⟨t, u, st, hw, hchecks, hcoherent, -⟩ := records_coherent hconfig h hnode
  refine ⟨hconfig, w, r, h, hnode, t, u, st, hw, hchecks, ?_, hcoherent⟩
  rw [← List.length_map, (Run.records_of_checks hchecks).1]
  rfl

end Run

end NodeTrial
