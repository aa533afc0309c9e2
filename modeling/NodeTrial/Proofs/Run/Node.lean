import NodeTrial.Proofs.Polling
import NodeTrial.Proofs.Run.Phases

namespace NodeTrial.Phase

namespace Runtime

theorem start_cases {s : Setting} {t : Transcript} {f : Finding} (h : (start s).Leads t f) :
    (t = [⟨.isFile (launch s).program, false⟩] ∧ f = .unmet .nodeBinary) ∨
      (∃ pid : Nat, t = [⟨.isFile (launch s).program, true⟩, ⟨.startNode (launch s), .ok pid⟩] ∧
        f = .pass ("PID " ++ toString pid)) ∨
      ∃ e : StartFailure,
        t = [⟨.isFile (launch s).program, true⟩, ⟨.startNode (launch s), .error e⟩] ∧
          f = .fail .spawnFailure (s.config.detail e.display) := by
  obtain ⟨t₁, t₂, isFile, rfl, hfile, h₂⟩ := Dialogue.leads_bind_iff.mp h
  obtain rfl := Dialogue.leads_question_iff.mp hfile
  cases isFile with
  | false =>
      obtain ⟨rfl, rfl⟩ := Dialogue.leads_pure_iff.mp h₂
      exact .inl ⟨rfl, rfl⟩
  | true =>
      obtain ⟨t₃, t₄, started, rfl, hstart, h₃⟩ := Dialogue.leads_bind_iff.mp h₂
      obtain rfl := Dialogue.leads_question_iff.mp hstart
      cases started with
      | ok pid =>
          obtain ⟨rfl, rfl⟩ := Dialogue.leads_pure_iff.mp h₃
          exact .inr (.inl ⟨pid, rfl, rfl⟩)
      | error e =>
          obtain ⟨rfl, rfl⟩ := Dialogue.leads_pure_iff.mp h₃
          exact .inr (.inr ⟨e, rfl, rfl⟩)

def healthPoll (s : Setting) : Trial PollEnd :=
  pollUntil (healthBudget s) Trial.pause (Trial.isHealthy s.config.healthUrl)

theorem health_cases {s : Setting} {t : Transcript} {f : Finding} (h : (health s).Leads t f) :
    (t = [⟨.nodeRunning, false⟩] ∧ f = .unmet .nodeRunning) ∨
      ∃ t' e, t = ⟨.nodeRunning, true⟩ :: t' ∧ (healthPoll s).Leads t' e ∧
        f = healthFinding s e := by
  obtain ⟨t₁, t₂, running, rfl, hrunning, h₂⟩ := Dialogue.leads_bind_iff.mp h
  obtain rfl := Dialogue.leads_question_iff.mp hrunning
  cases running with
  | false =>
      obtain ⟨rfl, rfl⟩ := Dialogue.leads_pure_iff.mp h₂
      exact .inl ⟨rfl, rfl⟩
  | true =>
      obtain ⟨t₃, t₄, e, rfl, hpoll, h₃⟩ := Dialogue.leads_bind_iff.mp h₂
      obtain ⟨rfl, rfl⟩ := Dialogue.leads_pure_iff.mp h₃
      refine .inr ⟨t₃, e, ?_, hpoll, rfl⟩
      rw [List.append_nil]
      rfl

/-- A node is found healthy only by an answer that says so. -/
theorem healthPoll_ready {s : Setting} {t : Transcript} {n : Nat}
    (h : (healthPoll s).Leads t (.ready n)) :
    ∃ code : Nat, isSuccessStatus code = true ∧
      (⟨.status s.config.healthUrl, .ok code⟩ : Exchange Request Request.Answer) ∈ t := by
  obtain ⟨t', t₁, ⟨found, m⟩, rfl, hpoll, hend⟩ := Dialogue.leads_bind_iff.mp h
  cases found with
  | none => cases (Dialogue.leads_pure_iff.mp hend).2
  | some v =>
      obtain ⟨rs, hpolled, ⟨hnone, -⟩ | ⟨k, v', -, hv, rfl, -⟩⟩ := pollFrom_leads hpoll
      · cases hnone
      · obtain ⟨u, hu, hreply⟩ := hpolled.exists_leads (r := some v') (by simp)
        obtain ⟨u₁, u₂, a, rfl, hasked, hjudged⟩ := Dialogue.leads_bind_iff.mp hreply
        obtain ⟨u₃, u₄, answer, rfl, hstatus, hdone⟩ := Dialogue.leads_bind_iff.mp hasked
        obtain rfl := Dialogue.leads_question_iff.mp hstatus
        obtain ⟨rfl, rfl⟩ := Dialogue.leads_pure_iff.mp hdone
        have hmem : (⟨.status s.config.healthUrl, answer⟩ : Exchange Request Request.Answer) ∈
            t' ++ t₁ := List.mem_append_left _ (hu.subset (by simp))
        cases answer with
        | error e => cases (Dialogue.leads_pure_iff.mp hjudged).2
        | ok code =>
            refine ⟨code, ?_, hmem⟩
            by_contra hfailure
            rw [Except.map, Bool.eq_false_iff.mpr hfailure] at hjudged
            cases (Dialogue.leads_pure_iff.mp hjudged).2

theorem production_not_ready {s : Setting} {ready : Bool} {t : Transcript} {f : Finding}
    (hready : ready = false) (h : (production s ready).Leads t f) :
    t = [] ∧ f = .unmet .nodeReady := by
  subst hready
  exact Dialogue.leads_pure_iff.mp h

end Runtime

namespace Integration

/-- What a gate asked about a node that is not ready, and the first thing that it found missing. -/
inductive GateMisses (path : String) (file : Prerequisite) : Transcript → Prerequisite → Prop
  | file : GateMisses path file [⟨.isFile path, false⟩] file
  | nodeRunning :
      GateMisses path file [⟨.isFile path, true⟩, ⟨.nodeRunning, false⟩] .nodeRunning
  | nodeReady : GateMisses path file [⟨.isFile path, true⟩, ⟨.nodeRunning, true⟩] .nodeReady

theorem gate_not_ready {path : String} {file : Prerequisite} {t : Transcript}
    {missing : Option Prerequisite} (h : (gate path file false).Leads t missing) :
    ∃ p, missing = some p ∧ GateMisses path file t p := by
  obtain ⟨t₁, t₂, isFile, rfl, hfile, h₂⟩ := Dialogue.leads_bind_iff.mp h
  obtain rfl := Dialogue.leads_question_iff.mp hfile
  cases isFile with
  | false =>
      obtain ⟨rfl, rfl⟩ := Dialogue.leads_pure_iff.mp h₂
      exact ⟨file, rfl, .file⟩
  | true =>
      obtain ⟨t₃, t₄, running, rfl, hrunning, h₃⟩ := Dialogue.leads_bind_iff.mp h₂
      obtain rfl := Dialogue.leads_question_iff.mp hrunning
      cases running with
      | false =>
          obtain ⟨rfl, rfl⟩ := Dialogue.leads_pure_iff.mp h₃
          exact ⟨_, rfl, .nodeRunning⟩
      | true =>
          obtain ⟨rfl, rfl⟩ := Dialogue.leads_pure_iff.mp h₃
          exact ⟨_, rfl, .nodeReady⟩

theorem gated_not_ready {α : Type} {path : String} {file : Prerequisite}
    {check : Option Prerequisite → Trial α} {t : Transcript} {a : α} (skipped : Prerequisite → α)
    (hskipped : ∀ p, check (some p) = pure (skipped p))
    (h : (gate path file false >>= check).Leads t a) :
    ∃ p, GateMisses path file t p ∧ a = skipped p := by
  obtain ⟨t₁, t₂, missing, rfl, hgate, h₂⟩ := Dialogue.leads_bind_iff.mp h
  obtain ⟨p, rfl, hmisses⟩ := gate_not_ready hgate
  rw [hskipped] at h₂
  obtain ⟨rfl, rfl⟩ := Dialogue.leads_pure_iff.mp h₂
  refine ⟨p, ?_, rfl⟩
  rw [List.append_nil]
  exact hmisses

theorem deployAll_not_ready {s : Setting} {ready : Bool} {t : Transcript} {f : Finding}
    (hready : ready = false) (h : (deployAll s ready).Leads t f) :
    ∃ p, GateMisses (s.path s.config.deployer.binary) .deployerBinary t p ∧ f = .unmet p := by
  subst hready
  exact gated_not_ready Finding.unmet (fun _ => rfl) h

theorem create_not_ready {s : Setting} {ready : Bool} {t : Transcript} {c : Creation}
    (hready : ready = false) (h : (create s ready).Leads t c) :
    ∃ p, GateMisses (artifact s) .contractArtifact t p ∧ c = .failed (.unmet p) (.unmet p) := by
  subst hready
  exact gated_not_ready (fun p => .failed (.unmet p) (.unmet p)) (fun _ => rfl) h

end Integration

end NodeTrial.Phase

namespace NodeTrial

theorem Checked.of_pure {steps : List (String × Finding)} {fs : List (String × Finding)}
    {t : Transcript} (h : Checked (steps.map fun (name, f) => (name, pure f)) fs t) :
    t = [] ∧ fs = steps := by
  induction steps generalizing fs t with
  | nil =>
      cases h
      exact ⟨rfl, rfl⟩
  | cons step steps ih =>
      cases h with
      | cons first rest =>
          obtain ⟨rfl, rfl⟩ := Dialogue.leads_pure_iff.mp first
          obtain ⟨rfl, rfl⟩ := ih rest
          exact ⟨rfl, rfl⟩

theorem Phase.Integration.steps_failed {s : Setting} {finding later : Finding}
    {fs : List (String × Finding)} {t : Transcript}
    (h : Checked (stepChecks s (.failed finding later)) fs t) :
    t = [] ∧ fs = steps.map fun step => (step.1, later) := by
  apply Checked.of_pure
  rw [List.map_map]
  exact h

end NodeTrial
