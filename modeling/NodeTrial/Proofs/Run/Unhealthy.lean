import NodeTrial.Proofs.Run.Declared
import NodeTrial.Proofs.Run.Traffic

namespace NodeTrial

namespace Run.Course

open Phase

variable {s : Setting}

theorem fetched_probing {ready : Bool} (c : Course s ready) :
    fetched c.probing = [s.config.environment.dependencyUrl] := by
  obtain ⟨t, a, ht, hlooks⟩ := Environment.transcript_eq c.environment_checked
  rw [ht, fetched_append, fetched_of_offline fun e he => (hlooks e he).offline]
  rfl

theorem probing_not_usesNode {ready : Bool} (c : Course s ready) :
    ∀ e ∈ c.probing, ¬ e.1.UsesNode := by
  obtain ⟨t, a, ht, hlooks⟩ := Environment.transcript_eq c.environment_checked
  rw [ht]
  exact List.forall_mem_append.mpr
    ⟨fun e he => (hlooks e he).offline.not_usesNode, List.forall_mem_singleton.mpr id⟩

theorem foldl_nodeAfter_probing {ready up : Bool} (c : Course s ready) :
    c.probing.foldl nodeAfter up = up := by
  obtain ⟨t, a, ht, hlooks⟩ := Environment.transcript_eq c.environment_checked
  rw [ht, List.foldl_append, foldl_nodeAfter_of_offline fun e he => (hlooks e he).offline]
  rfl

theorem building_looks {ready : Bool} (c : Course s ready) :
    ∀ e ∈ c.building ++ c.compiling, e.1.Looks :=
  List.forall_mem_append.mpr
    ⟨c.nodes_checked.asks (Build.nodeChecks_asks s), c.contracts_checked.asks⟩

theorem building_offline {ready : Bool} (c : Course s ready) :
    ∀ e ∈ c.building ++ c.compiling, e.1.Offline :=
  fun e he => (c.building_looks e he).offline

theorem health_of_start {ready : Bool} (c : Course s ready) (hnode : HonestNode c.transcript)
    (hstart : c.runtime.start.outcome ≠ .pass) :
    fetched c.runtime.starting = [] ∧ c.runtime.waiting = [⟨.nodeRunning, false⟩] ∧
      c.runtime.health = .unmet .nodeRunning := by
  have hdown : c.runtime.starting.foldl nodeAfter false = false ∧
      fetched c.runtime.starting = [] := by
    rcases Runtime.start_cases c.runtime.start_leads with ⟨ht, -⟩ | ⟨pid, -, hf⟩ | ⟨e, ht, -⟩
    · rw [ht]
      exact ⟨rfl, rfl⟩
    · rw [hf] at hstart
      exact absurd rfl hstart
    · rw [ht]
      exact ⟨rfl, rfl⟩
  -- Nothing that comes before the wait for health lets the node be running, not even the attempt to
  -- start it, and so it is not reported as running.
  have hwaiting : honestFrom false c.runtime.waiting := by
    simp only [HonestNode, transcript, Runtime.Course.transcript, honestFrom_append] at hnode
    have h := hnode.1.2.1.1.2
    rw [List.foldl_append, c.foldl_nodeAfter_probing,
      foldl_nodeAfter_of_offline c.building_offline, hdown.1] at h
    exact h
  refine ⟨hdown.2, ?_⟩
  rcases Runtime.health_cases c.runtime.health_leads with h | ⟨t, e, ht, -, -⟩
  · exact h
  · rw [ht] at hwaiting
    exact absurd (hwaiting.1 rfl) Bool.false_ne_true

theorem not_ready_of_health {f : Finding} (hhealth : f.outcome ≠ .pass) :
    Runtime.readyAfter false f = false := by
  unfold Runtime.readyAfter
  split
  next h => exact absurd h hhealth
  next => rfl
  next => rfl

/-- The findings of the cycle of a contract, its creation first. -/
def cycle {ready : Bool} (c : Course s ready) : List (String × Finding) :=
  (Integration.creationName s.config.cycle.contract, c.integration.creation.finding) ::
    c.integration.steps

/-- What the checks that need a ready node come to without one: each gate finds something missing,
and whatever is behind it is skipped. -/
structure Gated (s : Setting) (c : Course s false) (p q : Prerequisite) : Prop where
  sampling_eq : c.runtime.sampling = []
  production_eq : c.runtime.production = .unmet .nodeReady
  deploying : Integration.GateMisses (s.path s.config.deployer.binary) .deployerBinary
    c.integration.deploying p
  deployment_eq : c.integration.deployment = .unmet p
  creating : Integration.GateMisses (Integration.artifact s) .contractArtifact
    c.integration.creating q
  calling_eq : c.integration.calling = []
  cycle_eq : ∀ f ∈ c.cycle, f.2 = .unmet q

theorem gated_of_health (c : Course s false) (hhealth : c.runtime.health.outcome ≠ .pass) :
    ∃ p q, c.Gated s p q := by
  have hready := not_ready_of_health hhealth
  have hsteps := c.integration.steps_checked
  obtain ⟨hsampling, hskipped⟩ :=
    Runtime.production_not_ready hready c.runtime.production_leads
  obtain ⟨p, hdeploying, hp⟩ :=
    Integration.deployAll_not_ready hready c.integration.deployment_leads
  obtain ⟨q, hcreating, hq⟩ := Integration.create_not_ready hready c.integration.creation_leads
  rw [hq] at hsteps
  obtain ⟨hcalling, hskips⟩ := Integration.steps_failed hsteps
  refine ⟨p, q, hsampling, hskipped, hdeploying, hp, hcreating, hcalling, ?_⟩
  rw [cycle, hq, hskips]
  refine List.forall_mem_cons.mpr ⟨rfl, List.forall_mem_map.mpr ?_⟩
  exact fun step _ => rfl

theorem Gated.quiet_transcript {c : Course s false} {p q : Prerequisite} (h : c.Gated s p q) :
    quiet c.transcript = quiet (c.probing ++ (c.building ++ c.compiling) ++ c.runtime.transcript ++
      c.integration.building) ++ c.integration.deploying ++ c.integration.creating := by
  have hgates : quiet (c.integration.deploying ++ c.integration.creating) =
      c.integration.deploying ++ c.integration.creating := by
    rw [quiet_append, h.deploying.quiet_eq, h.creating.quiet_eq]
  rw [List.append_assoc, ← hgates, ← quiet_append, transcript, Integration.Course.transcript,
    h.calling_eq]
  simp only [List.append_assoc, List.append_nil]

theorem not_usesNode_of_health (c : Course s false)
    (hhealth : c.runtime.health.outcome ≠ .pass) : ∀ e ∈ c.transcript, ¬ e.1.UsesNode := by
  obtain ⟨p, q, hgated⟩ := c.gated_of_health hhealth
  have hstarting : ∀ e ∈ c.runtime.starting, ¬ e.1.UsesNode := by
    rcases Runtime.start_cases c.runtime.start_leads with ⟨ht, -⟩ | ⟨pid, ht, -⟩ | ⟨e, ht, -⟩ <;>
      simp [ht, Request.UsesNode]
  have hwaiting : ∀ e ∈ c.runtime.waiting, ¬ e.1.UsesNode := by
    rcases Runtime.health_cases c.runtime.health_leads with ⟨ht, -⟩ | ⟨t, e, ht, hpoll, -⟩
    · simp [ht, Request.UsesNode]
    · rw [ht]
      refine List.forall_mem_cons.mpr ⟨id, fun e he => ?_⟩
      rcases (Runtime.healthPoll_asks s).of_leads hpoll e he with hq | ⟨n, hq⟩ <;>
        simp [hq, Request.UsesNode]
  have hreaction : ∀ e ∈ Runtime.reaction c.runtime.health, ¬ e.1.UsesNode := by
    unfold Runtime.reaction
    split <;> simp [Request.UsesNode]
  have hbuilding : ∀ e ∈ c.integration.building, ¬ e.1.UsesNode := fun e he =>
    ((Build.package_asks s _).of_leads c.integration.deployer_leads e he).offline.not_usesNode
  intro e he
  simp only [transcript, Runtime.Course.transcript, Integration.Course.transcript,
    hgated.sampling_eq, hgated.calling_eq, List.append_nil, List.mem_append] at he
  rcases he with ((he | he) | (he | he) | he) | (he | he) | he
  · exact c.probing_not_usesNode e he
  · exact (c.building_offline e (List.mem_append.mpr he)).not_usesNode
  · exact hstarting e he
  · exact hwaiting e he
  · exact hreaction e he
  · exact hbuilding e he
  · exact hgated.deploying.not_usesNode e he
  · exact hgated.creating.not_usesNode e he

theorem fetched_of_start (c : Course s false) (hnode : HonestNode c.transcript)
    (hstart : c.runtime.start.outcome ≠ .pass) :
    fetched c.transcript = [s.config.environment.dependencyUrl] := by
  obtain ⟨hstarting, hwaiting, hhealth⟩ := c.health_of_start hnode hstart
  obtain ⟨p, q, hgated⟩ := c.gated_of_health (by rw [hhealth]; decide)
  have hbuilding : fetched c.integration.building = [] :=
    fetched_of_offline fun e he =>
      ((Build.package_asks s _).of_leads c.integration.deployer_leads e he).offline
  have hpreparing : fetched c.building ++ fetched c.compiling = [] := by
    rw [← fetched_append, fetched_of_offline c.building_offline]
  simp only [transcript, Runtime.Course.transcript, Integration.Course.transcript, fetched_append,
    c.fetched_probing, hpreparing, hstarting, hwaiting, hhealth, hgated.sampling_eq,
    hgated.calling_eq, hbuilding, hgated.deploying.fetched_eq_nil, hgated.creating.fetched_eq_nil]
  rfl

end Run.Course

end NodeTrial
