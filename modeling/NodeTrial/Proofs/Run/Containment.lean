import NodeTrial.Proofs.Dialogue.Determined
import NodeTrial.Proofs.Run.Cycle
import NodeTrial.Proofs.Run.Ending

/-!
Failures stay in their phase. Two runs in the same surroundings, with tools that agree only on the
deployer and on the commands that create and call a contract, come to the same records about the node
and about the contracts on it, and do the same with the node and the network.
-/

namespace NodeTrial

open Dialogue

/-- What surrounds a run apart from its tools. Files are looked for without a trace; everything else
may change the state. -/
structure Scene (σ : Type) where
  isFile : String → σ → Bool
  respond : (q : Request) → σ → q.Answer × σ

namespace Scene

variable {σ : Type}

/-- The answers of a scene with tools, each of which answers by its invocation and changes nothing. -/
def answer (c : Scene σ) (tools : Invocation → ToolOutput) : (q : Request) → σ → q.Answer × σ
  | .tool i, w => (tools i, w)
  | .isFile path, w => (c.isFile path w, w)
  | .tell _, w => ((), w)
  | q, w => c.respond q w

abbrev world (c : Scene σ) (tools : Invocation → ToolOutput) : World Request Request.Answer σ :=
  functional (c.answer tools)

variable {c : Scene σ} {tools tools₁ tools₂ : Invocation → ToolOutput} {w m m₁ m₂ : σ}

theorem follows_quiet {t : Transcript} :
    Follows (c.world tools) w (quiet t) m ↔ Follows (c.world tools) w t m := by
  induction t generalizing w with
  | nil => exact Iff.rfl
  | cons e t ih =>
      obtain ⟨q, a⟩ := e
      cases q with
      | tell line =>
          have htell : quiet (⟨.tell line, a⟩ :: t) = quiet t := rfl
          rw [htell, ih]
          constructor
          · intro h
            exact ⟨w, rfl, h⟩
          · rintro ⟨w', hw, h⟩
            obtain rfl : w = w' := congrArg Prod.snd hw
            exact h
      | _ => exact exists_congr fun w' => and_congr Iff.rfl ih

theorem eq_of_looks {t : Transcript} (ht : ∀ e ∈ t, e.1.Looks)
    (h : Follows (c.world tools) w t m) : m = w := by
  refine Follows.preserves (fun w' => w' = w) (fun q w₁ a w₂ hq hw heq => ?_) ht rfl h
  cases q with
  | tool i => exact (congrArg Prod.snd hw).symm.trans heq
  | isFile path => exact (congrArg Prod.snd hw).symm.trans heq
  | tell line => exact (congrArg Prod.snd hw).symm.trans heq
  | _ => exact hq.elim

end Scene

def Request.isOutward : Request → Bool
  | .status _ => true
  | .call .. => true
  | .startNode _ => true
  | .nodeRunning => true
  | .stopNode => true
  | _ => false

/-- The part of a transcript that concerns the node and the network. -/
def outward (t : Transcript) : Transcript := t.filter fun e => e.1.isOutward

theorem outward_append (t u : Transcript) : outward (t ++ u) = outward t ++ outward u :=
  List.filter_append ..

theorem outward_quiet (t : Transcript) : outward (quiet t) = outward t := by
  rw [outward, quiet, List.filter_filter, outward]
  congr 1
  funext e
  obtain ⟨q, a⟩ := e
  cases q <;> rfl

theorem outward_of_offline {t : Transcript} (h : ∀ e ∈ t, e.1.Offline) : outward t = [] := by
  rw [outward, List.filter_eq_nil_iff]
  intro e he
  have hoffline := h e he
  obtain ⟨q, a⟩ := e
  cases q with
  | status url => exact hoffline.elim
  | call url method params => exact hoffline.elim
  | startNode l => exact hoffline.elim
  | nodeRunning => exact hoffline.elim
  | stopNode => exact hoffline.elim
  | _ => exact Bool.false_ne_true

theorem Run.outward_conclusion {s : Setting} {st : Standing} {t : Transcript}
    {r : Except Report.StoreError RunResult} (h : (conclusion s st).Leads t r) :
    outward t = [⟨.stopNode, ()⟩] := by
  obtain ⟨told, u, rfl, htold, hreport⟩ := conclusion_leads h
  have hafter : outward u = [] := outward_of_offline ((report_asks s st.ledger).of_leads hreport)
  rw [outward_append, ← outward_quiet told, htold]
  exact congrArg (⟨Request.stopNode, ()⟩ :: ·) hafter

/-- A request that both runs answer alike in the same state. -/
def Request.Shared (s : Setting) : Request → Prop
  | .tool i => s.Decides i
  | _ => True

theorem Request.Watches.shared {s : Setting} {q : Request} (h : q.Watches) : q.Shared s := by
  cases q with
  | tool i => exact h.elim
  | _ => trivial

theorem Request.Consults.shared {s : Setting} {q : Request} (h : q.Consults s) : q.Shared s := by
  cases q with
  | tool i => exact h
  | _ => trivial

section

variable {σ : Type} {s : Setting} {c : Scene σ} {tools₁ tools₂ : Invocation → ToolOutput}
  {w m₁ m₂ : σ} (hagree : ∀ i, s.Decides i → tools₁ i = tools₂ i)

include hagree

theorem Scene.answer_eq {q : Request} (h : q.Shared s) : c.answer tools₁ q = c.answer tools₂ q := by
  cases q with
  | tool i => exact funext fun w => congrArg (·, w) (hagree i h)
  | _ => rfl

theorem Scene.determined {α : Type} {d : Trial α} {t u : Transcript} {a b : α}
    (hd : d.Asks (Request.Shared s)) (h₁ : d.Leads t a) (hw₁ : Follows (c.world tools₁) w t m₁)
    (h₂ : d.Leads u b) (hw₂ : Follows (c.world tools₂) w u m₂) : u = t ∧ b = a ∧ m₂ = m₁ :=
  hd.determined (fun _ hq => answer_eq hagree hq) h₁ hw₁ h₂ hw₂

theorem Checked.determined {checks : List (String × Trial Finding)}
    {fs gs : List (String × Finding)} {t u : Transcript}
    (hd : ∀ check ∈ checks, check.2.Asks (Request.Shared s)) (h₁ : Checked checks fs t)
    (hw₁ : Follows (c.world tools₁) w t m₁) (h₂ : Checked checks gs u)
    (hw₂ : Follows (c.world tools₂) w u m₂) : u = t ∧ gs = fs ∧ m₂ = m₁ := by
  induction h₁ generalizing w gs u with
  | nil =>
      cases h₂
      exact ⟨rfl, rfl, hw₂.trans hw₁.symm⟩
  | cons first₁ rest₁ ih =>
      cases h₂ with
      | cons first₂ rest₂ =>
          obtain ⟨hfirst, hrest⟩ := List.forall_mem_cons.mp hd
          obtain ⟨n₁, hn₁, hw₁⟩ := follows_append.mp hw₁
          obtain ⟨n₂, hn₂, hw₂⟩ := follows_append.mp hw₂
          obtain ⟨rfl, rfl, rfl⟩ := Scene.determined hagree hfirst first₁ hn₁ first₂ hn₂
          obtain ⟨rfl, rfl, rfl⟩ := ih hrest hw₁ rest₂ hw₂
          exact ⟨rfl, rfl, rfl⟩

end

namespace Phase

section

variable {σ : Type} {s : Setting} {c : Scene σ} {tools₁ tools₂ : Invocation → ToolOutput}
  {w m₁ m₂ : σ} (hagree : ∀ i, s.Decides i → tools₁ i = tools₂ i)

include hagree

theorem Runtime.Course.determined {ready : Bool} {c₁ c₂ : Runtime.Course s ready}
    (hw₁ : Follows (c.world tools₁) w c₁.transcript m₁)
    (hw₂ : Follows (c.world tools₂) w c₂.transcript m₂) :
    c₂.start = c₁.start ∧ c₂.health = c₁.health ∧ c₂.production = c₁.production ∧
      c₂.transcript = c₁.transcript ∧ m₂ = m₁ := by
  obtain ⟨start₁, health₁, production₁, t₁, u₁, v₁, hstart₁, hhealth₁, hproduction₁⟩ := c₁
  obtain ⟨start₂, health₂, production₂, t₂, u₂, v₂, hstart₂, hhealth₂, hproduction₂⟩ := c₂
  simp only [Runtime.Course.transcript, follows_append] at hw₁ hw₂
  obtain ⟨k₁, ⟨j₁, ⟨i₁, hi₁, hj₁⟩, hk₁⟩, hm₁⟩ := hw₁
  obtain ⟨k₂, ⟨j₂, ⟨i₂, hi₂, hj₂⟩, hk₂⟩, hm₂⟩ := hw₂
  have hshared (q : Request) (hq : q.Watches) : q.Shared s := hq.shared
  obtain ⟨rfl, rfl, rfl⟩ := Scene.determined hagree
    ((Runtime.start_asks s).mono hshared) hstart₁ hi₁ hstart₂ hi₂
  obtain ⟨rfl, rfl, rfl⟩ := Scene.determined hagree
    ((Runtime.health_asks s).mono hshared) hhealth₁ hj₁ hhealth₂ hj₂
  obtain rfl : k₂ = k₁ := Follows.determined
    (fun e he => Scene.answer_eq hagree (hshared _ (Runtime.reaction_asks _ e he))) hk₁ hk₂
  obtain ⟨rfl, rfl, rfl⟩ := Scene.determined hagree
    (Runtime.production_asks (fun _ => trivial) (fun _ _ _ => trivial) s _) hproduction₁ hm₁
    hproduction₂ hm₂
  exact ⟨rfl, rfl, rfl, rfl, rfl⟩

theorem Integration.Course.determined {ready₁ ready₂ : Bool} {c₁ : Integration.Course s ready₁}
    {c₂ : Integration.Course s ready₂} (hready : ready₂ = ready₁)
    (hw₁ : Follows (c.world tools₁) w c₁.transcript m₁)
    (hw₂ : Follows (c.world tools₂) w c₂.transcript m₂) :
    c₂.deployment = c₁.deployment ∧ c₂.creation = c₁.creation ∧ c₂.steps = c₁.steps ∧
      outward c₂.transcript = outward c₁.transcript := by
  subst hready
  obtain ⟨deployer₁, deployment₁, creation₁, steps₁, b₁, t₁, u₁, v₁, hbuild₁, hdeploy₁, hcreate₁,
    hsteps₁⟩ := c₁
  obtain ⟨deployer₂, deployment₂, creation₂, steps₂, b₂, t₂, u₂, v₂, hbuild₂, hdeploy₂, hcreate₂,
    hsteps₂⟩ := c₂
  simp only [Integration.Course.transcript, follows_append] at hw₁ hw₂
  obtain ⟨k₁, ⟨j₁, ⟨i₁, hi₁, hj₁⟩, hk₁⟩, hm₁⟩ := hw₁
  obtain ⟨k₂, ⟨j₂, ⟨i₂, hi₂, hj₂⟩, hk₂⟩, hm₂⟩ := hw₂
  have hlooks₁ := (Build.package_asks s _).of_leads hbuild₁
  have hlooks₂ := (Build.package_asks s _).of_leads hbuild₂
  obtain rfl := Scene.eq_of_looks hlooks₁ hi₁
  obtain rfl := Scene.eq_of_looks hlooks₂ hi₂
  have hshared (q : Request) (hq : q.Consults s) : q.Shared s := hq.shared
  obtain ⟨rfl, rfl, rfl⟩ := Scene.determined hagree
    ((Integration.deployAll_asks s _).mono hshared) hdeploy₁ hj₁ hdeploy₂ hj₂
  obtain ⟨rfl, rfl, rfl⟩ := Scene.determined hagree
    ((Integration.create_asks s _).mono hshared) hcreate₁ hk₁ hcreate₂ hk₂
  obtain ⟨rfl, rfl, rfl⟩ := Checked.determined hagree
    (fun step hstep => (Integration.stepChecks_asks s _ step hstep).mono hshared) hsteps₁ hm₁
    hsteps₂ hm₂
  refine ⟨rfl, rfl, rfl, ?_⟩
  simp only [Integration.Course.transcript, outward_append,
    outward_of_offline fun e he => (hlooks₁ e he).offline,
    outward_of_offline fun e he => (hlooks₂ e he).offline]

end

end Phase

namespace Run

theorem Course.determined {σ : Type} {s : Setting} {c : Scene σ}
    {tools₁ tools₂ : Invocation → ToolOutput} {w m₁ m₂ : σ}
    (hagree : ∀ i, s.Decides i → tools₁ i = tools₂ i) {c₁ c₂ : Course s false}
    (hw₁ : Follows (c.world tools₁) w c₁.transcript m₁)
    (hw₂ : Follows (c.world tools₂) w c₂.transcript m₂) :
    c₂.runtime.start = c₁.runtime.start ∧ c₂.runtime.health = c₁.runtime.health ∧
      c₂.runtime.production = c₁.runtime.production ∧
      c₂.integration.deployment = c₁.integration.deployment ∧ c₂.cycle = c₁.cycle ∧
      outward c₂.transcript = outward c₁.transcript := by
  obtain ⟨p₁, a₁, hp₁, hlooks₁⟩ := Phase.Environment.transcript_eq c₁.environment_checked
  obtain ⟨p₂, a₂, hp₂, hlooks₂⟩ := Phase.Environment.transcript_eq c₂.environment_checked
  simp only [Course.transcript, hp₁, hp₂, follows_append] at hw₁ hw₂
  obtain ⟨k₁, ⟨j₁, ⟨i₁, ⟨h₁, hh₁, hi₁⟩, hj₁⟩, hk₁⟩, hm₁⟩ := hw₁
  obtain ⟨k₂, ⟨j₂, ⟨i₂, ⟨h₂, hh₂, hi₂⟩, hj₂⟩, hk₂⟩, hm₂⟩ := hw₂
  obtain rfl := Scene.eq_of_looks hlooks₁ hh₁
  obtain rfl := Scene.eq_of_looks hlooks₂ hh₂
  have hstatus : (question (.status s.config.environment.dependencyUrl) : Trial _).Asks
      (Request.Shared s) := .question trivial
  obtain ⟨-, rfl, rfl⟩ := Scene.determined hagree hstatus (leads_question_iff.mpr rfl) hi₁
    (leads_question_iff.mpr rfl) hi₂
  obtain rfl := Scene.eq_of_looks c₁.building_looks (follows_append.mpr hj₁)
  obtain rfl := Scene.eq_of_looks c₂.building_looks (follows_append.mpr hj₂)
  obtain ⟨hstart, hhealth, hproduction, hruntime, rfl⟩ :=
    Phase.Runtime.Course.determined hagree hk₁ hk₂
  obtain ⟨hdeployment, hcreation, hsteps, hintegration⟩ :=
    Phase.Integration.Course.determined hagree (by rw [hhealth]) hm₁ hm₂
  refine ⟨hstart, hhealth, hproduction, hdeployment, ?_, ?_⟩
  · rw [Course.cycle, hcreation, hsteps, Course.cycle]
  · simp only [Course.transcript, outward_append, hruntime, hintegration, hp₁, hp₂,
      outward_of_offline fun e he => (hlooks₁ e he).offline,
      outward_of_offline fun e he => (hlooks₂ e he).offline,
      outward_of_offline c₁.building_offline, outward_of_offline c₂.building_offline]

theorem Course.length_preparation {s : Setting} {ready₁ ready₂ : Bool} (c₁ : Course s ready₁)
    (c₂ : Course s ready₂) : c₂.preparation.length = c₁.preparation.length := by
  rw [← List.length_map (·.1), c₂.map_fst_preparation, ← c₁.map_fst_preparation, List.length_map]

/-- The records of a run are those of the ledger with which its checks ended. They are handed over
if the run comes to a result. -/
def Enters (s : Setting) (t : Transcript) (r : Except Report.StoreError RunResult)
    (records : List Record) : Prop :=
  (∃ u v st, t = u ++ v ∧ (Run.checks s .initial).Leads u st ∧ records = st.ledger.records) ∧
    ∀ result, r = .ok result → result.records = records

/-- Whatever the tools that prepare a run and build its programs and contracts do, the checks of the
node, the deployment and the cycle of the contract are recorded alike, and the node and the network
are used alike. -/
theorem failures_contained {σ : Type} {s : Setting} {c : Scene σ}
    {tools₁ tools₂ : Invocation → ToolOutput} {w w₁ w₂ : σ} {t₁ t₂ : Transcript}
    {r₁ r₂ : Except Report.StoreError RunResult}
    (hagree : ∀ i, s.Decides i → tools₁ i = tools₂ i)
    (h₁ : (Run.all s).Leads t₁ r₁) (hw₁ : Follows (c.world tools₁) w t₁ w₁)
    (h₂ : (Run.all s).Leads t₂ r₂) (hw₂ : Follows (c.world tools₂) w t₂ w₂) :
    ∃ records₁ records₂, Enters s t₁ r₁ records₁ ∧ Enters s t₂ r₂ records₂ ∧
      (∃ n₁ : NodeRecords s records₁, ∃ n₂ : NodeRecords s records₂,
        n₂.start = n₁.start ∧ n₂.health = n₁.health ∧ n₂.production = n₁.production ∧
        n₂.deployment = n₁.deployment ∧ n₂.cycle = n₁.cycle) ∧
      outward t₂ = outward t₁ := by
  obtain ⟨u₁, v₁, st₁, rfl, hchecks₁, hend₁⟩ := all_leads h₁
  obtain ⟨u₂, v₂, st₂, rfl, hchecks₂, hend₂⟩ := all_leads h₂
  obtain ⟨c₁, hquiet₁, hrecords₁⟩ := course_of_checks hchecks₁
  obtain ⟨c₂, hquiet₂, hrecords₂⟩ := course_of_checks hchecks₂
  obtain ⟨m₁, hm₁, -⟩ := follows_append.mp hw₁
  obtain ⟨m₂, hm₂, -⟩ := follows_append.mp hw₂
  rw [← Scene.follows_quiet, hquiet₁, Scene.follows_quiet] at hm₁
  rw [← Scene.follows_quiet, hquiet₂, Scene.follows_quiet] at hm₂
  obtain ⟨hstart, hhealth, hproduction, hdeployment, hcycle, houtward⟩ :=
    Course.determined hagree hm₁ hm₂
  have hplace : c₂.preparation.length = c₁.preparation.length := c₁.length_preparation c₂
  refine ⟨st₁.ledger.records, st₂.ledger.records,
    ⟨⟨u₁, v₁, st₁, rfl, hchecks₁, rfl⟩, ?_⟩, ⟨⟨u₂, v₂, st₂, rfl, hchecks₂, rfl⟩, ?_⟩,
    ⟨c₁.nodeRecords hrecords₁, c₂.nodeRecords hrecords₂, ?_⟩, ?_⟩
  · rintro result rfl
    exact (records_of_conclusion hend₁).1
  · rintro result rfl
    exact (records_of_conclusion hend₂).1
  · simp only [Course.nodeRecords, hstart, hhealth, hproduction, hdeployment, hcycle, hplace,
      and_self]
  · rw [outward_append, outward_append, outward_conclusion hend₁, outward_conclusion hend₂,
      ← outward_quiet u₁, ← outward_quiet u₂, hquiet₁, hquiet₂, outward_quiet, outward_quiet,
      houtward]

/-- Surroundings in which everything was built and the node runs. -/
def bright : Scene Unit := ⟨fun _ _ => true, fun q w => (Phase.Integration.thriving q, w)⟩

instance (s : Setting) (i : Invocation) : Decidable (s.Decides i) :=
  inferInstanceAs (Decidable (_ ∨ _ ∧ (_ ∨ _)))

/-- Tools that only do what decides about the contracts on the node. -/
def bareTools (s : Setting) (i : Invocation) : ToolOutput :=
  if s.Decides i then Phase.Integration.obliging else .notFound i.program

theorem failures_contained_bright :
    ∃ t₁ r₁ t₂ r₂,
      (Run.all sharedAddress).Leads t₁ r₁ ∧
      Follows (bright.world fun _ => Phase.Integration.obliging) () t₁ () ∧
      (Run.all sharedAddress).Leads t₂ r₂ ∧
      Follows (bright.world (bareTools sharedAddress)) () t₂ () ∧
      ∃ records₁ records₂, Enters sharedAddress t₁ r₁ records₁ ∧
        Enters sharedAddress t₂ r₂ records₂ ∧
        (∃ n₁ : NodeRecords sharedAddress records₁, ∃ n₂ : NodeRecords sharedAddress records₂,
          n₂.start = n₁.start ∧ n₂.health = n₁.health ∧ n₂.production = n₁.production ∧
          n₂.deployment = n₁.deployment ∧ n₂.cycle = n₁.cycle) ∧
        outward t₂ = outward t₁ := by
  obtain ⟨t₁, r₁, _, h₁, hw₁⟩ := exists_follows_functional
    (bright.answer fun _ => Phase.Integration.obliging) (Run.all sharedAddress) ()
  obtain ⟨t₂, r₂, _, h₂, hw₂⟩ := exists_follows_functional
    (bright.answer (bareTools sharedAddress)) (Run.all sharedAddress) ()
  refine ⟨t₁, r₁, t₂, r₂, h₁, hw₁, h₂, hw₂, failures_contained (fun i hi => ?_) h₁ hw₁ h₂ hw₂⟩
  rw [bareTools, if_pos hi]

end Run

end NodeTrial
