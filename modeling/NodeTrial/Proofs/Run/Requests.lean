import NodeTrial.Proofs.Run.Node

namespace NodeTrial

/-- Whether a command works on a running node: the deployer with its arguments, or one that creates
or calls a contract. -/
def Invocation.UsesNode (i : Invocation) : Prop :=
  i.args.head? = some "--url" ∨ i.args.take 2 = ["contract", "instantiate"] ∨
    i.args.take 2 = ["contract", "call"]

/-- A request that concerns neither the network nor the node. -/
def Request.Offline : Request → Prop
  | .tool i => ¬ i.UsesNode
  | .status _ => False
  | .call .. => False
  | .startNode _ => False
  | .stopNode => False
  | .nodeRunning => False
  | _ => True

/-- An offline request that leaves no trace: a tool, a look for a file, or a line that is shown. -/
def Request.Looks : Request → Prop
  | .tool i => ¬ i.UsesNode
  | .isFile _ => True
  | .tell _ => True
  | _ => False

theorem Request.Looks.offline {q : Request} (h : q.Looks) : q.Offline := by
  cases q with
  | tool i => exact h
  | isFile path => trivial
  | tell line => trivial
  | _ => exact h.elim

theorem Invocation.not_usesNode {i : Invocation} (front : List String)
    (hfront : i.args.take 2 = front)
    (h : front.head? ≠ some "--url" ∧ front ≠ ["contract", "instantiate"] ∧
      front ≠ ["contract", "call"]) :
    ¬ i.UsesNode := by
  subst hfront
  obtain ⟨hurl, hinstantiate, hcall⟩ := h
  rintro (h | h | h)
  · rw [List.head?_take, if_neg (by omega)] at hurl
    exact hurl h
  · exact hinstantiate h
  · exact hcall h

theorem Setting.tell_asks (s : Setting) (line : String) : (s.tell line).Asks Request.Looks := by
  unfold Setting.tell
  split
  · exact ⟨trivial, fun _ => trivial⟩
  · trivial

theorem Checked.asks {P : Request → Prop} {checks : List (String × Trial Finding)}
    {fs : List (String × Finding)} {t : Transcript} (h : Checked checks fs t)
    (hchecks : ∀ c ∈ checks, c.2.Asks P) : ∀ e ∈ t, P e.1 := by
  induction h with
  | nil => exact List.forall_mem_nil _
  | cons first rest ih =>
      obtain ⟨hfirst, hrest⟩ := List.forall_mem_cons.mp hchecks
      exact List.forall_mem_append.mpr ⟨hfirst.of_leads first, ih hrest⟩

namespace Phase

namespace Environment

theorem compiler_asks (s : Setting) : (compiler s).Asks Request.Looks :=
  ⟨Invocation.not_usesNode ["--version"] rfl (by decide), fun _ => trivial⟩

theorem target_asks (s : Setting) : (target s).Asks Request.Looks :=
  ⟨Invocation.not_usesNode ["target", "list"] rfl (by decide), fun _ => trivial⟩

theorem contractTool_asks (s : Setting) : (contractTool s).Asks Request.Looks :=
  ⟨Invocation.not_usesNode ["contract", "--version"] rfl (by decide), fun _ => trivial⟩

theorem network_leads {s : Setting} {t : Transcript} {f : Finding} (h : (network s).Leads t f) :
    ∃ a, t = [⟨.status s.config.environment.dependencyUrl, a⟩] := by
  obtain ⟨t₁, t₂, reached, rfl, hreach, hdone⟩ := Dialogue.leads_bind_iff.mp h
  obtain ⟨t₃, t₄, a, rfl, hstatus, hjudge⟩ := Dialogue.leads_bind_iff.mp hreach
  obtain ⟨rfl, -⟩ := Dialogue.leads_pure_iff.mp hdone
  refine ⟨a, ?_⟩
  rw [Dialogue.leads_question_iff.mp hstatus]
  cases a with
  | ok _ => rw [(Dialogue.leads_pure_iff.mp hjudge).1]; rfl
  | error _ => rw [(Dialogue.leads_pure_iff.mp hjudge).1]; rfl

theorem transcript_eq {s : Setting} {fs : List (String × Finding)} {t : Transcript}
    (h : Checked (checks s) fs t) :
    ∃ t' a, t = t' ++ [⟨.status s.config.environment.dependencyUrl, a⟩] ∧
      ∀ e ∈ t', e.1.Looks := by
  cases h with
  | @cons _ _ _ _ _ t₁ _ h₁ h =>
      cases h with
      | @cons _ _ _ _ _ t₂ _ h₂ h =>
          cases h with
          | @cons _ _ _ _ _ t₃ _ h₃ h =>
              cases h with
              | cons h₄ h =>
                  cases h
                  obtain ⟨a, rfl⟩ := network_leads h₄
                  refine ⟨t₁ ++ (t₂ ++ t₃), a, ?_, ?_⟩
                  · simp only [List.append_assoc, List.append_nil]
                  · refine List.forall_mem_append.mpr ⟨(compiler_asks s).of_leads h₁, ?_⟩
                    exact List.forall_mem_append.mpr
                      ⟨(target_asks s).of_leads h₂, (contractTool_asks s).of_leads h₃⟩

end Environment

namespace Build

theorem package_asks (s : Setting) (name : String) : (package s name).Asks Request.Looks :=
  ⟨Invocation.not_usesNode ["build", "--release"] rfl (by decide), fun _ => trivial⟩

theorem nodeVersion_asks (s : Setting) : (nodeVersion s).Asks Request.Looks := by
  refine ⟨trivial, fun isFile => ?_⟩
  cases isFile with
  | false => trivial
  | true => exact ⟨Invocation.not_usesNode ["--version"] rfl (by decide), fun _ => trivial⟩

theorem nodeChecks_asks (s : Setting) : ∀ c ∈ nodeChecks s, c.2.Asks Request.Looks := by
  simp only [nodeChecks, List.forall_mem_cons]
  exact ⟨package_asks s _, package_asks s _, ⟨trivial, fun _ => trivial⟩, nodeVersion_asks s,
    List.forall_mem_nil _⟩

theorem compile_asks (s : Setting) (contract : String) :
    (compile s contract).Asks Request.Looks :=
  ⟨Invocation.not_usesNode ["contract", "build"] rfl (by decide), fun _ => trivial⟩

theorem missing_asks (directory : String) (names : List String) :
    (missing directory names).Asks Request.Looks := by
  induction names with
  | nil => trivial
  | cons name names ih =>
      refine Dialogue.Asks.bind (.question trivial) fun isFile => ?_
      cases isFile with
      | false => exact Dialogue.Asks.bind ih fun _ => trivial
      | true => exact ih

theorem artifacts_asks (s : Setting) (contract : String) (compiled : Bool) :
    (artifacts s contract compiled).Asks Request.Looks := by
  unfold artifacts
  cases compiled with
  | false => trivial
  | true =>
      refine Dialogue.Asks.bind (missing_asks _ _) fun names => ?_
      cases names with
      | nil => trivial
      | cons name names => trivial

theorem ContractsChecked.asks {s : Setting} {contracts : List String}
    {fs : List (String × Finding)} {t : Transcript} (h : ContractsChecked s contracts fs t) :
    ∀ e ∈ t, e.1.Looks := by
  induction h with
  | nil => exact List.forall_mem_nil _
  | cons compiling looking rest ih =>
      refine List.forall_mem_append.mpr ⟨List.forall_mem_append.mpr ⟨?_, ?_⟩, ih⟩
      · exact (compile_asks s _).of_leads compiling
      · exact (artifacts_asks s _ _).of_leads looking

end Build

end Phase

theorem pollFrom_asks {α : Type} {P : Request → Prop} {b : PollBudget} {pause : Nat → Trial Unit}
    {probe : Trial (Option α)} (hpause : ∀ n, (pause n).Asks P) (hprobe : probe.Asks P)
    (left attempt : Nat) : (pollFrom b pause probe left attempt).Asks P := by
  induction left generalizing attempt with
  | zero => trivial
  | succ left ih =>
      refine Dialogue.Asks.bind hprobe fun found => ?_
      cases found with
      | some v => trivial
      | none =>
          dsimp only
          split
          · exact Dialogue.Asks.bind (hpause b.interval) fun _ => ih (attempt + 1)
          · exact ih (attempt + 1)

theorem Phase.Runtime.healthPoll_asks (s : Setting) :
    (healthPoll s).Asks fun q => q = .status s.config.healthUrl ∨ ∃ n, q = .pause n := by
  unfold healthPoll pollUntil
  refine Dialogue.Asks.bind ?_ fun found => ?_
  · refine pollFrom_asks (fun n => .question (.inr ⟨n, rfl⟩)) ?_ _ _
    refine Dialogue.Asks.bind ?_ fun answer => ?_
    · exact Dialogue.Asks.bind (.question (.inl rfl)) fun _ => trivial
    · split <;> trivial
  · obtain ⟨_ | _, attempts⟩ := found <;> trivial

theorem Phase.Runtime.sample_asks {P : Request → Prop} (hpause : ∀ n, P (.pause n))
    (hcall : ∀ url method params, P (.call url method params)) (s : Setting) :
    (sample s).Asks P := by
  refine Dialogue.Asks.bind ?_ fun _ => trivial
  refine pollFrom_asks ?_ ?_ _ _
  · exact fun n => ⟨hpause n, fun _ => trivial⟩
  · refine Dialogue.Asks.bind ⟨hcall _ _ _, fun _ => trivial⟩ fun answer => ?_
    cases answer <;> trivial

theorem Phase.Runtime.production_asks {P : Request → Prop} (hpause : ∀ n, P (.pause n))
    (hcall : ∀ url method params, P (.call url method params)) (s : Setting) (ready : Bool) :
    (production s ready).Asks P := by
  unfold production
  cases ready with
  | false => trivial
  | true =>
      have hsample : (sample s).Asks P := sample_asks hpause hcall s
      refine Dialogue.Asks.bind ?_ fun _ => trivial
      refine Dialogue.Asks.bind hsample fun height => ?_
      cases height with
      | none => trivial
      | some height =>
          dsimp only
          split
          · refine Dialogue.Asks.bind (.question (hpause _)) fun _ => ?_
            exact Dialogue.Asks.bind hsample fun _ => trivial
          · exact Dialogue.Asks.bind hsample fun _ => trivial

/-- A request that the checks of the running node make. -/
def Request.Watches : Request → Prop
  | .status _ => True
  | .call .. => True
  | .startNode _ => True
  | .stopNode => True
  | .nodeRunning => True
  | .isFile _ => True
  | .pause _ => True
  | _ => False

theorem Request.Watches.not_tell {q : Request} (h : q.Watches) : q.isTell = false := by
  cases q with
  | tell line => exact h.elim
  | _ => rfl

theorem Phase.Runtime.start_asks (s : Setting) : (start s).Asks Request.Watches := by
  refine Dialogue.Asks.bind (.question trivial) fun isFile => ?_
  cases isFile with
  | false => trivial
  | true =>
      refine Dialogue.Asks.bind (.question trivial) fun started => ?_
      cases started <;> trivial

theorem Phase.Runtime.health_asks (s : Setting) : (health s).Asks Request.Watches := by
  refine Dialogue.Asks.bind (.question trivial) fun running => ?_
  cases running with
  | false => trivial
  | true =>
      refine Dialogue.Asks.bind ((healthPoll_asks s).mono fun q hq => ?_) fun _ => trivial
      rcases hq with rfl | ⟨n, rfl⟩ <;> trivial

theorem Phase.Runtime.reaction_asks (f : Finding) : ∀ e ∈ reaction f, e.1.Watches := by
  unfold reaction
  split
  · exact List.forall_mem_singleton.mpr trivial
  · exact List.forall_mem_nil _

theorem Phase.Runtime.Course.asks {s : Setting} {ready : Bool} (c : Course s ready) :
    ∀ e ∈ c.transcript, e.1.Watches := by
  have hproduction := production_asks (P := Request.Watches) (fun _ => trivial)
    (fun _ _ _ => trivial) s (readyAfter ready c.health)
  simp only [transcript, List.forall_mem_append]
  exact ⟨⟨⟨(start_asks s).of_leads c.start_leads, (health_asks s).of_leads c.health_leads⟩,
    reaction_asks c.health⟩, hproduction.of_leads c.production_leads⟩

/-- The invocations that the checks of contracts on the node are decided by: the deployer, and the
commands that create and call a contract. -/
def Setting.Decides (s : Setting) (i : Invocation) : Prop :=
  i.program = s.path s.config.deployer.binary ∨
    i.program = "cargo" ∧
      (i.args.take 2 = ["contract", "instantiate"] ∨ i.args.take 2 = ["contract", "call"])

/-- A request that the checks of contracts on the node make. -/
def Request.Consults (s : Setting) : Request → Prop
  | .tool i => s.Decides i
  | .isFile _ => True
  | .nodeRunning => True
  | _ => False

namespace Phase.Integration

theorem gate_asks (s : Setting) (path : String) (file : Prerequisite) (ready : Bool) :
    (gate path file ready).Asks (Request.Consults s) := by
  refine Dialogue.Asks.bind (.question trivial) fun isFile => ?_
  cases isFile with
  | false => trivial
  | true =>
      refine Dialogue.Asks.bind (.question trivial) fun running => ?_
      cases running <;> trivial

theorem deployAll_asks (s : Setting) (ready : Bool) :
    (deployAll s ready).Asks (Request.Consults s) := by
  refine Dialogue.Asks.bind (gate_asks s _ _ _) fun missing => ?_
  cases missing with
  | some p => trivial
  | none => exact Dialogue.Asks.bind (.question (.inl rfl)) fun _ => trivial

theorem create_asks (s : Setting) (ready : Bool) :
    (create s ready).Asks (Request.Consults s) := by
  refine Dialogue.Asks.bind (gate_asks s _ _ _) fun missing => ?_
  cases missing with
  | some p => trivial
  | none => exact Dialogue.Asks.bind (.question (.inr ⟨rfl, .inl rfl⟩)) fun _ => trivial

theorem message_decides (s : Setting) (address name : String) (args : List String)
    (execute : Bool) : s.Decides ((message s address name args execute).inDirectory s.root) :=
  .inr ⟨rfl, .inr rfl⟩

theorem query_asks (s : Setting) (address name : String) (args : List String) (word : String) :
    (query s address name args word).Asks (Request.Consults s) :=
  .bind (.question (message_decides s address name args false)) fun _ => trivial

theorem revoke_asks (s : Setting) (address : String) :
    (revoke s address).Asks (Request.Consults s) := by
  refine Dialogue.Asks.bind (.question (message_decides s address _ _ true)) fun o => ?_
  split
  · trivial
  · exact Dialogue.Asks.bind (.question (message_decides s address _ _ false)) fun _ => trivial

theorem stepChecks_asks (s : Setting) (c : Creation) :
    ∀ step ∈ stepChecks s c, step.2.Asks (Request.Consults s) := by
  cases c with
  | «at» address =>
      simp only [stepChecks, steps, List.map_cons, List.map_nil, List.forall_mem_cons]
      refine ⟨?_, query_asks s address _ _ _, query_asks s address _ _ _, revoke_asks s address,
        List.forall_mem_nil _⟩
      exact .bind (.question (message_decides s address _ _ true)) fun _ => trivial
  | failed finding later => exact List.forall_mem_map.mpr fun step _ => trivial

end Phase.Integration

/-- A request for a fact that a report tells. -/
def Request.Surveys : Request → Prop
  | .tool i => ¬ i.UsesNode
  | .isFile _ => True
  | .time => True
  | .platform => True
  | _ => False

theorem Request.Surveys.offline {q : Request} (h : q.Surveys) : q.Offline := by
  cases q with
  | tool i => exact h
  | isFile path => trivial
  | time => trivial
  | platform => trivial
  | _ => exact h.elim

theorem Report.version_asks {i : Invocation} (h : ¬ i.UsesNode) :
    (version i).Asks Request.Surveys :=
  ⟨h, fun _ => trivial⟩

theorem Report.collect_asks (root : String) (c : Config) :
    (collect root c).Asks Request.Surveys := by
  unfold collect
  refine Dialogue.Asks.bind ?_ fun _ => ?_
  · refine ⟨trivial, fun isFile => ?_⟩
    cases isFile with
    | false => trivial
    | true => exact version_asks (Invocation.not_usesNode ["--version"] rfl (by decide))
  refine Dialogue.Asks.bind (.question trivial) fun _ => ?_
  refine Dialogue.Asks.bind (.question trivial) fun _ => ?_
  refine Dialogue.Asks.bind (version_asks ?_) fun _ => ?_
  · exact Invocation.not_usesNode ["--version"] rfl (by decide)
  refine Dialogue.Asks.bind (version_asks ?_) fun _ => ?_
  · exact Invocation.not_usesNode ["--version"] rfl (by decide)
  refine Dialogue.Asks.bind (version_asks ?_) fun _ => trivial
  exact Invocation.not_usesNode ["contract", "--version"] rfl (by decide)

theorem Report.store_asks {P : Request → Prop} (hcreate : ∀ path, P (.createDirectories path))
    (hwrite : ∀ path text, P (.writeFile path text))
    (hmove : ∀ source target, P (.moveFile source target)) (path text : String) :
    (store path text).Asks P := by
  unfold store prepare
  refine Dialogue.Asks.bind ?_ fun prepared => ?_
  · split
    · trivial
    · exact ⟨hcreate _, fun _ => trivial⟩
  · cases prepared with
    | error e => trivial
    | ok _ =>
        refine ⟨hwrite _ _, fun written => ?_⟩
        cases written with
        | error e => trivial
        | ok _ => exact ⟨hmove _ _, fun _ => trivial⟩

theorem Run.tellAll_asks {P : Request → Prop} (s : Setting) (htell : ∀ line, (s.tell line).Asks P)
    (lines : List String) : (tellAll s lines).Asks P := by
  induction lines with
  | nil => trivial
  | cons line lines ih => exact Dialogue.Asks.bind (htell line) fun _ => ih

theorem Run.report_asks (s : Setting) (l : Ledger) : (report s l).Asks Request.Offline := by
  refine Dialogue.Asks.bind ?_ fun _ => ?_
  · exact (Report.collect_asks _ _).mono fun _ => Request.Surveys.offline
  refine Dialogue.Asks.bind ?_ fun stored => ?_
  · exact Report.store_asks (fun _ => trivial) (fun _ _ => trivial) (fun _ _ => trivial) _ _
  cases stored with
  | error e => trivial
  | ok _ => exact Dialogue.Asks.bind (tellAll_asks s (fun line => (s.tell_asks line).mono fun _ => Request.Looks.offline) _) fun _ => trivial

theorem Run.conclusion_asks (s : Setting) (st : Standing) :
    (conclusion s st).Asks fun q => q = .stopNode ∨ q.Offline := by
  refine Dialogue.Asks.bind ((s.tell_asks _).mono fun _ h => .inr h.offline) fun _ => ?_
  refine Dialogue.Asks.bind ?_ fun st => (report_asks s _).mono fun _ => .inr
  exact Dialogue.Asks.bind (.question (.inl rfl)) fun _ => trivial

end NodeTrial
