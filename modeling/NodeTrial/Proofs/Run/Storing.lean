import NodeTrial.Proofs.Run.Ending

namespace NodeTrial

open Dialogue

/-- Whether a request changes files. -/
def Request.stores : Request → Bool
  | .createDirectories _ => true
  | .writeFile .. => true
  | .moveFile .. => true
  | _ => false

theorem Request.not_stores {P : Request → Prop} {q : Request} (h : P q)
    (hcreate : ∀ path, ¬ P (.createDirectories path)) (hwrite : ∀ path text, ¬ P (.writeFile path text))
    (hmove : ∀ source target, ¬ P (.moveFile source target)) : q.stores = false := by
  cases q with
  | createDirectories path => exact absurd h (hcreate path)
  | writeFile path text => exact absurd h (hwrite path text)
  | moveFile source target => exact absurd h (hmove source target)
  | _ => rfl

theorem Request.Looks.stores {q : Request} (h : q.Looks) : q.stores = false :=
  not_stores h (fun _ => id) (fun _ _ => id) fun _ _ => id

theorem Request.Watches.stores {q : Request} (h : q.Watches) : q.stores = false :=
  not_stores h (fun _ => id) (fun _ _ => id) fun _ _ => id

theorem Request.Consults.stores {s : Setting} {q : Request} (h : q.Consults s) :
    q.stores = false :=
  not_stores h (fun _ => id) (fun _ _ => id) fun _ _ => id

theorem Request.Surveys.stores {q : Request} (h : q.Surveys) : q.stores = false :=
  not_stores h (fun _ => id) (fun _ _ => id) fun _ _ => id

theorem not_stores_of_quiet {t : Transcript} (h : ∀ e ∈ quiet t, e.1.stores = false) :
    ∀ e ∈ t, e.1.stores = false := by
  intro e he
  cases htell : e.1.isTell with
  | true =>
      obtain ⟨q, a⟩ := e
      cases q with
      | tell line => rfl
      | _ => cases htell
  | false => exact h e (mem_quiet_iff.mpr ⟨he, htell⟩)

namespace Run

theorem Course.not_stores {s : Setting} {ready : Bool} (c : Course s ready) :
    ∀ e ∈ c.transcript, e.1.stores = false := by
  obtain ⟨t, a, ht, hlooks⟩ := Phase.Environment.transcript_eq c.environment_checked
  have hconsults (q : Request) (hq : q.Consults s) : q.stores = false := hq.stores
  simp only [transcript, Phase.Integration.Course.transcript, ht, List.forall_mem_append]
  refine ⟨⟨⟨⟨fun e he => (hlooks e he).stores, List.forall_mem_singleton.mpr rfl⟩, ?_⟩, ?_⟩,
    ⟨⟨?_, ?_⟩, ?_⟩, ?_⟩
  · exact List.forall_mem_append.mp fun e he => (c.building_looks e he).stores
  · exact fun e he => (c.runtime.asks e he).stores
  · exact fun e he =>
      ((Phase.Build.package_asks s _).of_leads c.integration.deployer_leads e he).stores
  · exact ((Phase.Integration.deployAll_asks s _).mono hconsults).of_leads
      c.integration.deployment_leads
  · exact ((Phase.Integration.create_asks s _).mono hconsults).of_leads
      c.integration.creation_leads
  · exact c.integration.steps_checked.asks fun step hstep =>
      (Phase.Integration.stepChecks_asks s _ step hstep).mono hconsults

theorem checks_not_stores (s : Setting) (st : Standing) :
    (Run.checks s st).Asks fun q => q.stores = false := by
  refine .of_forall_leads barren fun t st' h => not_stores_of_quiet ?_
  obtain ⟨c, hquiet, -⟩ := checks_leads h
  rw [hquiet]
  exact fun e he => c.not_stores e (mem_quiet_iff.mp he).1

end Run

namespace Report

variable {path text : String} {t : Transcript}

theorem prepare_cases {prepared : Except StoreError Unit} (h : (prepare path).Leads t prepared) :
    t = [] ∧ prepared = .ok () ∨
      ∃ (directory : String) (created : Except FileError Unit),
        t = [⟨.createDirectories directory, created⟩] ∧
          prepared = created.mapError (.createDirectory directory) := by
  unfold prepare at h
  split at h
  · exact .inl (leads_pure_iff.mp h)
  · obtain ⟨t₁, t₂, created, rfl, hcreate, hdone⟩ := leads_bind_iff.mp h
    obtain rfl := leads_question_iff.mp hcreate
    obtain ⟨rfl, rfl⟩ := leads_pure_iff.mp hdone
    exact .inr ⟨_, created, rfl, rfl⟩

/-- How far the storing of a report gets: the directory cannot be created, or the temporary file
cannot be written, or it is moved with success or without. -/
theorem store_cases {stored : Except StoreError Unit} (h : (store path text).Leads t stored) :
    (∃ directory e, t = [⟨.createDirectories directory, .error e⟩] ∧
      stored = .error (.createDirectory directory e)) ∨
      ∃ front, (prepare path).Leads front (.ok ()) ∧
        ((∃ e, t = front ++ [⟨.writeFile (temporaryPath path) text, .error e⟩] ∧
          stored = .error (.writeTemporary (temporaryPath path) e)) ∨
          ∃ moved : Except FileError Unit,
            t = front ++ [⟨.writeFile (temporaryPath path) text, .ok ()⟩,
              ⟨.moveFile (temporaryPath path) path, moved⟩] ∧
            stored = moved.mapError (.replace path)) := by
  obtain ⟨front, t₁, prepared, rfl, hprepare, h₁⟩ := leads_bind_iff.mp h
  cases prepared with
  | error fault =>
      obtain ⟨rfl, rfl⟩ := leads_pure_iff.mp h₁
      rcases prepare_cases hprepare with ⟨-, hok⟩ | ⟨directory, created, rfl, hfault⟩
      · cases hok
      · cases created with
        | ok _ => cases hfault
        | error e => exact .inl ⟨directory, e, rfl, hfault⟩
  | ok _ =>
      refine .inr ⟨front, hprepare, ?_⟩
      obtain ⟨t₂, t₃, written, rfl, hwrite, h₂⟩ := leads_bind_iff.mp h₁
      obtain rfl := leads_question_iff.mp hwrite
      cases written with
      | error e =>
          obtain ⟨rfl, rfl⟩ := leads_pure_iff.mp h₂
          exact .inl ⟨e, rfl, rfl⟩
      | ok _ =>
          obtain ⟨t₄, t₅, moved, rfl, hmove, h₃⟩ := leads_bind_iff.mp h₂
          obtain rfl := leads_question_iff.mp hmove
          obtain ⟨rfl, rfl⟩ := leads_pure_iff.mp h₃
          exact .inr ⟨moved, rfl, rfl⟩

theorem exists_stores {stored : Except StoreError Unit} (h : (store path text).Leads t stored) :
    ∃ e ∈ t, e.1.stores = true := by
  rcases store_cases h with ⟨directory, e, rfl, -⟩ |
    ⟨front, -, ⟨e, rfl, -⟩ | ⟨moved, rfl, -⟩⟩
  · exact ⟨_, List.mem_singleton_self _, rfl⟩
  · exact ⟨_, List.mem_append_right _ List.mem_cons_self, rfl⟩
  · exact ⟨_, List.mem_append_right _ List.mem_cons_self, rfl⟩

theorem store_ok (h : (store path text).Leads t (.ok ())) :
    ∃ front, t = front ++ [⟨.writeFile (temporaryPath path) text, .ok ()⟩,
      ⟨.moveFile (temporaryPath path) path, .ok ()⟩] := by
  rcases store_cases h with ⟨directory, e, -, hstored⟩ |
    ⟨front, -, ⟨e, -, hstored⟩ | ⟨moved, rfl, hstored⟩⟩
  · cases hstored
  · cases hstored
  · cases moved with
    | error e => cases hstored
    | ok _ => exact ⟨front, rfl⟩

end Report

/-- A run that comes to its end has stored its report, or has failed to. -/
theorem Run.exists_storing {s : Setting} {t : Transcript} {r : Except Report.StoreError RunResult}
    (h : (Run.all s).Leads t r) :
    ∃ path text u stored, (Report.store path text).Leads u stored ∧ u ⊆ t ∧
      (stored = .ok () → ∃ result, r = .ok result) ∧
      ∀ result, r = .ok result → stored = .ok () ∧ result.reportPath = path := by
  obtain ⟨t₁, t₂, st, rfl, -, h⟩ := all_leads h
  obtain ⟨told, u, rfl, -, h⟩ := conclusion_leads h
  obtain ⟨u₁, u₂, facts, rfl, -, h⟩ := leads_bind_iff.mp h
  obtain ⟨u₃, u₄, stored, rfl, hstore, h⟩ := leads_bind_iff.mp h
  refine ⟨_, _, u₃, stored, hstore, fun e he => by simp [he], ?_⟩
  cases stored with
  | error e =>
      obtain ⟨-, rfl⟩ := leads_pure_iff.mp h
      exact ⟨nofun, nofun⟩
  | ok _ =>
      obtain ⟨u₅, u₆, _, rfl, -, h⟩ := leads_bind_iff.mp h
      obtain ⟨-, rfl⟩ := leads_pure_iff.mp h
      refine ⟨fun _ => ⟨_, rfl⟩, fun result hresult => ⟨rfl, ?_⟩⟩
      exact congrArg RunResult.reportPath (Except.ok.inj hresult).symm

end NodeTrial
