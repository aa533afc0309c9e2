import NodeTrial.Proofs.Run.Phases

namespace NodeTrial

def environmentNames : List String :=
  ["Rust toolchain available", "WASM target installed", "cargo-contract installed",
    "Network connectivity"]

def buildNames : List String :=
  ["Build node binary", "Build runtime", "Runtime WASM artifact exists", "Node binary version"]

def contractNames : List String → List String
  | [] => []
  | contract :: contracts =>
    ("Compile contract: " ++ contract) :: ("Contract artifacts: " ++ contract) ::
      contractNames contracts

def runtimeNames : List String := ["Start node", "Node health check", "Block production"]

def cycleNames (contract : String) : List String :=
  ["CRUD: deploy " ++ contract, "CRUD: grant entitlement", "CRUD: get entitlement",
    "CRUD: has entitlement", "CRUD: revoke entitlement"]

def integrationNames (contract : String) : List String :=
  "Build deployer" :: "Deploy all contracts" :: cycleNames contract

/-- The names of all checks that are declared by the listed contracts and the contract of the
cycle. -/
def declaredNames (contracts : List String) (cycleContract : String) : List String :=
  environmentNames ++ buildNames ++ contractNames contracts ++ runtimeNames ++
    integrationNames cycleContract

theorem length_contractNames (contracts : List String) :
    (contractNames contracts).length = 2 * contracts.length := by
  induction contracts with
  | nil => rfl
  | cons contract contracts ih =>
      rw [contractNames, List.length_cons, List.length_cons, ih, List.length_cons]
      omega

theorem length_declaredNames (contracts : List String) (cycleContract : String) :
    (declaredNames contracts cycleContract).length = 18 + 2 * contracts.length := by
  simp only [declaredNames, List.length_append, length_contractNames, environmentNames, buildNames,
    runtimeNames, integrationNames, cycleNames, List.length_cons, List.length_nil]
  omega

theorem Phase.Build.ContractsChecked.map_fst {s : Setting} {contracts : List String}
    {fs : List (String × Finding)} {t : Transcript} (h : ContractsChecked s contracts fs t) :
    fs.map (·.1) = contractNames contracts := by
  induction h with
  | nil => rfl
  | cons compiling looking rest ih => rw [List.map_cons, List.map_cons, ih, contractNames]

theorem Phase.Integration.map_fst_stepChecks (s : Setting) (c : Creation) :
    (stepChecks s c).map (·.1) = steps.map (·.1) := by
  cases c with
  | «at» address => rfl
  | failed finding later => rfl

namespace Run.Course

variable {s : Setting} {ready : Bool}

theorem map_fst_preparation (c : Course s ready) :
    c.preparation.map (·.1) =
      environmentNames ++ (buildNames ++ contractNames s.config.contracts.names) := by
  rw [preparation, List.map_append, List.map_append, c.environment_checked.map_fst,
    c.nodes_checked.map_fst, c.contracts_checked.map_fst]
  rfl

theorem map_fst_integration (c : Phase.Integration.Course s ready) :
    c.findings.map (·.1) = integrationNames s.config.cycle.contract := by
  rw [Phase.Integration.Course.findings, List.map_cons, List.map_cons, List.map_cons,
    c.steps_checked.map_fst, Phase.Integration.map_fst_stepChecks]
  rfl

theorem map_fst_findings (c : Course s ready) :
    c.findings.map (·.1) =
      declaredNames s.config.contracts.names s.config.cycle.contract := by
  rw [findings, List.map_append, List.map_append, c.map_fst_preparation, map_fst_integration,
    declaredNames, List.append_assoc environmentNames]
  rfl

end Run.Course

theorem Run.records_of_checks {s : Setting} {st : Standing} {t : Transcript}
    (h : (Run.checks s .initial).Leads t st) :
    st.ledger.records.map (·.name) =
        declaredNames s.config.contracts.names s.config.cycle.contract ∧
      st.ledger.records.map (·.index) = List.range' 1 (18 + 2 * s.config.contracts.names.length) := by
  obtain ⟨c, -, hrecords⟩ := Run.course_of_checks h
  have hlength : c.findings.length = 18 + 2 * s.config.contracts.names.length := by
    rw [← length_declaredNames _ s.config.cycle.contract, ← c.map_fst_findings, List.length_map]
  rw [hrecords, Ledger.map_name_recordsFrom, Ledger.map_index_recordsFrom, c.map_fst_findings,
    hlength]
  exact ⟨rfl, rfl⟩

/-- Whatever answers a run gets, its checks are recorded under exactly the declared names, each once
and in their order, and numbered from one on. -/
theorem Run.checks_record_declared {σ : Type} (s : Setting)
    (handle : (q : Request) → StateM σ q.Answer) (w : σ) :
    let l := (((Run.checks s .initial).run handle).run w).1.ledger
    l.records.length = 18 + 2 * s.config.contracts.names.length ∧
      l.records.map (·.name) =
        declaredNames s.config.contracts.names s.config.cycle.contract ∧
      l.records.map (·.index) = List.range' 1 (18 + 2 * s.config.contracts.names.length) := by
  intro l
  obtain ⟨t, h⟩ := Dialogue.exists_leads_run handle (Run.checks s .initial) w
  obtain ⟨hnames, hindices⟩ := Run.records_of_checks h
  refine ⟨?_, hnames, hindices⟩
  rw [← length_declaredNames _ s.config.cycle.contract, ← hnames, List.length_map]

end NodeTrial
