import NodeTrial.Proofs.Config.RoundTrip
import NodeTrial.Proofs.Toml.Distinct

namespace NodeTrial

open Toml (Value Once)

namespace Field

/-- What becomes of a field: the value that is given, and the fallback if there is none. -/
def valueOr (fallback : Value) : Field → Value
  | absent => fallback
  | given v => v

theorem string_of_text {fallback s : String} {f : Field} (h : f.text fallback = some s) :
    Value.string s = f.valueOr (.string fallback) := by
  rw [text.eq_def] at h
  split at h
  all_goals cases h
  all_goals rfl

theorem integer_of_number {bound fallback n : Nat} {f : Field}
    (h : f.number bound fallback = some n) : Value.integer n = f.valueOr (.integer fallback) := by
  rw [number.eq_def] at h
  split at h
  next =>
    cases h
    rfl
  next i =>
    split at h
    next hi =>
      cases h
      exact congrArg Value.integer (Int.toNat_of_nonneg hi.1)
    next => cases h
  next => cases h

theorem array_of_texts {fallback values : List String} {f : Field}
    (h : f.texts fallback = some values) :
    Value.array (values.map .string) = f.valueOr (.array (fallback.map .string)) := by
  rw [texts.eq_def] at h
  split at h
  next =>
    cases h
    rfl
  next items =>
    refine congrArg Value.array ?_
    induction items generalizing values with
    | nil =>
        cases h
        rfl
    | cons item items ih =>
        rw [List.mapM_cons] at h
        obtain ⟨s, hs, h⟩ := Option.bind_eq_some_iff.mp h
        obtain ⟨rest, hrest, h⟩ := Option.bind_eq_some_iff.mp h
        cases h
        split at hs
        next =>
          cases hs
          exact congrArg (Value.string s :: ·) (ih hrest)
        next => cases hs
  next => cases h

/-- The field of a key in a table. -/
def lookUp (key : String) (entries : List (String × Value)) : Field :=
  match Value.entry? key entries with
  | some v => .given v
  | none => .absent

/-- The field of a key in a section. -/
def below (key : String) : Field → Field
  | given (.table entries) => lookUp key entries
  | _ => absent

theorem ext_given {f f' : Field} (h : ∀ v, f = given v ↔ f' = given v) : f = f' := by
  cases f with
  | given v => exact ((h v).mp rfl).symm
  | absent =>
      cases f' with
      | given v => exact (h v).mpr rfl
      | absent => rfl

/-- A section that is a table, or is left out. -/
inductive IsSection : Field → Prop
  | absent : IsSection .absent
  | table (entries : List (String × Value)) : IsSection (.given (.table entries))

end Field

theorem mem_of_entry? {key : String} {v : Value} {entries : List (String × Value)}
    (h : Value.entry? key entries = some v) : (key, v) ∈ entries := by
  induction entries with
  | nil => cases h
  | cons first rest ih =>
      obtain ⟨other, w⟩ := first
      rw [Value.entry?] at h
      split at h
      next heq =>
        cases h
        rw [heq]
        exact List.mem_cons_self
      next => exact List.mem_cons_of_mem _ (ih h)

theorem Field.lookUp_eq_given_iff {key : String} {v : Value} {entries : List (String × Value)}
    (hkeys : (entries.map Prod.fst).Nodup) :
    lookUp key entries = .given v ↔ (key, v) ∈ entries := by
  rw [lookUp]
  constructor
  · intro h
    split at h
    next w hw =>
      cases h
      exact mem_of_entry? hw
    next => cases h
  · intro h
    rw [entry?_of_mem hkeys h]

theorem sectionFields?_eq {keys : List String} {entries : List (String × Value)} {fs : List Field}
    (h : sectionFields? keys (.table entries) = some fs) :
    fs = keys.map (Field.lookUp · entries) := by
  rw [sectionFields?] at h
  split at h
  next =>
    cases h
    rfl
  next => cases h

theorem fields?_eq {keys : List String} {f : Field} {fs : List Field} (hf : f.IsSection)
    (h : fields? keys f = some fs) : fs = keys.map (Field.below · f) := by
  cases hf with
  | absent =>
      cases h
      rfl
  | table entries => exact sectionFields?_eq h

theorem of_bind_fields? {α : Type} {keys : List String} {f : Field}
    {read : List Field → Option α} {c : α} (hf : f.IsSection)
    (h : (fields? keys f).bind read = some c) : read (keys.map (Field.below · f)) = some c := by
  obtain ⟨fs, hfs, h⟩ := Option.bind_eq_some_iff.mp h
  rw [← fields?_eq hf hfs]
  exact h

/-- Each of the listed fields is what the section gives under its key, or else what `d` has. -/
def Field.Supplies {α : Type} (f : Field) (entries : List (String × (α → Value))) (d c : α) :
    Prop :=
  ∀ e ∈ entries, e.2 c = (f.below e.1).valueOr (e.2 d)

/-- There are no fields but the listed ones. -/
def Determines {α : Type} (entries : List (String × (α → Value))) : Prop :=
  ∀ c c', (∀ e ∈ entries, e.2 c = e.2 c') → c = c'

theorem map_string_inj {values values' : List String} :
    values.map Value.string = values'.map .string ↔ values = values' :=
  List.map_inj_right fun _ _ h => Value.string.inj h

def EnvironmentConfig.entries : List (String × (EnvironmentConfig → Value)) :=
  [("wasm_target", fun c => .string c.wasmTarget),
    ("dependency_url", fun c => .string c.dependencyUrl),
    ("http_timeout_secs", fun c => .integer c.httpTimeout)]

theorem EnvironmentConfig.supplied {f : Field} {c : EnvironmentConfig} (hf : f.IsSection)
    (h : ofField? f = some c) : f.Supplies entries default c := by
  have h := of_bind_fields? hf h
  simp only [List.map_cons, List.map_nil, Option.bind_eq_bind, Option.bind_eq_some_iff,
    Option.some.injEq] at h
  obtain ⟨_, htarget, _, hurl, _, htimeout, rfl⟩ := h
  simp only [Field.Supplies, entries, List.forall_mem_cons]
  exact ⟨Field.string_of_text htarget, Field.string_of_text hurl, Field.integer_of_number htimeout,
    List.forall_mem_nil _⟩

theorem EnvironmentConfig.determines : Determines entries := by
  rintro ⟨⟩ ⟨⟩ h
  simpa [entries, Int.natCast_inj] using h

def NodeConfig.entries : List (String × (NodeConfig → Value)) :=
  [("package", fun c => .string c.package),
    ("binary", fun c => .string c.binary),
    ("args", fun c => .array (c.args.map .string)),
    ("log_path", fun c => .string c.logPath),
    ("version_marker", fun c => .string c.versionMarker),
    ("rpc_url", fun c => .string c.rpcUrl),
    ("ws_url", fun c => .string c.wsUrl),
    ("health_path", fun c => .string c.healthPath),
    ("settle_secs", fun c => .integer c.settle),
    ("stop_grace_secs", fun c => .integer c.stopGrace)]

theorem NodeConfig.supplied {f : Field} {c : NodeConfig} (hf : f.IsSection)
    (h : ofField? f = some c) : f.Supplies entries default c := by
  have h := of_bind_fields? hf h
  simp only [List.map_cons, List.map_nil, Option.bind_eq_bind, Option.bind_eq_some_iff,
    Option.some.injEq] at h
  obtain ⟨_, hpackage, _, hbinary, _, hargs, _, hlog, _, hmarker, _, hrpc, _, hws, _, hhealth,
    _, hsettle, _, hgrace, rfl⟩ := h
  simp only [Field.Supplies, entries, List.forall_mem_cons]
  exact ⟨Field.string_of_text hpackage, Field.string_of_text hbinary, Field.array_of_texts hargs,
    Field.string_of_text hlog, Field.string_of_text hmarker, Field.string_of_text hrpc,
    Field.string_of_text hws, Field.string_of_text hhealth, Field.integer_of_number hsettle,
    Field.integer_of_number hgrace, List.forall_mem_nil _⟩

theorem NodeConfig.determines : Determines entries := by
  rintro ⟨⟩ ⟨⟩ h
  simpa [entries, Int.natCast_inj, map_string_inj] using h

def RuntimeConfig.entries : List (String × (RuntimeConfig → Value)) :=
  [("package", fun c => .string c.package),
    ("wasm_artifact", fun c => .string c.wasmArtifact)]

theorem RuntimeConfig.supplied {f : Field} {c : RuntimeConfig} (hf : f.IsSection)
    (h : ofField? f = some c) : f.Supplies entries default c := by
  have h := of_bind_fields? hf h
  simp only [List.map_cons, List.map_nil, Option.bind_eq_bind, Option.bind_eq_some_iff,
    Option.some.injEq] at h
  obtain ⟨_, hpackage, _, hartifact, rfl⟩ := h
  simp only [Field.Supplies, entries, List.forall_mem_cons]
  exact ⟨Field.string_of_text hpackage, Field.string_of_text hartifact, List.forall_mem_nil _⟩

theorem RuntimeConfig.determines : Determines entries := by
  rintro ⟨⟩ ⟨⟩ h
  simpa [entries] using h

def ReadinessConfig.entries : List (String × (ReadinessConfig → Value)) :=
  [("health_interval_secs", fun c => .integer c.healthInterval),
    ("health_attempts", fun c => .integer c.healthAttempts),
    ("progress_settle_secs", fun c => .integer c.progressSettle),
    ("rpc_interval_secs", fun c => .integer c.rpcInterval),
    ("rpc_attempts", fun c => .integer c.rpcAttempts)]

theorem ReadinessConfig.supplied {f : Field} {c : ReadinessConfig} (hf : f.IsSection)
    (h : ofField? f = some c) : f.Supplies entries default c := by
  have h := of_bind_fields? hf h
  simp only [List.map_cons, List.map_nil, Option.bind_eq_bind, Option.bind_eq_some_iff,
    Option.some.injEq] at h
  obtain ⟨_, hinterval, _, hattempts, _, hsettle, _, hrpcInterval, _, hrpcAttempts, rfl⟩ := h
  simp only [Field.Supplies, entries, List.forall_mem_cons]
  exact ⟨Field.integer_of_number hinterval, Field.integer_of_number hattempts,
    Field.integer_of_number hsettle, Field.integer_of_number hrpcInterval,
    Field.integer_of_number hrpcAttempts, List.forall_mem_nil _⟩

theorem ReadinessConfig.determines : Determines entries := by
  rintro ⟨⟩ ⟨⟩ h
  simpa [entries, Int.natCast_inj] using h

def ContractsConfig.entries : List (String × (ContractsConfig → Value)) :=
  [("names", fun c => .array (c.names.map .string)),
    ("source_dir", fun c => .string c.sourceDirectory),
    ("artifact_dir", fun c => .string c.artifactDirectory)]

theorem ContractsConfig.supplied {f : Field} {c : ContractsConfig} (hf : f.IsSection)
    (h : ofField? f = some c) : f.Supplies entries default c := by
  have h := of_bind_fields? hf h
  simp only [List.map_cons, List.map_nil, Option.bind_eq_bind, Option.bind_eq_some_iff,
    Option.some.injEq] at h
  obtain ⟨_, hnames, _, hsource, _, hartifacts, rfl⟩ := h
  simp only [Field.Supplies, entries, List.forall_mem_cons]
  exact ⟨Field.array_of_texts hnames, Field.string_of_text hsource, Field.string_of_text hartifacts,
    List.forall_mem_nil _⟩

theorem ContractsConfig.determines : Determines entries := by
  rintro ⟨⟩ ⟨⟩ h
  simpa [entries, map_string_inj] using h

def DeployerConfig.entries : List (String × (DeployerConfig → Value)) :=
  [("package", fun c => .string c.package),
    ("binary", fun c => .string c.binary),
    ("account", fun c => .string c.account)]

theorem DeployerConfig.supplied {f : Field} {c : DeployerConfig} (hf : f.IsSection)
    (h : ofField? f = some c) : f.Supplies entries default c := by
  have h := of_bind_fields? hf h
  simp only [List.map_cons, List.map_nil, Option.bind_eq_bind, Option.bind_eq_some_iff,
    Option.some.injEq] at h
  obtain ⟨_, hpackage, _, hbinary, _, haccount, rfl⟩ := h
  simp only [Field.Supplies, entries, List.forall_mem_cons]
  exact ⟨Field.string_of_text hpackage, Field.string_of_text hbinary, Field.string_of_text haccount,
    List.forall_mem_nil _⟩

theorem DeployerConfig.determines : Determines entries := by
  rintro ⟨⟩ ⟨⟩ h
  simpa [entries] using h

def CycleConfig.entries : List (String × (CycleConfig → Value)) :=
  [("contract", fun c => .string c.contract),
    ("constructor", fun c => .string c.constructor),
    ("suri", fun c => .string c.suri),
    ("subject", fun c => .string c.subject),
    ("compat_error_patterns", fun c => .array (c.limitationPatterns.map .string))]

theorem CycleConfig.supplied {f : Field} {c : CycleConfig} (hf : f.IsSection)
    (h : ofField? f = some c) : f.Supplies entries default c := by
  have h := of_bind_fields? hf h
  simp only [List.map_cons, List.map_nil, Option.bind_eq_bind, Option.bind_eq_some_iff,
    Option.some.injEq] at h
  obtain ⟨_, hcontract, _, hconstructor, _, hsuri, _, hsubject, _, hpatterns, rfl⟩ := h
  simp only [Field.Supplies, entries, List.forall_mem_cons]
  exact ⟨Field.string_of_text hcontract, Field.string_of_text hconstructor,
    Field.string_of_text hsuri, Field.string_of_text hsubject, Field.array_of_texts hpatterns,
    List.forall_mem_nil _⟩

theorem CycleConfig.determines : Determines entries := by
  rintro ⟨⟩ ⟨⟩ h
  simpa [entries, map_string_inj] using h

namespace Config

/-- A field of the configuration: the section that it is in, if it is in one, its key there, and its
value. -/
structure Entry where
  place : Option String
  key : String
  value : Config → Value

/-- The fields of one section. -/
def Entry.ofSection {α : Type} (place : String) (part : Config → α)
    (entries : List (String × (α → Value))) : List Entry :=
  entries.map fun e => ⟨some place, e.1, fun c => e.2 (part c)⟩

/-- All fields of the configuration. -/
def entries : List Entry :=
  [⟨none, "report_path", fun c => .string c.reportPath⟩,
    ⟨none, "tool_timeout_secs", fun c => .integer c.toolTimeout⟩,
    ⟨none, "output_limit_bytes", fun c => .integer c.outputLimit⟩,
    ⟨none, "detail_lines", fun c => .integer c.detailLines⟩] ++
  Entry.ofSection "environment" environment EnvironmentConfig.entries ++
  Entry.ofSection "node" node NodeConfig.entries ++
  Entry.ofSection "runtime" runtime RuntimeConfig.entries ++
  Entry.ofSection "readiness" readiness ReadinessConfig.entries ++
  Entry.ofSection "contracts" contracts ContractsConfig.entries ++
  Entry.ofSection "deployer" deployer DeployerConfig.entries ++
  Entry.ofSection "crud" cycle CycleConfig.entries

theorem Entry.forall_ofSection {α : Type} {place : String} {part : Config → α}
    {entries : List (String × (α → Value))} {P : Entry → Prop} :
    (∀ e ∈ ofSection place part entries, P e) ↔
      ∀ e ∈ entries, P ⟨some place, e.1, fun c => e.2 (part c)⟩ :=
  List.forall_mem_map

theorem eq_of_entries {c c' : Config} (h : ∀ e ∈ entries, e.value c = e.value c') : c = c' := by
  simp only [entries, List.forall_mem_append, Entry.forall_ofSection] at h
  obtain ⟨⟨⟨⟨⟨⟨⟨hgeneral, henvironment⟩, hnode⟩, hruntime⟩, hreadiness⟩, hcontracts⟩, hdeployer⟩,
    hcycle⟩ := h
  simp only [List.forall_mem_cons, Value.string.injEq, Value.integer.injEq, Int.natCast_inj]
    at hgeneral
  obtain ⟨hreport, htimeout, hlimit, hlines, -⟩ := hgeneral
  have henvironment := EnvironmentConfig.determines _ _ henvironment
  have hnode := NodeConfig.determines _ _ hnode
  have hruntime := RuntimeConfig.determines _ _ hruntime
  have hreadiness := ReadinessConfig.determines _ _ hreadiness
  have hcontracts := ContractsConfig.determines _ _ hcontracts
  have hdeployer := DeployerConfig.determines _ _ hdeployer
  have hcycle := CycleConfig.determines _ _ hcycle
  cases c
  cases c'
  simp only [mk.injEq]
  exact ⟨hreport, htimeout, hlimit, hlines, henvironment, hnode, hruntime, hreadiness, hcontracts,
    hdeployer, hcycle⟩

/-- A document gives a value to a key: among its own entries, or in the table that is a section. -/
def Gives (document : List (String × Value)) : Option String → String → Value → Prop
  | none, key, v => (key, v) ∈ document
  | some place, key, v => ∃ es, (place, .table es) ∈ document ∧ (key, v) ∈ es

/-- The field that a document has for a key in its place. -/
def fieldIn (document : List (String × Value)) : Option String → String → Field
  | none, key => Field.lookUp key document
  | some place, key => (Field.lookUp place document).below key

theorem gives_iff {document : List (String × Value)} (h : Once Value.Distinct document)
    (place : Option String) (key : String) (v : Value) :
    Gives document place key v ↔ fieldIn document place key = .given v := by
  cases place with
  | none => exact (Field.lookUp_eq_given_iff h.keys).symm
  | some place =>
      have hbelow : ∀ es, (place, .table es) ∈ document → (es.map Prod.fst).Nodup :=
        fun es hes => (Value.distinct_table_iff.mp (h.values _ hes)).keys
      constructor
      · rintro ⟨es, hes, hv⟩
        rw [fieldIn, (Field.lookUp_eq_given_iff h.keys).mpr hes]
        exact (Field.lookUp_eq_given_iff (hbelow es hes)).mpr hv
      · intro hv
        rw [fieldIn, Field.below.eq_def] at hv
        split at hv
        next es hes =>
          have hes := (Field.lookUp_eq_given_iff h.keys).mp hes
          exact ⟨es, hes, (Field.lookUp_eq_given_iff (hbelow es hes)).mp hv⟩
        next => cases hv

def sectionNames : List String :=
  ["environment", "node", "runtime", "readiness", "contracts", "deployer", "crud"]

/-- Every field of what is read is what the document has for it, or else the default. -/
theorem value_eq_valueOr {document : List (String × Value)} {c : Config}
    (hsections : ∀ place ∈ sectionNames, (Field.lookUp place document).IsSection)
    (h : ofEntries? document = some c) :
    ∀ e ∈ entries, e.value c = (fieldIn document e.place e.key).valueOr (e.value default) := by
  obtain ⟨fs, hfs, h⟩ := Option.bind_eq_some_iff.mp h
  obtain rfl := sectionFields?_eq hfs
  simp only [List.map_cons, List.map_nil, Option.bind_eq_bind, Option.bind_eq_some_iff,
    Option.some.injEq] at h
  obtain ⟨_, hreport, _, htimeout, _, hlimit, _, hlines, _, henvironment, _, hnode, _, hruntime, _,
    hreadiness, _, hcontracts, _, hdeployer, _, hcycle, rfl⟩ := h
  simp only [sectionNames, List.forall_mem_cons] at hsections
  obtain ⟨senvironment, snode, sruntime, sreadiness, scontracts, sdeployer, scycle, -⟩ := hsections
  simp only [entries, List.forall_mem_append, Entry.forall_ofSection]
  refine ⟨⟨⟨⟨⟨⟨⟨?_, EnvironmentConfig.supplied senvironment henvironment⟩,
    NodeConfig.supplied snode hnode⟩, RuntimeConfig.supplied sruntime hruntime⟩,
    ReadinessConfig.supplied sreadiness hreadiness⟩,
    ContractsConfig.supplied scontracts hcontracts⟩,
    DeployerConfig.supplied sdeployer hdeployer⟩, CycleConfig.supplied scycle hcycle⟩
  simp only [List.forall_mem_cons]
  exact ⟨Field.string_of_text hreport, Field.integer_of_number htimeout,
    Field.integer_of_number hlimit, Field.integer_of_number hlines, List.forall_mem_nil _⟩

/-- A file holds a document in which the sections are tables, and the configuration is loaded from
it. -/
structure LoadedFrom (t : FileTree) (here : Place) (path : String)
    (document : List (String × Value)) (c : Config) : Prop where
  holds : ∃ text, t.readText here path = .ok text ∧ Toml.ofText? text = some document
  tables : ∀ place ∈ sectionNames, ∀ v, (place, v) ∈ document → ∃ es, v = .table es
  loaded : load t here path = .ok c

theorem isThere_of_readText {t : FileTree} {here : Place} {path text : String}
    (h : t.readText here path = .ok text) : isThere t here path = true := by
  rw [FileTree.readText, FileTree.read] at h
  rw [isThere]
  cases hfind : t.find here path with
  | ok found => rfl
  | error e =>
      rw [hfind] at h
      cases h

theorem eq_of_accepted {c c' : Config} (h : c.accepted = .ok c') : c = c' := by
  rw [accepted] at h
  split at h
  next =>
    cases h
    rfl
  next => cases h

namespace LoadedFrom

variable {t : FileTree} {here : Place} {path : String} {document : List (String × Value)}
  {c : Config}

theorem of_entries {text : String} {ps : List Pattern} (htext : t.readText here path = .ok text)
    (hdocument : Toml.ofText? text = some document)
    (htables : ∀ place ∈ sectionNames, ∀ v, (place, v) ∈ document → ∃ es, v = .table es)
    (hentries : Config.ofEntries? document = some c) (haccepted : c.check = .ok ps) :
    LoadedFrom t here path document c := by
  refine ⟨⟨text, htext, hdocument⟩, htables, ?_⟩
  rw [load, if_pos (isThere_of_readText htext), htext]
  simp only [ofToml?, hdocument, Option.bind_some, hentries, accepted, haccepted]

theorem once (h : LoadedFrom t here path document c) : Once Value.Distinct document := by
  obtain ⟨text, -, hdocument⟩ := h.holds
  exact Toml.ofText?_once hdocument

theorem ofEntries? (h : LoadedFrom t here path document c) :
    Config.ofEntries? document = some c := by
  obtain ⟨text, htext, hdocument⟩ := h.holds
  have hload := h.loaded
  rw [load, if_pos (isThere_of_readText htext), htext] at hload
  dsimp only at hload
  rw [ofToml?, hdocument, Option.bind_some] at hload
  split at hload
  next => cases hload
  next c' hc' => rw [hc', eq_of_accepted hload]

theorem value_eq_valueOr (h : LoadedFrom t here path document c) :
    ∀ e ∈ entries, e.value c = (fieldIn document e.place e.key).valueOr (e.value default) := by
  refine Config.value_eq_valueOr (fun place hplace => ?_) h.ofEntries?
  cases hfield : Field.lookUp place document with
  | absent => exact .absent
  | given v =>
      have hmem := (Field.lookUp_eq_given_iff h.once.keys).mp hfield
      obtain ⟨es, rfl⟩ := h.tables place hplace v hmem
      exact .table es

end LoadedFrom

/-- What is loaded from a file is, in each of its fields, what the document gives to the key of the
field in its place, and what the default configuration has there where the document gives nothing.
So two files between which no such value differs are loaded as the same configuration. -/
theorem load_partial {t : FileTree} {here : Place} {path : String}
    {document : List (String × Value)} {c : Config} (h : LoadedFrom t here path document c) :
    (∀ e ∈ entries,
      (∀ v, Gives document e.place e.key v → e.value c = v) ∧
        ((∀ v, ¬ Gives document e.place e.key v) → e.value c = e.value default)) ∧
      ∀ t' here' path' document' c', LoadedFrom t' here' path' document' c' →
        (∀ e ∈ entries, ∀ v,
          Gives document e.place e.key v ↔ Gives document' e.place e.key v) → c = c' := by
  refine ⟨fun e he => ⟨fun v hv => ?_, fun hnone => ?_⟩, ?_⟩
  · rw [h.value_eq_valueOr e he, (gives_iff h.once _ _ _).mp hv]
    rfl
  · have habsent : fieldIn document e.place e.key = .absent := by
      cases hfield : fieldIn document e.place e.key with
      | absent => rfl
      | given v => exact absurd ((gives_iff h.once _ _ _).mpr hfield) (hnone v)
    rw [h.value_eq_valueOr e he, habsent]
    rfl
  · intro t' here' path' document' c' h' hagree
    refine eq_of_entries fun e he => ?_
    have hsame : fieldIn document e.place e.key = fieldIn document' e.place e.key := by
      refine Field.ext_given fun v => ?_
      rw [← gives_iff h.once, ← gives_iff h'.once]
      exact hagree e he v
    rw [h.value_eq_valueOr e he, h'.value_eq_valueOr e he, hsame]

/-- A file tree with nothing but a configuration file. -/
def holding (text : String) : FileTree :=
  FileTree.empty.putNew [fileName] (Utf8.encode text.toList) false

theorem readText_holding (text : String) : (holding text).readText [] fileName = .ok text := by
  have hread : (holding text).read [] fileName = .ok (Utf8.encode text.toList) := rfl
  rw [FileTree.readText, hread]
  simp only [Utf8.decode?_encode, String.ofList_toList]

def sparse : String :=
  Toml.writeDocument [("detail_lines", .number 2)]
    [("runtime", [("package", .text "kernel")]), ("crud", [("compat_error_patterns", .texts [])])]

def sparseDocument : List (String × Value) :=
  [("detail_lines", .integer 2), ("runtime", .table [("package", .string "kernel")]),
    ("crud", .table [("compat_error_patterns", .array [])])]

/-- The same settings in another order, among keys and sections that are not known. -/
def scattered : String :=
  Toml.writeDocument [("owner", .text "us"), ("detail_lines", .number 2)]
    [("crud", [("hue", .text "red"), ("compat_error_patterns", .texts [])]),
      ("extra", [("suri", .text "//Bob")]), ("runtime", [("package", .text "kernel")])]

def scatteredDocument : List (String × Value) :=
  [("owner", .string "us"), ("detail_lines", .integer 2),
    ("crud", .table [("hue", .string "red"), ("compat_error_patterns", .array [])]),
    ("extra", .table [("suri", .string "//Bob")]),
    ("runtime", .table [("package", .string "kernel")])]

/-- What both documents describe. -/
def nearby : Config :=
  { default with
    detailLines := 2
    runtime := { RuntimeConfig.default with package := "kernel" }
    cycle := { CycleConfig.default with limitationPatterns := [] } }

theorem load_partial_scattered : ∃ c c',
    LoadedFrom (holding sparse) [] fileName sparseDocument c ∧
      LoadedFrom (holding scattered) [] fileName scatteredDocument c' ∧ c = c' ∧
      Value.integer c.detailLines = .integer 2 ∧ Value.string c.cycle.suri = .string "//Alice" := by
  have hsparse : LoadedFrom (holding sparse) [] fileName sparseDocument nearby :=
    .of_entries (readText_holding _) (Toml.ofText?_writeDocument (by decide))
      (by simp [sectionNames, sparseDocument]) rfl rfl
  have hscattered : LoadedFrom (holding scattered) [] fileName scatteredDocument nearby :=
    .of_entries (readText_holding _) (Toml.ofText?_writeDocument (by decide))
      (by simp [sectionNames, scatteredDocument]) rfl rfl
  have hfields : entries.map (fun e => fieldIn sparseDocument e.place e.key) =
      entries.map fun e => fieldIn scatteredDocument e.place e.key := rfl
  have hagree : ∀ e ∈ entries, ∀ v,
      Gives sparseDocument e.place e.key v ↔ Gives scatteredDocument e.place e.key v := by
    intro e he v
    rw [gives_iff hsparse.once, gives_iff hscattered.once, List.map_inj_left.mp hfields e he]
  obtain ⟨hgiven, hsame⟩ := load_partial hsparse
  refine ⟨_, _, hsparse, hscattered, hsame _ _ _ _ _ hscattered hagree, ?_, ?_⟩
  · have hlines := hgiven ⟨none, "detail_lines", fun c => .integer c.detailLines⟩
      (by simp [entries])
    exact hlines.1 _ (by simp [Gives, sparseDocument])
  · have hsuri := hgiven ⟨some "crud", "suri", fun c => .string c.cycle.suri⟩
      (by simp [entries, Entry.ofSection, CycleConfig.entries])
    exact hsuri.2 (by simp [Gives, sparseDocument])

end Config

end NodeTrial
