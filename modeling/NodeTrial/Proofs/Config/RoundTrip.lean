import NodeTrial.Config.Loading
import NodeTrial.Proofs.Text.Utf8
import NodeTrial.Proofs.Toml.Document

namespace NodeTrial

open Toml (Setting Value Legible pairEntries tableEntry)

namespace Field

theorem text_string (fallback s : String) :
    text fallback (.given (Setting.text s).value) = some s := rfl

theorem number_integer {bound n : Nat} (h : n < bound) (fallback : Nat) :
    number bound fallback (.given (Setting.number n).value) = some n := by
  have hbounds : (0 : Int) ≤ n ∧ (n : Int) < bound :=
    ⟨Int.natCast_nonneg n, Int.ofNat_lt.mpr h⟩
  exact if_pos hbounds

theorem texts_array (fallback values : List String) :
    texts fallback (.given (Setting.texts values).value) = some values := by
  induction values with
  | nil => rfl
  | cons s values ih =>
      rw [Setting.value, texts] at ih
      rw [Setting.value, texts, List.map_cons, List.mapM_cons, ih]
      rfl

end Field

theorem entry?_of_mem {entries : List (String × Value)} (hkeys : (entries.map Prod.fst).Nodup)
    {e : String × Value} (he : e ∈ entries) : Value.entry? e.1 entries = some e.2 := by
  induction entries with
  | nil => cases he
  | cons first rest ih =>
      obtain ⟨key, v⟩ := first
      obtain ⟨hfresh, hkeys⟩ := List.nodup_cons.mp hkeys
      rcases List.mem_cons.mp he with rfl | he
      · exact if_pos rfl
      · have hne : e.1 ≠ key := fun h => hfresh (List.mem_map.mpr ⟨e, he, h⟩)
        rw [Value.entry?, if_neg hne, ih hkeys he]

theorem sectionFields?_table {entries : List (String × Value)} {keys : List String}
    (hwritten : entries.map Prod.fst = keys) (hkeys : keys.Nodup) :
    sectionFields? keys (.table entries) = some (entries.map fun e => .given e.2) := by
  subst hwritten
  rw [sectionFields?, if_pos]
  · rw [List.map_map]
    refine congrArg some (List.map_congr_left fun e he => ?_)
    rw [Function.comp_apply, entry?_of_mem hkeys he]
  · refine List.all_eq_true.mpr fun e he => ?_
    exact Bool.or_eq_true_iff.mpr (.inl (List.contains_iff_mem.mpr (List.mem_map_of_mem he)))

theorem fields?_pairEntries {pairs : List (String × Setting)} {keys : List String}
    (hwritten : pairs.map Prod.fst = keys) (hkeys : keys.Nodup) :
    fields? keys (.given (.table (pairEntries pairs))) =
      some (pairs.map fun p => .given p.2.value) := by
  have hsame : (pairEntries pairs).map Prod.fst = keys := by
    rw [← hwritten, pairEntries, List.map_map]
    rfl
  rw [fields?, sectionFields?_table hsame hkeys, pairEntries, List.map_map]
  rfl

theorem EnvironmentConfig.ofField?_settings {c : EnvironmentConfig}
    (htimeout : c.httpTimeout < wordBound) :
    ofField? (.given (.table (pairEntries c.settings))) = some c := by
  rw [ofField?, fields?_pairEntries, Option.bind_eq_bind, Option.bind_some]
  · simp only [settings, List.map_cons, List.map_nil, Option.bind_eq_bind, Option.bind_some,
      Field.text_string, Field.number_integer htimeout]
  · rfl
  · decide

theorem NodeConfig.ofField?_settings {c : NodeConfig} (hsettle : c.settle < wordBound)
    (hgrace : c.stopGrace < wordBound) :
    ofField? (.given (.table (pairEntries c.settings))) = some c := by
  rw [ofField?, fields?_pairEntries, Option.bind_eq_bind, Option.bind_some]
  · simp only [settings, List.map_cons, List.map_nil, Option.bind_eq_bind, Option.bind_some,
      Field.text_string, Field.texts_array, Field.number_integer hsettle,
      Field.number_integer hgrace]
  · rfl
  · decide

theorem RuntimeConfig.ofField?_settings (c : RuntimeConfig) :
    ofField? (.given (.table (pairEntries c.settings))) = some c := by
  rw [ofField?, fields?_pairEntries, Option.bind_eq_bind, Option.bind_some]
  · simp only [settings, List.map_cons, List.map_nil, Option.bind_eq_bind, Option.bind_some,
      Field.text_string]
  · rfl
  · decide

theorem ReadinessConfig.ofField?_settings {c : ReadinessConfig}
    (hinterval : c.healthInterval < wordBound) (hattempts : c.healthAttempts < halfWordBound)
    (hsettle : c.progressSettle < wordBound) (hrpcInterval : c.rpcInterval < wordBound)
    (hrpcAttempts : c.rpcAttempts < halfWordBound) :
    ofField? (.given (.table (pairEntries c.settings))) = some c := by
  rw [ofField?, fields?_pairEntries, Option.bind_eq_bind, Option.bind_some]
  · simp only [settings, List.map_cons, List.map_nil, Option.bind_eq_bind, Option.bind_some,
      Field.number_integer hinterval, Field.number_integer hattempts,
      Field.number_integer hsettle, Field.number_integer hrpcInterval,
      Field.number_integer hrpcAttempts]
  · rfl
  · decide

theorem ContractsConfig.ofField?_settings (c : ContractsConfig) :
    ofField? (.given (.table (pairEntries c.settings))) = some c := by
  rw [ofField?, fields?_pairEntries, Option.bind_eq_bind, Option.bind_some]
  · simp only [settings, List.map_cons, List.map_nil, Option.bind_eq_bind, Option.bind_some,
      Field.text_string, Field.texts_array]
  · rfl
  · decide

theorem DeployerConfig.ofField?_settings (c : DeployerConfig) :
    ofField? (.given (.table (pairEntries c.settings))) = some c := by
  rw [ofField?, fields?_pairEntries, Option.bind_eq_bind, Option.bind_some]
  · simp only [settings, List.map_cons, List.map_nil, Option.bind_eq_bind, Option.bind_some,
      Field.text_string]
  · rfl
  · decide

theorem CycleConfig.ofField?_settings (c : CycleConfig) :
    ofField? (.given (.table (pairEntries c.settings))) = some c := by
  rw [ofField?, fields?_pairEntries, Option.bind_eq_bind, Option.bind_some]
  · simp only [settings, List.map_cons, List.map_nil, Option.bind_eq_bind, Option.bind_some,
      Field.text_string, Field.texts_array]
  · rfl
  · decide

namespace Config

/-- Whether every number of a configuration fits into the bits that it is kept in. -/
structure Fits (c : Config) : Prop where
  toolTimeout : c.toolTimeout < wordBound
  outputLimit : c.outputLimit < wordBound
  detailLines : c.detailLines < wordBound
  httpTimeout : c.environment.httpTimeout < wordBound
  settle : c.node.settle < wordBound
  stopGrace : c.node.stopGrace < wordBound
  healthInterval : c.readiness.healthInterval < wordBound
  healthAttempts : c.readiness.healthAttempts < halfWordBound
  progressSettle : c.readiness.progressSettle < wordBound
  rpcInterval : c.readiness.rpcInterval < wordBound
  rpcAttempts : c.readiness.rpcAttempts < halfWordBound

theorem outline_sections (c : Config) : c.sections.map Toml.outline =
    [("environment", ["wasm_target", "dependency_url", "http_timeout_secs"]),
      ("node", ["package", "binary", "args", "log_path", "version_marker", "rpc_url", "ws_url",
        "health_path", "settle_secs", "stop_grace_secs"]),
      ("runtime", ["package", "wasm_artifact"]),
      ("readiness", ["health_interval_secs", "health_attempts", "progress_settle_secs",
        "rpc_interval_secs", "rpc_attempts"]),
      ("contracts", ["names", "source_dir", "artifact_dir"]),
      ("deployer", ["package", "binary", "account"]),
      ("crud", ["contract", "constructor", "suri", "subject", "compat_error_patterns"])] := rfl

theorem keys_settings (c : Config) : c.settings.map Prod.fst =
    ["report_path", "tool_timeout_secs", "output_limit_bytes", "detail_lines"] := rfl

theorem legible (c : Config) :
    Legible (c.settings.map Prod.fst) (c.sections.map Toml.outline) := by
  rw [keys_settings, outline_sections]
  decide

/-- The entries of a document that describes a configuration describe no other. -/
theorem ofEntries?_settings {c : Config} (h : c.Fits) :
    ofEntries? (pairEntries c.settings ++ c.sections.map tableEntry) = some c := by
  -- Spelled out, so that no step below has to compute the fields.
  have hfields : (pairEntries c.settings ++ c.sections.map tableEntry).map
        (fun e => Field.given e.2) =
      [.given (Setting.text c.reportPath).value, .given (Setting.number c.toolTimeout).value,
        .given (Setting.number c.outputLimit).value, .given (Setting.number c.detailLines).value,
        .given (.table (pairEntries c.environment.settings)),
        .given (.table (pairEntries c.node.settings)),
        .given (.table (pairEntries c.runtime.settings)),
        .given (.table (pairEntries c.readiness.settings)),
        .given (.table (pairEntries c.contracts.settings)),
        .given (.table (pairEntries c.deployer.settings)),
        .given (.table (pairEntries c.cycle.settings))] := rfl
  rw [ofEntries?, sectionFields?_table, Option.bind_eq_bind, Option.bind_some, hfields]
  · simp only [Option.bind_eq_bind, Option.bind_some, Field.text_string,
      Field.number_integer h.toolTimeout, Field.number_integer h.outputLimit,
      Field.number_integer h.detailLines, EnvironmentConfig.ofField?_settings h.httpTimeout,
      NodeConfig.ofField?_settings h.settle h.stopGrace, RuntimeConfig.ofField?_settings,
      ReadinessConfig.ofField?_settings h.healthInterval h.healthAttempts h.progressSettle
        h.rpcInterval h.rpcAttempts,
      ContractsConfig.ofField?_settings, DeployerConfig.ofField?_settings,
      CycleConfig.ofField?_settings]
  · rfl
  · decide

theorem ofToml?_toToml {c : Config} (h : c.Fits) : ofToml? c.toToml = some c := by
  rw [ofToml?, toToml, Toml.ofText?_writeDocument c.legible, Option.bind_some,
    ofEntries?_settings h]

/-- A configuration that is accepted is loaded from a file with its text. -/
theorem load_toToml {c : Config} {ps : List Pattern} {t : FileTree} {here : Place} {path : String}
    (haccepted : c.check = .ok ps) (hfits : c.Fits)
    (hfile : t.read here path = .ok (Utf8.encode c.toToml.toList)) :
    load t here path = .ok c := by
  have hthere : isThere t here path = true := by
    rw [FileTree.read] at hfile
    rw [isThere]
    split at hfile
    next => cases hfile
    next h => rw [h]
    next h => rw [h]
  have htext : t.readText here path = .ok c.toToml := by
    rw [FileTree.readText, hfile]
    simp only [Utf8.decode?_encode, String.ofList_toList]
  rw [load, if_pos hthere, htext]
  simp only [ofToml?_toToml hfits, accepted, haccepted]

/-- A configuration with quotes, a backslash and control characters in its texts. -/
def awkward : Config :=
  { Config.default with
    reportPath := "reports/\"all\".md"
    toolTimeout := wordBound - 1
    node := { NodeConfig.default with args := ["--name", "back\\slash", "bell\x07"] }
    cycle := { CycleConfig.default with limitationPatterns := ["it's \"missing\"\n"] } }

theorem load_toToml_awkward : ∃ ps t, awkward.check = .ok ps ∧ awkward.Fits ∧
    t.read [] fileName = .ok (Utf8.encode awkward.toToml.toList) ∧
      load t [] fileName = .ok awkward := by
  have hread : ∀ bytes, (FileTree.empty.putNew [fileName] bytes false).read [] fileName =
      .ok bytes := fun _ => rfl
  have hfits : awkward.Fits := by constructor <;> decide
  exact ⟨_, _, rfl, hfits, hread _, load_toToml rfl hfits (hread _)⟩

end Config

end NodeTrial
