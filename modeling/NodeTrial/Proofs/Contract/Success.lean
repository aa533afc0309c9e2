import NodeTrial.Contract.Call
import NodeTrial.Proofs.Text.FullLines

namespace NodeTrial.Contract

/-- The parts of a call in a document: the members of an object by their names, or up to three items
of an array by their places. -/
inductive HasParts : Json → (reverted data status : Option Json) → Prop
  | object (members : List (String × Json)) :
      HasParts (.object members) (Json.member? "reverted" members) (Json.member? "data" members)
        (Json.member? "status" members)
  | array {items : List Json} (h : items.length ≤ 3) :
      HasParts (.array items) items[0]? items[1]? items[2]?

/-- A part of a document is absent, null or a truth value. -/
def IsTruth (part : Option Json) : Prop :=
  part = none ∨ part = some .null ∨ ∃ b, part = some (.bool b)

/-- A part of a document is absent, null or a text. -/
def IsWording (part : Option Json) : Prop :=
  part = none ∨ part = some .null ∨ ∃ s, part = some (.string s)

/-- A document decodes as a call. -/
def Decodes (v : Json) : Prop :=
  ∃ reverted data status, HasParts v reverted data status ∧ IsTruth reverted ∧ IsWording status

/-- A document says that the call was not reverted, and the variant of its data, or its status if
the data has no variant, is a word of success. -/
def SaysSuccess (v : Json) : Prop :=
  ∃ reverted data status, HasParts v reverted data status ∧ reverted ≠ some (.bool true) ∧
    ∃ word ∈ Call.successMarkers, data.bind Call.variant? = some word ∨
      data.bind Call.variant? = none ∧ status = some (.string word)

theorem HasParts.unique {v : Json} {r d s r' d' s' : Option Json} (h : HasParts v r d s)
    (h' : HasParts v r' d' s') : r' = r ∧ d' = d ∧ s' = s := by
  cases h <;> cases h' <;> exact ⟨rfl, rfl, rfl⟩

namespace Call

theorem isTruth_iff {part : Option Json} : IsTruth part ↔ ∃ b?, optionalBool part = some b? := by
  rcases part with _ | v
  · simp [IsTruth, optionalBool]
  · cases v <;> simp [IsTruth, optionalBool]

theorem isWording_iff {part : Option Json} :
    IsWording part ↔ ∃ s?, optionalText part = some s? := by
  rcases part with _ | v
  · simp [IsWording, optionalText]
  · cases v <;> simp [IsWording, optionalText]

theorem optionalBool_eq_true_iff {part : Option Json} {b? : Option Bool}
    (h : optionalBool part = some b?) : b? = some true ↔ part = some (.bool true) := by
  rcases part with _ | v
  · cases h
    simp
  · cases v <;> cases h <;> simp

theorem optionalText_eq_some_iff {part : Option Json} {s? : Option String} {word : String}
    (h : optionalText part = some s?) : s? = some word ↔ part = some (.string word) := by
  rcases part with _ | v
  · cases h
    simp
  · cases v <;> cases h <;> simp

theorem bind_optionalValue_variant? (part : Option Json) :
    (optionalValue part).bind variant? = part.bind variant? := by
  rcases part with _ | v
  · rfl
  · cases v <;> rfl

theorem ofParts?_eq_some_iff {r d s : Option Json} {c : Call} :
    ofParts? r d s = some c ↔
      optionalBool r = some c.reverted? ∧ optionalValue d = c.data? ∧
        optionalText s = some c.status? := by
  obtain ⟨reverted?, data?, status?⟩ := c
  simp only [ofParts?, Option.bind_eq_bind, Option.bind_eq_some_iff]
  constructor
  · rintro ⟨b?, hb, s?, hs, hc⟩
    cases hc
    exact ⟨hb, rfl, hs⟩
  · rintro ⟨hb, rfl, hs⟩
    exact ⟨_, hb, _, hs, rfl⟩

theorem ofJson?_of_parts {v : Json} {r d s : Option Json} (h : HasParts v r d s) :
    ofJson? v = ofParts? r d s := by
  cases h with
  | object members => rfl
  | array h => rw [ofJson?, if_pos h]

theorem exists_parts_of_ofJson? {v : Json} {c : Call} (h : ofJson? v = some c) :
    ∃ r d s, HasParts v r d s := by
  cases v with
  | object members => exact ⟨_, _, _, .object members⟩
  | array items =>
      rw [ofJson?] at h
      split at h
      next hlength => exact ⟨_, _, _, .array hlength⟩
      next => cases h
  | _ => cases h

theorem decodes_iff {v : Json} : Decodes v ↔ ∃ c, ofJson? v = some c := by
  constructor
  · rintro ⟨r, d, s, hparts, hr, hs⟩
    obtain ⟨b?, hb⟩ := isTruth_iff.mp hr
    obtain ⟨s?, hs⟩ := isWording_iff.mp hs
    refine ⟨⟨b?, optionalValue d, s?⟩, ?_⟩
    rw [ofJson?_of_parts hparts]
    exact ofParts?_eq_some_iff.mpr ⟨hb, rfl, hs⟩
  · rintro ⟨c, hc⟩
    obtain ⟨r, d, s, hparts⟩ := exists_parts_of_ofJson? hc
    rw [ofJson?_of_parts hparts] at hc
    obtain ⟨hr, -, hs⟩ := ofParts?_eq_some_iff.mp hc
    exact ⟨r, d, s, hparts, isTruth_iff.mpr ⟨_, hr⟩, isWording_iff.mpr ⟨_, hs⟩⟩

theorem succeeded_iff {c : Call} :
    c.succeeded = true ↔ c.reverted? ≠ some true ∧
      ∃ word ∈ successMarkers, c.data?.bind variant? = some word ∨
        c.data?.bind variant? = none ∧ c.status? = some word := by
  unfold succeeded
  split
  next h => simp [h]
  next h =>
    cases c.data?.bind variant? with
    | none => cases c.status? <;> simp [h]
    | some word => simp [h]

theorem succeeded_iff_of_ofJson? {v : Json} {c : Call} (h : ofJson? v = some c) :
    c.succeeded = true ↔ SaysSuccess v := by
  obtain ⟨r, d, s, hparts⟩ := exists_parts_of_ofJson? h
  rw [ofJson?_of_parts hparts] at h
  obtain ⟨hr, hd, hs⟩ := ofParts?_eq_some_iff.mp h
  have hword : ∀ word, (c.status? = some word ↔ s = some (.string word)) := fun _ =>
    optionalText_eq_some_iff hs
  rw [succeeded_iff, ← hd, bind_optionalValue_variant?, ne_eq, optionalBool_eq_true_iff hr]
  simp only [hword]
  constructor
  · intro hsays
    exact ⟨r, d, s, hparts, hsays⟩
  · rintro ⟨r', d', s', hparts', hsays⟩
    obtain ⟨rfl, rfl, rfl⟩ := hparts.unique hparts'
    exact hsays

end Call

theorem callSucceeded_of_decodes {output : String} {v : Json} (h : document? output = some v)
    (hdecodes : Decodes v) : callSucceeded output = true ↔ SaysSuccess v := by
  obtain ⟨call, hcall⟩ := Call.decodes_iff.mp hdecodes
  rw [callSucceeded, Call.ofOutput?, h, Option.bind_some, hcall]
  exact Call.succeeded_iff_of_ofJson? hcall

theorem callSucceeded_of_undecoded {output : String}
    (h : ∀ v, document? output = some v → ¬ Decodes v) :
    callSucceeded output = true ↔
      ∃ word ∈ Call.successMarkers, word.toList <:+: output.toList := by
  have hnone : Call.ofOutput? output = none := by
    rw [Call.ofOutput?, Option.bind_eq_none_iff]
    intro v hv
    by_contra hcall
    exact h v hv (Call.decodes_iff.mpr (Option.ne_none_iff_exists'.mp hcall))
  simp [callSucceeded, hnone, Text.contains_iff]

/-- A document that decodes decides alone, and otherwise the words of success do. -/
theorem callSucceeded_iff {output : String} :
    callSucceeded output = true ↔
      (∃ v, document? output = some v ∧ Decodes v ∧ SaysSuccess v) ∨
        (∀ v, document? output = some v → ¬ Decodes v) ∧
          ∃ word ∈ Call.successMarkers, word.toList <:+: output.toList := by
  by_cases h : ∃ v, document? output = some v ∧ Decodes v
  · obtain ⟨v, hv, hdecodes⟩ := h
    rw [callSucceeded_of_decodes hv hdecodes]
    constructor
    · exact fun hsays => .inl ⟨v, hv, hdecodes, hsays⟩
    · rintro (⟨v', hv', -, hsays⟩ | ⟨hnone, -⟩)
      · rwa [Option.some.inj (hv.symm.trans hv')]
      · exact absurd hdecodes (hnone v hv)
  · have hundecoded : ∀ v, document? output = some v → ¬ Decodes v :=
      fun v hv hdecodes => h ⟨v, hv, hdecodes⟩
    rw [callSucceeded_of_undecoded hundecoded]
    constructor
    · exact fun hword => .inr ⟨hundecoded, hword⟩
    · rintro (⟨v, hv, hdecodes, -⟩ | ⟨-, hword⟩)
      · exact absurd hdecodes (hundecoded v hv)
      · exact hword

theorem not_saysSuccess_of_reverted {members : List (String × Json)}
    (h : Json.member? "reverted" members = some (.bool true)) :
    ¬ SaysSuccess (.object members) := by
  rintro ⟨reverted, data, status, hparts, hreverted, -⟩
  cases hparts
  exact hreverted h

/-- An output with a document is judged by the document alone if that decodes as a call, and by a
search through the whole output if it does not. -/
theorem callSucceeded_of_document {output : String} {v : Json} (h : document? output = some v) :
    callSucceeded output = true ↔
      Decodes v ∧ SaysSuccess v ∨
        ¬ Decodes v ∧ ∃ word ∈ Call.successMarkers, word.toList <:+: output.toList := by
  by_cases hdecodes : Decodes v
  · rw [callSucceeded_of_decodes h hdecodes]
    simp [hdecodes]
  · have hundecoded : ∀ v', document? output = some v' → ¬ Decodes v' := by
      intro v' hv'
      rwa [Option.some.inj (hv'.symm.trans h)]
    rw [callSucceeded_of_undecoded hundecoded]
    simp [hdecodes]

/-- The output of a call that was reverted. Its status is a number, so it does not decode, and the
name of an event holds a word of success. -/
def revertedOutput : String :=
  "\x7b\"reverted\":true,\"data\":\x7b\"Err\":\"ContractReverted\"\x7d,\"status\":1," ++
    "\"events\":[\x7b\"name\":\"TokenOk\"\x7d]\x7d"

/-- A call that was reverted counts as a success where its document does not decode. -/
theorem callSucceeded_reverted :
    ∃ members, document? revertedOutput = some (.object members) ∧
      Json.member? "reverted" members = some (.bool true) ∧
      (Json.member? "data" members).bind Call.variant? = some "Err" ∧
      callSucceeded revertedOutput = true := by
  have hdocument : document? revertedOutput = some (.object
      [("data", .object [("Err", .string "ContractReverted")]),
        ("events", .array [.object [("name", .string "TokenOk")]]), ("reverted", .bool true),
        ("status", .number (.natural 1))]) := by
    with_unfolding_all rfl
  refine ⟨_, hdocument, rfl, rfl, (callSucceeded_of_document hdocument).mpr (.inr ⟨?_, ?_⟩)⟩
  · rintro ⟨r, d, s, hparts, -, hs⟩
    cases hparts
    simp [IsWording, Json.member?] at hs
  · exact ⟨"Ok", by decide, by decide +kernel⟩

end NodeTrial.Contract
