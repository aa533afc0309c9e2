import NodeTrial.Proofs.Contract.Success

namespace NodeTrial.Contract

/-- A document gives data as what the call returned: it decodes as a call, and its data is there and
is not null. -/
def Gives (v data : Json) : Prop :=
  ∃ reverted status, HasParts v reverted (some data) status ∧ data ≠ .null ∧ IsTruth reverted ∧
    IsWording status

namespace Call

theorem optionalValue_eq_some_iff {part : Option Json} {data : Json} :
    optionalValue part = some data ↔ part = some data ∧ data ≠ .null := by
  rcases part with _ | v
  · simp [optionalValue]
  · cases v <;> cases data <;> simp [optionalValue]

theorem data?_eq_some_iff {v data : Json} :
    (ofJson? v).bind Call.data? = some data ↔ Gives v data := by
  constructor
  · intro h
    obtain ⟨c, hc, hdata⟩ := Option.bind_eq_some_iff.mp h
    obtain ⟨r, d, s, hparts⟩ := exists_parts_of_ofJson? hc
    rw [ofJson?_of_parts hparts] at hc
    obtain ⟨hr, hd, hs⟩ := ofParts?_eq_some_iff.mp hc
    obtain ⟨rfl, hnull⟩ := optionalValue_eq_some_iff.mp (hd.trans hdata)
    exact ⟨r, s, hparts, hnull, isTruth_iff.mpr ⟨_, hr⟩, isWording_iff.mpr ⟨_, hs⟩⟩
  · rintro ⟨r, s, hparts, hnull, hr, hs⟩
    obtain ⟨b?, hb⟩ := isTruth_iff.mp hr
    obtain ⟨s?, hs⟩ := isWording_iff.mp hs
    have hdata : optionalValue (some data) = some data :=
      optionalValue_eq_some_iff.mpr ⟨rfl, hnull⟩
    have hcall : ofJson? v = some ⟨b?, some data, s?⟩ := by
      rw [ofJson?_of_parts hparts]
      exact ofParts?_eq_some_iff.mpr ⟨hb, hdata, hs⟩
    rw [hcall]
    rfl

end Call

/-- An output with a document is searched for a token in the data that the document gives, or, if it
gives none, from its first character to its last that are not white space. -/
theorem returnsToken_of_document {output token : String} {v : Json} (h : document? output = some v) :
    returnsToken output token = true ↔
      (∃ data, Gives v data ∧ token.toList <:+: data.compact.toList) ∨
        (∀ data, ¬ Gives v data) ∧ token.toList <:+: Text.trim output.toList := by
  rw [returnsToken, Text.contains_iff, returnedValue, Call.ofOutput?, h, Option.bind_some]
  cases hgiven : (Call.ofJson? v).bind Call.data? with
  | some data =>
      have hgives : Gives v data := Call.data?_eq_some_iff.mp hgiven
      have honly : ∀ data', Gives v data' ↔ data' = data := by
        intro data'
        rw [← Call.data?_eq_some_iff, hgiven, Option.some_inj, eq_comm]
      simp [honly]
  | none =>
      have hnone : ∀ data, ¬ Gives v data := by
        intro data hgives
        rw [Call.data?_eq_some_iff.mpr hgives] at hgiven
        cases hgiven
      simp [hnone, Text.trimmed]

/-- The output of a query whose document has no data, while an event in it names a level. -/
def datalessOutput : String :=
  "\x7b\"reverted\":false,\"events\":[\x7b\"level\":\"Premium\"\x7d]\x7d"

/-- A token is found in another member of a document that has no data. -/
theorem returnsToken_dataless :
    ∃ members, document? datalessOutput = some (.object members) ∧
      Json.member? "data" members = none ∧ returnsToken datalessOutput "Premium" = true := by
  have hdocument : document? datalessOutput = some (.object
      [("events", .array [.object [("level", .string "Premium")]]), ("reverted", .bool false)]) := by
    with_unfolding_all rfl
  refine ⟨_, hdocument, rfl, (returnsToken_of_document hdocument).mpr (.inr ⟨?_, ?_⟩)⟩
  · rintro data ⟨r, s, hparts, -⟩
    generalize hpart : some data = part at hparts
    cases hparts
    cases hpart
  · rw [← Text.occursIn_iff]
    decide +kernel

end NodeTrial.Contract
