import NodeTrial.Proofs.Contract.Document
import NodeTrial.Proofs.Contract.Success

namespace NodeTrial.Contract

/-- Data that encodes a variant: as the one key of an object, as the identifier in a tuple, or as an
identifier at the top. -/
inductive Encodes (variant : String) : Json → Prop
  | keyed (payload : Json) : Encodes variant (.object [(variant, payload)])
  | tuple {members : List (String × Json)}
      (ident : Json.member? "ident" members = some (.string variant)) :
      Encodes variant (.object [("Tuple", .object members)])
  | named {members : List (String × Json)}
      (ident : Json.member? "ident" members = some (.string variant)) :
      Encodes variant (.object members)

/-- A value names an identifier: it is an object with a text as that member. -/
def NamesIdent (v : Json) (ident : String) : Prop := v.get? "ident" = some (.string ident)

/-- The word by which data that encodes a variant is judged: the variant itself, unless it is the
one key of an object and the payload names an identifier. -/
inductive JudgedBy (variant : String) : Json → String → Prop
  | keyed {payload : Json} (h : ∀ ident, ¬ NamesIdent payload ident) :
      JudgedBy variant (.object [(variant, payload)]) variant
  | payload {payload : Json} {ident : String} (h : NamesIdent payload ident) :
      JudgedBy variant (.object [(variant, payload)]) ident
  | tuple {members : List (String × Json)}
      (ident : Json.member? "ident" members = some (.string variant)) :
      JudgedBy variant (.object [("Tuple", .object members)]) variant
  | named {members : List (String × Json)}
      (ident : Json.member? "ident" members = some (.string variant)) :
      JudgedBy variant (.object members) variant

theorem Encodes.exists_judgedBy {variant : String} {data : Json} (h : Encodes variant data) :
    ∃ word, JudgedBy variant data word := by
  cases h with
  | keyed payload =>
      by_cases hident : ∃ ident, NamesIdent payload ident
      · obtain ⟨ident, hident⟩ := hident
        exact ⟨ident, .payload hident⟩
      · exact ⟨variant, .keyed fun ident h => hident ⟨ident, h⟩⟩
  | tuple ident => exact ⟨variant, .tuple ident⟩
  | named ident => exact ⟨variant, .named ident⟩

namespace Call

theorem variant?_of_ident {members : List (String × Json)} {ident : String}
    (h : Json.member? "ident" members = some (.string ident)) :
    variant? (.object members) = some ident := by
  simp only [variant?, h, Option.bind_some, Json.text?]

theorem variant?_singleton {key : String} (hkey : key ≠ "ident") (inner : Json) :
    variant? (.object [(key, inner)]) = some (((inner.get? "ident").bind Json.text?).getD key) := by
  have hmember : Json.member? "ident" [(key, inner)] = none := by
    rw [Json.member?, if_neg hkey.symm]
    rfl
  rw [variant?, hmember]
  rfl

theorem bind_text?_eq_none {part : Option Json} (h : ∀ s, part ≠ some (.string s)) :
    part.bind Json.text? = none := by
  rcases part with _ | v
  · rfl
  · cases v with
    | string s => exact absurd rfl (h s)
    | _ => rfl

end Call

theorem JudgedBy.variant? {variant word : String} {data : Json} (h : JudgedBy variant data word)
    (hvariant : variant ≠ "ident") : Call.variant? data = some word := by
  cases h with
  | keyed h =>
      rw [Call.variant?_singleton hvariant, Call.bind_text?_eq_none h]
      rfl
  | payload h =>
      rw [Call.variant?_singleton hvariant, h]
      rfl
  | tuple ident =>
      rw [Call.variant?_singleton (by decide), Json.get?, ident]
      rfl
  | named ident => exact Call.variant?_of_ident ident

/-- Data that encodes a variant decides by one word whether the document says that the call
succeeded. -/
theorem saysSuccess_iff {members : List (String × Json)} {data : Json} {variant word : String}
    (hdata : Json.member? "data" members = some data) (hword : JudgedBy variant data word)
    (hvariant : variant ≠ "ident") :
    SaysSuccess (.object members) ↔
      Json.member? "reverted" members ≠ some (.bool true) ∧ word ∈ Call.successMarkers := by
  have hdecides : (Json.member? "data" members).bind Call.variant? = some word := by
    rw [hdata, Option.bind_some, hword.variant? hvariant]
  constructor
  · rintro ⟨r, d, s, hparts, hreverted, marker, hmarker, hsays⟩
    cases hparts
    rw [hdecides] at hsays
    rcases hsays with hsays | ⟨hnone, -⟩
    · exact ⟨hreverted, Option.some.inj hsays ▸ hmarker⟩
    · cases hnone
  · rintro ⟨hreverted, hmarker⟩
    exact ⟨_, _, _, .object members, hreverted, word, hmarker, .inl hdecides⟩

/-- An output that is an object whose data encodes `Ok` or `Err` is judged as follows, whatever else
the object, the data and the payload hold. If the object decodes as a call, one word decides, unless
the call was reverted: the variant, or the identifier that a payload under the variant names. If it
does not decode, the words of success are searched for in the whole output. -/
theorem callSucceeded_of_variant {output : String} {members : List (String × Json)} {data : Json}
    {variant : String} (houtput : Json.ofText? output = some (.object members))
    (hdata : Json.member? "data" members = some data) (hencodes : Encodes variant data)
    (hvariant : variant = "Ok" ∨ variant = "Err") :
    ∃ word, JudgedBy variant data word ∧
      (Decodes (.object members) → (callSucceeded output = true ↔
        Json.member? "reverted" members ≠ some (.bool true) ∧ word ∈ Call.successMarkers)) ∧
      (¬ Decodes (.object members) → (callSucceeded output = true ↔
        ∃ marker ∈ Call.successMarkers, marker.toList <:+: output.toList)) := by
  obtain ⟨word, hword⟩ := hencodes.exists_judgedBy
  have hident : variant ≠ "ident" := by
    rcases hvariant with rfl | rfl <;> decide
  have hdocument := document?_of_ofText? houtput
  refine ⟨word, hword, fun hdecodes => ?_, fun hdecodes => callSucceeded_of_undecoded ?_⟩
  · rw [callSucceeded_of_decodes hdocument hdecodes, saysSuccess_iff hdata hword hident]
  · intro v hv
    rwa [Option.some.inj (hv.symm.trans hdocument)]

/-- The output of a call that returned an error which names its own identifier. -/
def namedErrorOutput : String :=
  "\x7b\"reverted\":false,\"data\":\x7b\"Err\":\x7b\"ident\":\"Ok\"\x7d\x7d\x7d"

theorem callSucceeded_named_error :
    ∃ members payload, Json.ofText? namedErrorOutput = some (.object members) ∧
      Json.member? "reverted" members = some (.bool false) ∧
      Json.member? "data" members = some (.object [("Err", payload)]) ∧
      callSucceeded namedErrorOutput = true := by
  have houtput : Json.ofText? namedErrorOutput = some (.object
      [("data", .object [("Err", .object [("ident", .string "Ok")])]),
        ("reverted", .bool false)]) := by
    with_unfolding_all rfl
  refine ⟨_, _, houtput, rfl, rfl, ?_⟩
  obtain ⟨word, hword, hjudged, -⟩ := callSucceeded_of_variant houtput rfl (.keyed _) (.inr rfl)
  have hok : word = "Ok" := by
    have hvariant := hword.variant? (by decide)
    cases hvariant
    rfl
  refine (hjudged ⟨_, _, _, .object _, .inr (.inr ⟨false, rfl⟩), .inl rfl⟩).mpr ⟨?_, ?_⟩
  · rintro ⟨⟩
  · rw [hok]
    decide

end NodeTrial.Contract
