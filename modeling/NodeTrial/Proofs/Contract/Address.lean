import NodeTrial.Contract.Address
import NodeTrial.Proofs.Contract.Document
import NodeTrial.Proofs.Json.Members
import Mathlib.Data.List.Nodup

namespace NodeTrial.Contract

open Json

/-- An address stands under one of its names, and none of the other names is present. -/
def StandsAlone (members : List (String × Json)) (address : String) : Prop :=
  ∃ name ∈ addressNames, member? name members = some (.string address) ∧
    ∀ other ∈ addressNames, other ≠ name → member? other members = none

/-- Some of the names of an address are present, and all that are hold one address. -/
structure Carries (members : List (String × Json)) (address : String) : Prop where
  present : ∃ name ∈ addressNames, member? name members ≠ none
  same : ∀ name ∈ addressNames, ∀ v, member? name members = some v → v = .string address

def presentNames (members : List (String × Json)) : List String :=
  addressNames.filter fun name => (member? name members).isSome

theorem eq_singleton_of_nodup {α : Type} {l : List α} {a : α} (hl : l.Nodup)
    (h : ∀ b, b ∈ l ↔ b = a) : l = [a] := by
  refine List.perm_singleton.mp ((List.perm_ext_iff_of_nodup hl (List.nodup_singleton a)).mpr ?_)
  intro b
  rw [h, List.mem_singleton]

theorem addressOf?_eq_some_iff {members : List (String × Json)} {address : String}
    (hmembers : Ordered members) :
    addressOf? (.object members) = some address ↔ StandsAlone members address := by
  have hmem {m : String × Json} : m ∈ members.filter (addressNames.contains ·.1) ↔
      m.1 ∈ addressNames ∧ member? m.1 members = some m.2 := by
    rw [List.mem_filter, List.contains_iff_mem, ← hmembers.mem_iff, and_comm]
  constructor
  · intro h
    rw [addressOf?] at h
    split at h
    next name s hone =>
      cases h
      rw [hone] at hmem
      obtain ⟨hname, hvalue⟩ := hmem.mp List.mem_cons_self
      refine ⟨name, hname, hvalue, fun other hother hne => ?_⟩
      cases hfound : member? other members with
      | none => rfl
      | some v =>
          have hsame := List.mem_singleton.mp (hmem (m := (other, v)).mpr ⟨hother, hfound⟩)
          exact absurd (congrArg Prod.fst hsame) hne
    next => cases h
  · rintro ⟨name, hname, hvalue, halone⟩
    have hone : members.filter (addressNames.contains ·.1) = [(name, .string address)] := by
      refine eq_singleton_of_nodup (hmembers.nodup.filter _) fun (other, v) => ?_
      rw [hmem]
      constructor
      · rintro ⟨hother, hfound⟩
        by_cases hsame : other = name
        · subst hsame
          exact congrArg (other, ·) (Option.some.inj (hfound.symm.trans hvalue))
        · rw [halone other hother hsame] at hfound
          cases hfound
      · intro hsame
        cases hsame
        exact ⟨hname, hvalue⟩
    rw [addressOf?, hone]

theorem mem_presentNames {members : List (String × Json)} {name : String} :
    name ∈ presentNames members ↔ name ∈ addressNames ∧ member? name members ≠ none := by
  rw [presentNames, List.mem_filter, Option.isSome_iff_ne_none]

theorem nodup_presentNames (members : List (String × Json)) : (presentNames members).Nodup :=
  List.Nodup.filter _ (by decide)

theorem Carries.standsAlone_iff {members : List (String × Json)} {address address' : String}
    (h : Carries members address) :
    StandsAlone members address' ↔ (presentNames members).length = 1 ∧ address' = address := by
  constructor
  · rintro ⟨name, hname, hvalue, halone⟩
    have hone : presentNames members = [name] := by
      refine eq_singleton_of_nodup (nodup_presentNames members) fun other => ?_
      rw [mem_presentNames]
      constructor
      · rintro ⟨hother, hfound⟩
        by_contra hne
        exact hfound (halone other hother hne)
      · rintro rfl
        exact ⟨hname, by simp [hvalue]⟩
    have haddress := h.same name hname _ hvalue
    exact ⟨by simp [hone], Json.string.inj haddress⟩
  · rintro ⟨hlength, rfl⟩
    obtain ⟨name, hone⟩ := List.length_eq_one_iff.mp hlength
    have honly {other : String} : other ∈ addressNames ∧ member? other members ≠ none ↔
        other = name := by
      rw [← mem_presentNames, hone, List.mem_singleton]
    obtain ⟨hname, hfound⟩ := honly.mpr rfl
    obtain ⟨v, hv⟩ := Option.ne_none_iff_exists'.mp hfound
    refine ⟨name, hname, by rw [hv, h.same name hname v hv], fun other hother hne => ?_⟩
    by_contra hpresent
    exact hne (honly.mp ⟨hother, hpresent⟩)

/-- The address in an output whose document is an object is the text that stands alone under one of
the names, if it is not blank. So an address that the document carries is found exactly if one name is
present, and nothing is found if two are. -/
theorem instantiatedAddress?_of_object {output : String} {members : List (String × Json)}
    (h : document? output = some (.object members)) :
    (∀ address, instantiatedAddress? output = some address ↔
      StandsAlone members address ∧ Text.blank address = false) ∧
    ∀ address, Carries members address → Text.blank address = false →
      instantiatedAddress? output =
        if (presentNames members).length = 1 then some address else none := by
  obtain ⟨cs, rest, hread⟩ := readFront_of_document? h
  have hmembers : Ordered members := readValue_ordered hread
  have hfound : ∀ address, instantiatedAddress? output = some address ↔
      StandsAlone members address ∧ Text.blank address = false := by
    intro address
    rw [instantiatedAddress?, h, Option.filter_eq_some_iff, addressOf?_eq_some_iff hmembers,
      Bool.not_eq_true']
  refine ⟨hfound, fun address hcarries hblank => Option.ext fun address' => ?_⟩
  rw [hfound, hcarries.standsAlone_iff]
  split
  next hone =>
    rw [Option.some_inj]
    constructor
    · rintro ⟨⟨-, rfl⟩, -⟩
      rfl
    · rintro rfl
      exact ⟨⟨hone, rfl⟩, hblank⟩
  next hone =>
    refine ⟨fun hsome => absurd hsome.1.1 hone, fun hsome => (nomatch hsome)⟩

/-- The output of a tool that shows the address of a new contract under two names. -/
def doubledOutput : String :=
  "\x7b\"address\":\"5Grw\",\"contract\":\"5Grw\"\x7d"

theorem instantiatedAddress?_doubled :
    ∃ members, document? doubledOutput = some (.object members) ∧ Carries members "5Grw" ∧
      Text.blank "5Grw" = false ∧ instantiatedAddress? doubledOutput = none := by
  have hdocument : document? doubledOutput = some (.object
      [("address", .string "5Grw"), ("contract", .string "5Grw")]) := by
    with_unfolding_all rfl
  have hcarries : Carries [("address", .string "5Grw"), ("contract", .string "5Grw")] "5Grw" := by
    refine ⟨⟨"address", by decide, by simp [member?]⟩, fun name _ v hv => ?_⟩
    rw [member?, member?] at hv
    split at hv
    next => exact (Option.some.inj hv).symm
    next =>
      split at hv
      next => exact (Option.some.inj hv).symm
      next => cases hv
  refine ⟨_, hdocument, hcarries, by decide, ?_⟩
  rw [(instantiatedAddress?_of_object hdocument).2 "5Grw" hcarries (by decide)]
  rfl

end NodeTrial.Contract
