import NodeTrial.Proofs.Json.Extent
import Mathlib.Data.String.Basic

namespace NodeTrial.Json

/-- Members stand in the order of their names, one member a name. -/
def Ordered (members : List (String × Json)) : Prop := members.Pairwise fun m m' => m.1 < m'.1

theorem mem_of_mem_insertMember {name : String} {v : Json} {members : List (String × Json)}
    {m : String × Json} (h : m ∈ insertMember name v members) : m = (name, v) ∨ m ∈ members := by
  induction members with
  | nil => exact .inl (List.mem_singleton.mp h)
  | cons other members ih =>
      rw [insertMember] at h
      split at h
      next => exact (List.mem_cons.mp h).imp_right (List.mem_cons_of_mem other)
      next =>
        split at h
        next => exact List.mem_cons.mp h
        next =>
          rcases List.mem_cons.mp h with rfl | h
          · exact .inr List.mem_cons_self
          · exact (ih h).imp_right (List.mem_cons_of_mem other)

theorem Ordered.insertMember {members : List (String × Json)} (h : Ordered members) (name : String)
    (v : Json) : Ordered (insertMember name v members) := by
  induction members with
  | nil => exact List.pairwise_singleton _ _
  | cons other members ih =>
      obtain ⟨hother, hmembers⟩ := List.pairwise_cons.mp h
      rw [Json.insertMember]
      split
      next hsame => exact List.pairwise_cons.mpr ⟨fun m hm => hsame ▸ hother m hm, hmembers⟩
      next hne =>
        split
        next hless =>
          refine List.pairwise_cons.mpr ⟨fun m hm => ?_, h⟩
          rcases List.mem_cons.mp hm with rfl | hm
          · exact hless
          · exact hless.trans (hother m hm)
        next hless =>
          refine List.pairwise_cons.mpr ⟨fun m hm => ?_, ih hmembers⟩
          rcases mem_of_mem_insertMember hm with rfl | hm
          · exact lt_of_le_of_ne (not_lt.mp hless) (Ne.symm hne)
          · exact hother m hm

theorem mem_of_member? {name : String} {v : Json} {members : List (String × Json)}
    (h : member? name members = some v) : (name, v) ∈ members := by
  induction members with
  | nil => cases h
  | cons m members ih =>
      rw [member?] at h
      split at h
      next hsame =>
        cases h
        rw [hsame]
        exact List.mem_cons_self
      next => exact List.mem_cons_of_mem m (ih h)

theorem Ordered.mem_iff {members : List (String × Json)} (h : Ordered members) {name : String}
    {v : Json} : (name, v) ∈ members ↔ member? name members = some v := by
  refine ⟨fun hm => ?_, mem_of_member?⟩
  induction members with
  | nil => cases hm
  | cons m members ih =>
      obtain ⟨hlater, hmembers⟩ := List.pairwise_cons.mp h
      rw [member?]
      rcases List.mem_cons.mp hm with rfl | hm
      · exact if_pos rfl
      · rw [if_neg (hlater _ hm).ne', ih hmembers hm]

theorem Ordered.nodup {members : List (String × Json)} (h : Ordered members) : members.Nodup :=
  h.imp fun hless hsame => hless.ne (congrArg Prod.fst hsame)

theorem readSeries_keeps {β σ : Type} {entry : Read β} {closing : Char} {add : σ → β → σ}
    (P : σ → Prop) (hadd : ∀ acc b, P acc → P (add acc b)) {bound : Nat} {acc a : σ}
    {cs rest : List Char} (hacc : P acc)
    (h : readSeries entry closing add bound acc cs = some (a, rest)) : P a := by
  induction bound generalizing acc cs with
  | zero => cases h
  | succ bound ih =>
      obtain ⟨⟨b, between⟩, -, hrest⟩ := Option.bind_eq_some_iff.mp h
      dsimp only at hrest
      split at hrest
      next =>
        split at hrest
        next => exact ih (hadd acc b hacc) hrest
        next =>
          split at hrest
          next =>
            cases hrest
            exact hadd acc b hacc
          next => cases hrest
      next => cases hrest

theorem readEnclosed_keeps {β : Type} {closing : Char} {nothing b : β} {series : Read β}
    {cs rest : List Char} (P : β → Prop) (hnothing : P nothing)
    (hseries : ∀ cs b rest, series cs = some (b, rest) → P b)
    (h : readEnclosed closing nothing series cs = some (b, rest)) : P b := by
  unfold readEnclosed at h
  split at h
  next =>
    split at h
    next =>
      cases h
      exact hnothing
    next => exact hseries _ b rest h
  next => exact hseries _ b rest h

theorem readValue_ordered {fuel depth : Nat} {cs rest : List Char} {members : List (String × Json)}
    (h : readValue fuel (depth + 1) cs = some (.object members, rest)) : Ordered members := by
  obtain ⟨tail, rfl⟩ := exists_brace_of_readValue h
  rw [readValue_brace] at h
  obtain ⟨⟨ms, tail'⟩, hms, heq⟩ := Option.map_eq_some_iff.mp h
  cases heq
  refine readEnclosed_keeps Ordered List.Pairwise.nil (fun cs ms rest hseries => ?_) hms
  rw [readMembers_eq] at hseries
  exact readSeries_keeps Ordered (fun _ m hacc => hacc.insertMember m.1 m.2) List.Pairwise.nil
    hseries

end NodeTrial.Json
