import NodeTrial.Polling
import NodeTrial.Proofs.Dialogue.Transcript

namespace NodeTrial

open Dialogue

variable {Question : Type} {Answer : Question → Type} {α : Type}

/-- A poll with some attempts to go got these replies of its probe. After an empty reply it pauses if
another attempt follows, unless pauses are to take no time. -/
inductive Polled (b : PollBudget) (pause : Nat → Dialogue Question Answer Unit)
    (probe : Dialogue Question Answer (Option α)) :
    (left : Nat) → List (Option α) → List (Exchange Question Answer) → Prop
  | spent : Polled b pause probe 0 [] []
  | found {left : Nat} {v : α} {t : List (Exchange Question Answer)}
      (reply : probe.Leads t (some v)) : Polled b pause probe (left + 1) [some v] t
  | empty {left : Nat} {rs : List (Option α)} {t u v : List (Exchange Question Answer)}
      (reply : probe.Leads t none)
      (between : if left ≠ 0 ∧ b.interval ≠ 0 then (pause b.interval).Leads u () else u = [])
      (rest : Polled b pause probe left rs v) :
      Polled b pause probe (left + 1) (none :: rs) (t ++ (u ++ v))

variable {b : PollBudget} {pause : Nat → Dialogue Question Answer Unit}
  {probe : Dialogue Question Answer (Option α)} {left attempt n : Nat} {rs : List (Option α)}
  {found : Option α} {t : List (Exchange Question Answer)}

/-- The attempts of a poll, with what they came to and which attempt was the last. -/
theorem pollFrom_leads (h : (pollFrom b pause probe left attempt).Leads t (found, n)) :
    ∃ rs, Polled b pause probe left rs t ∧
      ((found = none ∧ rs = List.replicate left none ∧ n = b.maxAttempts) ∨
        ∃ k v, k < left ∧ found = some v ∧ rs = List.replicate k none ++ [some v] ∧
          n = attempt + k) := by
  induction left generalizing attempt t with
  | zero =>
      obtain ⟨rfl, hdone⟩ := leads_pure_iff.mp h
      obtain ⟨rfl, rfl⟩ := Prod.mk.inj hdone
      exact ⟨[], .spent, .inl ⟨rfl, rfl, rfl⟩⟩
  | succ left ih =>
      obtain ⟨t₁, t₂, reply, rfl, hreply, hafter⟩ := leads_bind_iff.mp h
      cases reply with
      | some v =>
          obtain ⟨rfl, hdone⟩ := leads_pure_iff.mp hafter
          obtain ⟨rfl, rfl⟩ := Prod.mk.inj hdone
          rw [List.append_nil]
          exact ⟨[some v], .found hreply, .inr ⟨0, v, Nat.succ_pos left, rfl, rfl, rfl⟩⟩
      | none =>
          have hpaused : ∃ u w, t₂ = u ++ w ∧
              (if left ≠ 0 ∧ b.interval ≠ 0 then (pause b.interval).Leads u () else u = []) ∧
              (pollFrom b pause probe left (attempt + 1)).Leads w (found, n) := by
            dsimp only at hafter
            split at hafter
            · rename_i hpause
              obtain ⟨u, w, _, rfl, hu, hw⟩ := leads_bind_iff.mp hafter
              exact ⟨u, w, rfl, by rwa [if_pos hpause], hw⟩
            · rename_i hpause
              exact ⟨[], t₂, rfl, by rw [if_neg hpause], hafter⟩
          obtain ⟨u, w, rfl, hu, hw⟩ := hpaused
          obtain ⟨rs, hrest, hend⟩ := ih hw
          refine ⟨none :: rs, .empty hreply hu hrest, ?_⟩
          obtain ⟨hnone, rfl, hn⟩ | ⟨k, v, hk, hv, rfl, hn⟩ := hend
          · exact .inl ⟨hnone, rfl, hn⟩
          · exact .inr ⟨k + 1, v, Nat.succ_lt_succ hk, hv, rfl, by omega⟩

theorem Polled.exists_leads {r : Option α} (h : Polled b pause probe left rs t) (hr : r ∈ rs) :
    ∃ u, u <:+: t ∧ probe.Leads u r := by
  induction h with
  | spent => cases hr
  | found reply =>
      obtain rfl := List.mem_singleton.mp hr
      exact ⟨_, List.infix_rfl, reply⟩
  | empty reply between rest ih =>
      cases hr with
      | head => exact ⟨_, (List.prefix_append _ _).isInfix, reply⟩
      | tail _ hr =>
          obtain ⟨u, hu, hreply⟩ := ih hr
          rw [← List.append_assoc]
          exact ⟨u, hu.trans (List.suffix_append _ _).isInfix, hreply⟩

theorem Polled.filterMap_eq {β : Type} {read : Exchange Question Answer → Option β}
    {value : β → Option α} (h : Polled b pause probe left rs t)
    (hprobe : ∀ u r, probe.Leads u r → (u.filterMap read).map value = [r])
    (hpause : ∀ u, (pause b.interval).Leads u () → u.filterMap read = []) :
    (t.filterMap read).map value = rs := by
  induction h with
  | spent => rfl
  | found reply => exact hprobe _ _ reply
  | @empty left rs t u v reply between rest ih =>
      have hbetween : u.filterMap read = [] := by
        split at between
        · exact hpause u between
        · rw [between]
          rfl
      rw [List.filterMap_append, List.filterMap_append, hbetween, List.nil_append,
        List.map_append, hprobe _ _ reply, ih]
      rfl

end NodeTrial
