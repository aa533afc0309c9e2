import NodeTrial.Proofs.Dialogue.World

namespace NodeTrial

namespace Dialogue

variable {Question : Type} {Answer : Question → Type} {α σ : Type}

/-- The world in which a function gives the answer to a question and the state after it. -/
def functional (f : (q : Question) → σ → Answer q × σ) : World Question Answer σ :=
  fun q s b s' => f q s = (b, s')

theorem plays_functional_run (f : (q : Question) → σ → Answer q × σ)
    (d : Dialogue Question Answer α) (s : σ) :
    d.Plays (functional f) s ((d.run (m := StateM σ) f).run s).1
      ((d.run (m := StateM σ) f).run s).2 := by
  induction d generalizing s with
  | done a => exact ⟨[], .done a, rfl⟩
  | ask q next ih =>
      obtain ⟨t, h, hfollows⟩ := ih (f q s).1 (f q s).2
      exact ⟨⟨q, (f q s).1⟩ :: t, .ask h, (f q s).2, rfl, hfollows⟩

theorem exists_follows_functional (f : (q : Question) → σ → Answer q × σ)
    (d : Dialogue Question Answer α) (s : σ) :
    ∃ t a s', d.Leads t a ∧ Follows (functional f) s t s' := by
  obtain ⟨t, h, hfollows⟩ := plays_functional_run f d s
  exact ⟨t, _, _, h, hfollows⟩

variable {P : Question → Prop} {f g : (q : Question) → σ → Answer q × σ}

theorem Follows.determined {s m n : σ} {t : List (Exchange Question Answer)}
    (ht : ∀ e ∈ t, f e.1 = g e.1) (hf : Follows (functional f) s t m)
    (hg : Follows (functional g) s t n) : n = m := by
  induction t generalizing s with
  | nil => exact hg.trans hf.symm
  | cons e t ih =>
      obtain ⟨hfirst, hrest⟩ := List.forall_mem_cons.mp ht
      obtain ⟨s₁, hf₁, hf⟩ := hf
      obtain ⟨s₂, hg₁, hg⟩ := hg
      have hstep : (e.2, s₂) = (e.2, s₁) := by
        rw [← hg₁, ← hf₁, hfirst]
      obtain rfl := congrArg Prod.snd hstep
      exact ih hrest hf hg

theorem Asks.determined {d : Dialogue Question Answer α} {a b : α} {s m n : σ}
    {t u : List (Exchange Question Answer)} (hd : d.Asks P) (hfg : ∀ q, P q → f q = g q)
    (h : d.Leads t a) (hf : Follows (functional f) s t m)
    (k : d.Leads u b) (hg : Follows (functional g) s u n) : u = t ∧ b = a ∧ n = m := by
  induction h generalizing s u with
  | done a =>
      cases k
      exact ⟨rfl, rfl, hg.trans hf.symm⟩
  | @ask q next c t a rest ih =>
      cases k with
      | @ask _ _ c' u _ rest' =>
          obtain ⟨s₁, hf₁, hf⟩ := hf
          obtain ⟨s₂, hg₁, hg⟩ := hg
          have hfirst : (c', s₂) = (c, s₁) := by
            rw [← hg₁, ← hf₁, hfg q hd.1]
          obtain ⟨rfl, rfl⟩ := Prod.mk.inj hfirst
          obtain ⟨rfl, rfl, rfl⟩ := ih (hd.2 _) hf rest' hg
          exact ⟨rfl, rfl, rfl⟩

end Dialogue

end NodeTrial
