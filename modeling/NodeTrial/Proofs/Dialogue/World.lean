import NodeTrial.Proofs.Dialogue.Transcript

/-!
Computations in a world that changes while it answers. A world is given by its states and by a
relation that tells which answers it may give in which state and what state it is in then, so that
the choices of the world are left open.
-/

namespace NodeTrial

namespace Dialogue

variable {Question : Type} {Answer : Question → Type} {α β σ : Type}

/-- What a world may answer to a question, with its states before and after. -/
abbrev World (Question : Type) (Answer : Question → Type) (σ : Type) : Type :=
  (q : Question) → σ → Answer q → σ → Prop

/-- A world may answer as a transcript tells, from one state to another. -/
def Follows (world : World Question Answer σ) : σ → List (Exchange Question Answer) → σ → Prop
  | s, [], s' => s' = s
  | s, e :: t, s' => ∃ m, world e.1 s e.2 m ∧ Follows world m t s'

theorem follows_append {world : World Question Answer σ} {s s' : σ}
    {t u : List (Exchange Question Answer)} :
    Follows world s (t ++ u) s' ↔ ∃ m, Follows world s t m ∧ Follows world m u s' := by
  induction t generalizing s with
  | nil =>
      constructor
      · intro h
        exact ⟨s, rfl, h⟩
      · rintro ⟨m, rfl, h⟩
        exact h
  | cons e t ih =>
      constructor
      · rintro ⟨m, he, h⟩
        obtain ⟨n, ht, hu⟩ := ih.mp h
        exact ⟨n, ⟨m, he, ht⟩, hu⟩
      · rintro ⟨n, ⟨m, he, ht⟩, hu⟩
        exact ⟨m, he, ih.mpr ⟨n, ht, hu⟩⟩

/-- A computation may come to a value in a world, from one state to another. -/
def Plays (world : World Question Answer σ) (d : Dialogue Question Answer α) (s : σ) (a : α)
    (s' : σ) : Prop :=
  ∃ t, d.Leads t a ∧ Follows world s t s'

variable {world : World Question Answer σ} {s s' : σ}

theorem plays_pure_iff {a b : α} :
    (pure a : Dialogue Question Answer α).Plays world s b s' ↔ b = a ∧ s' = s := by
  constructor
  · rintro ⟨t, h, hs⟩
    obtain ⟨rfl, rfl⟩ := leads_pure_iff.mp h
    exact ⟨rfl, hs⟩
  · rintro ⟨rfl, rfl⟩
    exact ⟨[], .done _, rfl⟩

theorem plays_question_iff {q : Question} {b : Answer q} :
    (question q).Plays world s b s' ↔ world q s b s' := by
  constructor
  · rintro ⟨t, h, hs⟩
    obtain rfl := leads_question_iff.mp h
    obtain ⟨m, hq, rfl⟩ := hs
    exact hq
  · intro h
    exact ⟨_, leads_question_iff.mpr rfl, s', h, rfl⟩

theorem plays_bind_iff {d : Dialogue Question Answer α} {f : α → Dialogue Question Answer β}
    {b : β} :
    (d >>= f).Plays world s b s' ↔ ∃ a m, d.Plays world s a m ∧ (f a).Plays world m b s' := by
  constructor
  · rintro ⟨t, h, hs⟩
    obtain ⟨t₁, t₂, a, rfl, hd, hf⟩ := leads_bind_iff.mp h
    obtain ⟨m, hm, hs'⟩ := follows_append.mp hs
    exact ⟨a, m, ⟨t₁, hd, hm⟩, ⟨t₂, hf, hs'⟩⟩
  · rintro ⟨a, m, ⟨t₁, hd, hm⟩, ⟨t₂, hf, hs'⟩⟩
    exact ⟨t₁ ++ t₂, leads_bind_iff.mpr ⟨t₁, t₂, a, rfl, hd, hf⟩, follows_append.mpr ⟨m, hm, hs'⟩⟩

/-- The world in which each question is carried out by a computation in another world. -/
def served {Question' : Type} {Answer' : Question' → Type} (world : World Question Answer σ)
    (handle : (q : Question') → Dialogue Question Answer (Answer' q)) : World Question' Answer' σ :=
  fun q s b s' => (handle q).Plays world s b s'

/-- To carry the questions of a computation out is to play it in the world that they make. -/
theorem plays_run_iff {Question' : Type} {Answer' : Question' → Type}
    {handle : (q : Question') → Dialogue Question Answer (Answer' q)}
    {d : Dialogue Question' Answer' α} {a : α} :
    (d.run handle).Plays world s a s' ↔ d.Plays (served world handle) s a s' := by
  induction d generalizing s with
  | done b => exact plays_pure_iff.trans plays_pure_iff.symm
  | ask q next ih =>
      have hask : (ask q next).Plays (served world handle) s a s' ↔
          (question q >>= next).Plays (served world handle) s a s' := Iff.rfl
      rw [hask, run, plays_bind_iff, plays_bind_iff]
      simp only [ih, plays_question_iff]
      rfl

/-- What the answers to some questions preserve is preserved by a transcript of such questions. -/
theorem Follows.preserves {P : Question → Prop} (I : σ → Prop)
    {t : List (Exchange Question Answer)}
    (hstep : ∀ q s b s', P q → world q s b s' → I s → I s') (ht : ∀ e ∈ t, P e.1) (hs : I s)
    (h : Follows world s t s') : I s' := by
  induction t generalizing s with
  | nil =>
      obtain rfl := h
      exact hs
  | cons e t ih =>
      obtain ⟨he, hrest⟩ := List.forall_mem_cons.mp ht
      obtain ⟨m, hm, hfollows⟩ := h
      exact ih hrest (hstep e.1 s e.2 m he hm hs) hfollows

theorem Follows.exists_step (I : σ → Prop) {t : List (Exchange Question Answer)}
    (h : Follows world s t s') (hs : I s) (hs' : ¬ I s') :
    ∃ t₁ e t₂ m m', t = t₁ ++ e :: t₂ ∧ Follows world s t₁ m ∧ I m ∧ world e.1 m e.2 m' ∧ ¬ I m' ∧
      Follows world m' t₂ s' := by
  induction t generalizing s with
  | nil =>
      obtain rfl := h
      exact absurd hs hs'
  | cons e t ih =>
      obtain ⟨m, he, hrest⟩ := h
      by_cases hm : I m
      · obtain ⟨t₁, e', t₂, n, n', rfl, hbefore, hn, hstep, hn', hafter⟩ := ih hrest hm
        exact ⟨e :: t₁, e', t₂, n, n', rfl, ⟨m, he, hbefore⟩, hn, hstep, hn', hafter⟩
      · exact ⟨[], e, t, s, m, rfl, rfl, hs, he, hm, hrest⟩

theorem Plays.preserves {d : Dialogue Question Answer α} {a : α} (h : d.Plays world s a s')
    (I : σ → Prop) (hstep : ∀ q s b s', world q s b s' → I s → I s') (hs : I s) : I s' := by
  obtain ⟨t, -, hfollows⟩ := h
  exact Follows.preserves (P := fun _ => True) I (fun q s b s' _ => hstep q s b s')
    (fun _ _ => trivial) hs hfollows

theorem Plays.mono {world' : World Question Answer σ} {d : Dialogue Question Answer α} {a : α}
    (h : d.Plays world s a s') (hmono : ∀ q s b s', world q s b s' → world' q s b s') :
    d.Plays world' s a s' := by
  obtain ⟨t, hleads, hfollows⟩ := h
  refine ⟨t, hleads, ?_⟩
  clear hleads
  induction t generalizing s with
  | nil => exact hfollows
  | cons e t ih =>
      obtain ⟨m, he, hrest⟩ := hfollows
      exact ⟨m, hmono e.1 s e.2 m he, ih hrest⟩

end Dialogue

end NodeTrial
