import NodeTrial.Dialogue

/-!
Transcripts of computations. A transcript lists the questions that were asked, each with the answer
that it was given, so that a statement about all transcripts is one about every surroundings,
whatever they answer.
-/

namespace NodeTrial

/-- A question together with an answer to it. -/
abbrev Exchange (Question : Type) (Answer : Question → Type) : Type :=
  (q : Question) × Answer q

namespace Dialogue

variable {Question : Type} {Answer : Question → Type} {α β σ : Type}

/-- A computation comes to a value after exactly the exchanges of a transcript. -/
inductive Leads : Dialogue Question Answer α → List (Exchange Question Answer) → α → Prop
  | done (a : α) : Leads (done a) [] a
  | ask {q : Question} {next : Answer q → Dialogue Question Answer α} {b : Answer q}
      {t : List (Exchange Question Answer)} {a : α} (rest : Leads (next b) t a) :
      Leads (ask q next) (⟨q, b⟩ :: t) a

theorem leads_pure_iff {a b : α} {t : List (Exchange Question Answer)} :
    (pure a : Dialogue Question Answer α).Leads t b ↔ t = [] ∧ b = a := by
  constructor
  · intro h
    cases h
    exact ⟨rfl, rfl⟩
  · rintro ⟨rfl, rfl⟩
    exact .done _

theorem leads_ask_iff {q : Question} {next : Answer q → Dialogue Question Answer α}
    {t : List (Exchange Question Answer)} {a : α} :
    (ask q next).Leads t a ↔ ∃ b t', t = ⟨q, b⟩ :: t' ∧ (next b).Leads t' a := by
  constructor
  · intro h
    cases h with
    | ask rest => exact ⟨_, _, rfl, rest⟩
  · rintro ⟨b, t', rfl, rest⟩
    exact .ask rest

theorem leads_question_iff {q : Question} {t : List (Exchange Question Answer)} {b : Answer q} :
    (question q).Leads t b ↔ t = [⟨q, b⟩] := by
  rw [question, leads_ask_iff]
  constructor
  · rintro ⟨c, t', rfl, h⟩
    obtain ⟨rfl, rfl⟩ := leads_pure_iff.mp h
    rfl
  · rintro rfl
    exact ⟨b, [], rfl, .done b⟩

theorem leads_bind_iff {d : Dialogue Question Answer α} {f : α → Dialogue Question Answer β}
    {t : List (Exchange Question Answer)} {b : β} :
    (d >>= f).Leads t b ↔ ∃ t₁ t₂ a, t = t₁ ++ t₂ ∧ d.Leads t₁ a ∧ (f a).Leads t₂ b := by
  change (d.bind f).Leads t b ↔ _
  induction d generalizing t with
  | done c =>
      constructor
      · intro h
        exact ⟨[], t, c, rfl, .done c, h⟩
      · rintro ⟨t₁, t₂, a, rfl, h, hf⟩
        cases h
        exact hf
  | ask q next ih =>
      rw [bind, leads_ask_iff]
      constructor
      · rintro ⟨c, t', rfl, h⟩
        obtain ⟨t₁, t₂, a, rfl, hd, hf⟩ := (ih c).mp h
        exact ⟨⟨q, c⟩ :: t₁, t₂, a, rfl, .ask hd, hf⟩
      · rintro ⟨t₁, t₂, a, rfl, h, hf⟩
        obtain ⟨c, t', rfl, hd⟩ := leads_ask_iff.mp h
        exact ⟨c, t' ++ t₂, rfl, (ih c).mpr ⟨t', t₂, a, rfl, hd, hf⟩⟩

theorem Leads.unique {d : Dialogue Question Answer α} {t : List (Exchange Question Answer)} {a b : α}
    (h : d.Leads t a) (h' : d.Leads t b) : a = b := by
  induction h with
  | done a =>
      cases h'
      rfl
  | ask rest ih =>
      cases h' with
      | ask rest' => exact ih rest'

theorem exists_leads_run (handle : (q : Question) → StateM σ (Answer q))
    (d : Dialogue Question Answer α) (w : σ) : ∃ t, d.Leads t ((d.run handle).run w).1 := by
  induction d generalizing w with
  | done a => exact ⟨[], .done a⟩
  | ask q next ih =>
      obtain ⟨t, h⟩ := ih ((handle q).run w).1 ((handle q).run w).2
      exact ⟨⟨q, ((handle q).run w).1⟩ :: t, .ask h⟩

/-- Surroundings that always give the same answer to a question lead a computation to some value. -/
theorem exists_leads_answers (answer : (q : Question) → Answer q)
    (d : Dialogue Question Answer α) : ∃ t a, d.Leads t a ∧ ∀ e ∈ t, e.2 = answer e.1 := by
  induction d with
  | done a => exact ⟨[], a, .done a, List.forall_mem_nil _⟩
  | ask q next ih =>
      obtain ⟨t, a, h, hanswers⟩ := ih (answer q)
      exact ⟨⟨q, answer q⟩ :: t, a, .ask h, List.forall_mem_cons.mpr ⟨rfl, hanswers⟩⟩

/-- A computation asks only questions of some kind, whatever it is answered. -/
def Asks (P : Question → Prop) : Dialogue Question Answer α → Prop
  | done _ => True
  | ask q next => P q ∧ ∀ a, (next a).Asks P

theorem Asks.question {P : Question → Prop} {q : Question} (h : P q) :
    (question q : Dialogue Question Answer (Answer q)).Asks P :=
  ⟨h, fun _ => trivial⟩

theorem Asks.bind {P : Question → Prop} {d : Dialogue Question Answer α}
    {f : α → Dialogue Question Answer β} (hd : d.Asks P) (hf : ∀ a, (f a).Asks P) :
    (d >>= f).Asks P := by
  change (d.bind f).Asks P
  induction d with
  | done a => exact hf a
  | ask q next ih => exact ⟨hd.1, fun a => ih a (hd.2 a)⟩

theorem Asks.of_forall {P : Question → Prop} {d : Dialogue Question Answer α} (h : ∀ q, P q) :
    d.Asks P := by
  induction d with
  | done a => trivial
  | ask q next ih => exact ⟨h q, ih⟩

theorem Asks.mono {P Q : Question → Prop} {d : Dialogue Question Answer α} (h : d.Asks P)
    (hPQ : ∀ q, P q → Q q) : d.Asks Q := by
  induction d with
  | done a => trivial
  | ask q next ih => exact ⟨hPQ q h.1, fun a => ih a (h.2 a)⟩

/-- A computation comes only to values of some kind, whatever it is answered. -/
def Yields (P : α → Prop) : Dialogue Question Answer α → Prop
  | done a => P a
  | ask _ next => ∀ a, (next a).Yields P

theorem Yields.bind {P : β → Prop} {d : Dialogue Question Answer α}
    {f : α → Dialogue Question Answer β} (hf : ∀ a, (f a).Yields P) : (d >>= f).Yields P := by
  change (d.bind f).Yields P
  induction d with
  | done a => exact hf a
  | ask q next ih => exact ih

theorem Yields.of_leads {P : α → Prop} {d : Dialogue Question Answer α}
    {t : List (Exchange Question Answer)} {a : α} (hd : d.Yields P) (h : d.Leads t a) : P a := by
  induction h with
  | done a => exact hd
  | ask rest ih => exact ih (hd _)

theorem Asks.of_leads {P : Question → Prop} {d : Dialogue Question Answer α}
    {t : List (Exchange Question Answer)} {a : α} (hd : d.Asks P) (h : d.Leads t a) :
    ∀ e ∈ t, P e.1 := by
  induction h with
  | done a => exact List.forall_mem_nil _
  | ask rest ih => exact List.forall_mem_cons.mpr ⟨hd.1, ih (hd.2 _)⟩

theorem Asks.of_forall_leads {P : Question → Prop} {d : Dialogue Question Answer α}
    (answer : (q : Question) → Answer q) (h : ∀ t a, d.Leads t a → ∀ e ∈ t, P e.1) : d.Asks P := by
  induction d with
  | done a => trivial
  | ask q next ih =>
      constructor
      · obtain ⟨t, a, hleads, -⟩ := exists_leads_answers answer (next (answer q))
        exact h _ a (.ask hleads) ⟨q, answer q⟩ List.mem_cons_self
      · intro b
        refine ih b fun t a hleads e he => ?_
        exact h _ a (.ask hleads) e (List.mem_cons_of_mem _ he)

end Dialogue

end NodeTrial
