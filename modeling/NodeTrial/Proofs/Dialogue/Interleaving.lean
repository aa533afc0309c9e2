import NodeTrial.Proofs.Dialogue.World

namespace NodeTrial

namespace Dialogue

variable {Question : Type} {Answer : Question → Type} {α β σ : Type}

/-- A computation has got, by the exchanges of a transcript, to what is left of it. -/
inductive Advances :
    Dialogue Question Answer α → List (Exchange Question Answer) → Dialogue Question Answer α → Prop
  | here (d : Dialogue Question Answer α) : Advances d [] d
  | ask {q : Question} {next : Answer q → Dialogue Question Answer α} {b : Answer q}
      {t : List (Exchange Question Answer)} {left : Dialogue Question Answer α}
      (more : Advances (next b) t left) : Advances (ask q next) (⟨q, b⟩ :: t) left

theorem advances_bind_iff {d : Dialogue Question Answer α} {f : α → Dialogue Question Answer β}
    {t : List (Exchange Question Answer)} {left : Dialogue Question Answer β} :
    (d >>= f).Advances t left ↔ (∃ d', d.Advances t d' ∧ left = d' >>= f) ∨
      ∃ t₁ t₂ a, t = t₁ ++ t₂ ∧ d.Leads t₁ a ∧ (f a).Advances t₂ left := by
  change (d.bind f).Advances t left ↔ _
  induction d generalizing t with
  | done c =>
      constructor
      · intro h
        exact .inr ⟨[], t, c, rfl, .done c, h⟩
      · rintro (⟨d', h, rfl⟩ | ⟨t₁, t₂, a, rfl, h, hf⟩)
        · cases h
          exact .here _
        · cases h
          exact hf
  | ask q next ih =>
      constructor
      · intro h
        cases h with
        | here => exact .inl ⟨ask q next, .here _, rfl⟩
        | @ask _ _ c t _ more =>
            rcases (ih c).mp more with ⟨d', h, rfl⟩ | ⟨t₁, t₂, a, rfl, h, hf⟩
            · exact .inl ⟨d', .ask h, rfl⟩
            · exact .inr ⟨⟨q, c⟩ :: t₁, t₂, a, rfl, .ask h, hf⟩
      · rintro (⟨d', h, rfl⟩ | ⟨t₁, t₂, a, rfl, h, hf⟩)
        · cases h with
          | here => exact .here _
          | @ask _ _ c t _ more => exact .ask ((ih c).mpr (.inl ⟨d', more, rfl⟩))
        · cases h with
          | @ask _ _ c t _ rest => exact .ask ((ih c).mpr (.inr ⟨t, t₂, a, rfl, rest, hf⟩))

theorem advances_question_bind_iff {q : Question} {f : Answer q → Dialogue Question Answer β}
    {t : List (Exchange Question Answer)} {left : Dialogue Question Answer β} :
    (question q >>= f).Advances t left ↔ t = [] ∧ left = question q >>= f ∨
      ∃ b t', t = ⟨q, b⟩ :: t' ∧ (f b).Advances t' left := by
  change (Dialogue.ask q f).Advances t left ↔ t = [] ∧ left = Dialogue.ask q f ∨ _
  constructor
  · intro h
    cases h with
    | here => exact .inl ⟨rfl, rfl⟩
    | ask more => exact .inr ⟨_, _, rfl, more⟩
  · rintro (⟨rfl, rfl⟩ | ⟨b, t', rfl, more⟩)
    · exact .here _
    · exact .ask more

theorem advances_append_iff {d left : Dialogue Question Answer α}
    {t₁ t₂ : List (Exchange Question Answer)} :
    d.Advances (t₁ ++ t₂) left ↔ ∃ m, d.Advances t₁ m ∧ m.Advances t₂ left := by
  induction t₁ generalizing d with
  | nil =>
      constructor
      · intro h
        exact ⟨d, .here d, h⟩
      · rintro ⟨m, hd, h⟩
        cases hd
        exact h
  | cons e t₁ ih =>
      constructor
      · intro h
        cases h with
        | ask more =>
            obtain ⟨m, hd, hleft⟩ := ih.mp more
            exact ⟨m, .ask hd, hleft⟩
      · rintro ⟨m, hd, hleft⟩
        cases hd with
        | ask more => exact .ask (ih.mpr ⟨m, more, hleft⟩)

theorem Leads.advances {d : Dialogue Question Answer α} {a : α}
    {t : List (Exchange Question Answer)} (h : d.Leads t a) : d.Advances t (pure a) := by
  induction h with
  | done a => exact .here _
  | ask rest ih => exact .ask ih

theorem Advances.leads {d left : Dialogue Question Answer α} {a : α}
    {t : List (Exchange Question Answer)} (h : d.Advances t left) (hleft : left = pure a) :
    d.Leads t a := by
  induction h with
  | here d =>
      rw [hleft]
      exact .done a
  | ask more ih => exact .ask (ih hleft)

section Run

variable {Question' : Type} {Answer' : Question' → Type}
  {handle : (q : Question') → Dialogue Question Answer (Answer' q)}

/-- The steps `u` are those that carry the exchanges of a transcript out, one exchange after the
other. -/
def Carried (handle : (q : Question') → Dialogue Question Answer (Answer' q)) :
    List (Exchange Question' Answer') → List (Exchange Question Answer) → Prop
  | [], u => u = []
  | e :: t, u => ∃ v w, u = v ++ w ∧ (handle e.1).Leads v e.2 ∧ Carried handle t w

theorem Carried.append {t t' : List (Exchange Question' Answer')}
    {u u' : List (Exchange Question Answer)} (h : Carried handle t u) (h' : Carried handle t' u') :
    Carried handle (t ++ t') (u ++ u') := by
  induction t generalizing u with
  | nil =>
      obtain rfl := h
      exact h'
  | cons e t ih =>
      obtain ⟨v, w, rfl, hv, hw⟩ := h
      exact ⟨v, w ++ u', List.append_assoc v w u', hv, ih hw⟩

theorem Carried.leads_of_mem {t : List (Exchange Question' Answer')}
    {u : List (Exchange Question Answer)} (h : Carried handle t u)
    {e : Exchange Question' Answer'} (he : e ∈ t) : ∃ v, (handle e.1).Leads v e.2 ∧ v ⊆ u := by
  induction t generalizing u with
  | nil => cases he
  | cons e' t ih =>
      obtain ⟨v, w, rfl, hv, hw⟩ := h
      rcases List.mem_cons.mp he with rfl | he
      · exact ⟨v, hv, List.subset_append_left v w⟩
      · obtain ⟨v', hv', hsub⟩ := ih hw he
        exact ⟨v', hv', List.Subset.trans hsub (List.subset_append_right v w)⟩

theorem Carried.forall_mem {P : Question → Prop} {t : List (Exchange Question' Answer')}
    {u : List (Exchange Question Answer)} (h : Carried handle t u)
    (hP : ∀ e ∈ t, (handle e.1).Asks P) : ∀ e ∈ u, P e.1 := by
  induction t generalizing u with
  | nil =>
      obtain rfl := h
      exact List.forall_mem_nil _
  | cons e t ih =>
      obtain ⟨v, w, rfl, hv, hw⟩ := h
      obtain ⟨hfirst, hrest⟩ := List.forall_mem_cons.mp hP
      exact List.forall_mem_append.mpr ⟨hfirst.of_leads hv, ih hw hrest⟩

/-- A computation whose questions are carried out comes to a value where the computation itself
does. -/
theorem leads_run_iff {d : Dialogue Question' Answer' α} {u : List (Exchange Question Answer)}
    {a : α} : (d.run handle).Leads u a ↔ ∃ t, d.Leads t a ∧ Carried handle t u := by
  induction d generalizing u with
  | done b =>
      constructor
      · intro h
        obtain ⟨rfl, rfl⟩ := leads_pure_iff.mp h
        exact ⟨[], .done _, rfl⟩
      · rintro ⟨t, h, hcarried⟩
        cases h
        obtain rfl := hcarried
        exact .done _
  | ask q next ih =>
      rw [run, leads_bind_iff]
      constructor
      · rintro ⟨v, w, b, rfl, hv, hw⟩
        obtain ⟨t, ht, hcarried⟩ := (ih b).mp hw
        exact ⟨⟨q, b⟩ :: t, .ask ht, v, w, rfl, hv, hcarried⟩
      · rintro ⟨t, h, hcarried⟩
        obtain ⟨b, t, rfl, ht⟩ := leads_ask_iff.mp h
        obtain ⟨v, w, rfl, hv, hw⟩ := hcarried
        exact ⟨v, w, b, rfl, hv, (ih b).mpr ⟨t, ht, hw⟩⟩

theorem exists_carried {world : World Question Answer σ} {s s' : σ}
    {t : List (Exchange Question' Answer')} (h : Follows (served world handle) s t s') :
    ∃ u, Carried handle t u ∧ Follows world s u s' := by
  induction t generalizing s with
  | nil => exact ⟨[], rfl, h⟩
  | cons e t ih =>
      obtain ⟨m, ⟨v, hv, hfirst⟩, hrest⟩ := h
      obtain ⟨w, hw, hfollows⟩ := ih hrest
      exact ⟨v ++ w, ⟨v, w, rfl, hv, hw⟩, follows_append.mpr ⟨m, hfirst, hfollows⟩⟩

end Run

theorem Asks.left {P : Question → Prop} {d left : Dialogue Question Answer α}
    {t : List (Exchange Question Answer)} (hd : d.Asks P) (h : d.Advances t left) :
    left.Asks P := by
  induction h with
  | here d => exact hd
  | ask more ih => exact ih (hd.2 _)

theorem Leads.advances_bind {d : Dialogue Question Answer α} {a : α}
    {f : α → Dialogue Question Answer β} {t : List (Exchange Question Answer)}
    (h : d.Leads t a) : (d >>= f).Advances t (f a) :=
  advances_bind_iff.mpr (.inr ⟨t, [], a, (List.append_nil t).symm, h, .here _⟩)

theorem Asks.of_advances {P : Question → Prop} {d left : Dialogue Question Answer α}
    {t : List (Exchange Question Answer)} (hd : d.Asks P) (h : d.Advances t left) :
    ∀ e ∈ t, P e.1 := by
  induction h with
  | here d => exact List.forall_mem_nil _
  | ask more ih => exact List.forall_mem_cons.mpr ⟨hd.1, ih (hd.2 _)⟩

/-- Which of two computations takes a step. -/
inductive Side
  | first
  | second
  deriving DecidableEq, Repr

/-- The steps of two computations in the order in which they were taken. -/
abbrev Interleaving (Question : Type) (Answer : Question → Type) : Type :=
  List (Side × Exchange Question Answer)

def stepsOf (side : Side) (run : Interleaving Question Answer) :
    List (Exchange Question Answer) :=
  (run.filter fun step => step.1 = side).map (·.2)

/-- The steps of the first side that were taken before the second side did anything. -/
def headStart (run : Interleaving Question Answer) : List (Exchange Question Answer) :=
  (run.takeWhile fun step => step.1 = .first).map (·.2)

theorem headStart_append_second (t u : List (Exchange Question Answer))
    (e : Exchange Question Answer) :
    headStart (t.map (Side.first, ·) ++ (e :: u).map (Side.second, ·)) = t := by
  induction t with
  | nil => rfl
  | cons e' t ih => exact congrArg (e' :: ·) ih

theorem stepsOf_append (side : Side) (run run' : Interleaving Question Answer) :
    stepsOf side (run ++ run') = stepsOf side run ++ stepsOf side run' := by
  simp [stepsOf]

theorem stepsOf_map (side side' : Side) (t : List (Exchange Question Answer)) :
    stepsOf side (t.map (side', ·)) = if side' = side then t else [] := by
  split
  · rename_i hsame
    simp [stepsOf, List.filter_map, Function.comp_def, hsame]
  · rename_i hother
    simp [stepsOf, List.filter_map, Function.comp_def, hother]

theorem stepsOf_first_append_second (t u : List (Exchange Question Answer)) :
    stepsOf .first (t.map (Side.first, ·) ++ u.map (Side.second, ·)) = t := by
  simp [stepsOf_append, stepsOf_map]

theorem stepsOf_second_append_second (t u : List (Exchange Question Answer)) :
    stepsOf .second (t.map (Side.first, ·) ++ u.map (Side.second, ·)) = u := by
  simp [stepsOf_append, stepsOf_map]

theorem stepsOf_first_of_alone {run : Interleaving Question Answer}
    (h : stepsOf .second run = []) : stepsOf .first run = run.map (·.2) := by
  induction run with
  | nil => rfl
  | cons step run ih =>
      obtain ⟨side, e⟩ := step
      cases side with
      | first => exact congrArg (e :: ·) (ih h)
      | second => cases h

theorem eq_headStart_append {run : Interleaving Question Answer}
    {e : Exchange Question Answer} {t : List (Exchange Question Answer)}
    (h : stepsOf .second run = e :: t) :
    ∃ after, run = (headStart run).map (Side.first, ·) ++ (.second, e) :: after ∧
      stepsOf .first run = headStart run ++ stepsOf .first after ∧
      stepsOf .second after = t := by
  induction run with
  | nil => cases h
  | cons step run ih =>
      obtain ⟨side, e'⟩ := step
      cases side with
      | first =>
          obtain ⟨after, hrun, hfirst, hafter⟩ := ih h
          have hhead : headStart ((Side.first, e') :: run) = e' :: headStart run := rfl
          refine ⟨after, ?_, ?_, hafter⟩
          · rw [hhead, List.map_cons, List.cons_append, ← hrun]
          · rw [hhead, List.cons_append, ← hfirst]
            rfl
      | second =>
          obtain ⟨rfl, rfl⟩ := List.cons.inj h
          exact ⟨run, rfl, rfl, rfl⟩

end Dialogue

end NodeTrial
