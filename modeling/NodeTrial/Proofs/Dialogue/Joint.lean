import NodeTrial.Proofs.Dialogue.World

namespace NodeTrial

namespace Dialogue

variable {Name Question : Type} {Answer : Question → Type}

/-- The steps of several callers in the order in which they were taken. -/
abbrev Joint (Name Question : Type) (Answer : Question → Type) : Type :=
  List (Exchange (Name × Question) fun q => Answer q.2)

def stepsBy (x : Name) (t : List (Exchange Question Answer)) : Joint Name Question Answer :=
  t.map fun e => ⟨(x, e.1), e.2⟩

theorem stepsBy_cons (x : Name) (e : Exchange Question Answer) (t : List (Exchange Question Answer)) :
    stepsBy x (e :: t) = ⟨(x, e.1), e.2⟩ :: stepsBy x t :=
  rfl

variable [DecidableEq Name]

/-- The steps of one caller. -/
def shareOf (x : Name) (run : Joint Name Question Answer) : List (Exchange Question Answer) :=
  run.filterMap fun e => if e.1.1 = x then some ⟨e.1.2, e.2⟩ else none

variable {x : Name} {run run' : Joint Name Question Answer}

theorem shareOf_append (x : Name) (run run' : Joint Name Question Answer) :
    shareOf x (run ++ run') = shareOf x run ++ shareOf x run' :=
  List.filterMap_append

theorem shareOf_cons_self (x : Name) (q : Question) (a : Answer q)
    (run : Joint Name Question Answer) :
    shareOf x (⟨(x, q), a⟩ :: run) = ⟨q, a⟩ :: shareOf x run :=
  List.filterMap_cons_some (if_pos rfl)

theorem shareOf_cons_of_ne {y : Name} (h : y ≠ x) (q : Question) (a : Answer q)
    (run : Joint Name Question Answer) : shareOf x (⟨(y, q), a⟩ :: run) = shareOf x run :=
  List.filterMap_cons_none (if_neg h)

theorem shareOf_append_cons (x : Name) (run run' : Joint Name Question Answer) (q : Question)
    (a : Answer q) :
    shareOf x (run ++ ⟨(x, q), a⟩ :: run') = shareOf x run ++ ⟨q, a⟩ :: shareOf x run' := by
  rw [shareOf_append, shareOf_cons_self]

theorem mem_shareOf {q : Question} {a : Answer q} (h : ⟨(x, q), a⟩ ∈ run) :
    ⟨q, a⟩ ∈ shareOf x run :=
  List.mem_filterMap.mpr ⟨_, h, if_pos rfl⟩

theorem shareOf_stepsBy_of_ne {y : Name} (h : y ≠ x) (t : List (Exchange Question Answer)) :
    shareOf x (stepsBy y t) = [] := by
  induction t with
  | nil => rfl
  | cons e t ih => rw [stepsBy_cons, shareOf_cons_of_ne h, ih]

theorem forall_mem_of_shares {P : Question → Prop}
    (h : ∀ x, ∀ e ∈ shareOf x run, P e.1) : ∀ e ∈ run, P e.1.2 :=
  fun e he => h e.1.1 _ (mem_shareOf he)

theorem exists_append_of_shareOf {t₁ t₂ : List (Exchange Question Answer)}
    (h : shareOf x run = t₁ ++ t₂) :
    ∃ run₁ run₂, run = run₁ ++ run₂ ∧ shareOf x run₁ = t₁ ∧ shareOf x run₂ = t₂ :=
  List.filterMap_eq_append_iff.mp h

theorem exists_cons_of_shareOf {t₁ t₂ : List (Exchange Question Answer)}
    {e : Exchange Question Answer} (h : shareOf x run = t₁ ++ e :: t₂) :
    ∃ run₁ run₂, run = run₁ ++ ⟨(x, e.1), e.2⟩ :: run₂ ∧ shareOf x run₁ = t₁ ∧
      shareOf x run₂ = t₂ := by
  obtain ⟨run₁, run', rfl, rfl, h'⟩ := exists_append_of_shareOf h
  obtain ⟨skipped, ⟨⟨y, q⟩, a⟩, run₂, rfl, hskipped, he, hrest⟩ :=
    List.filterMap_eq_cons_iff.mp h'
  obtain ⟨rfl, hsame⟩ := Option.ite_none_right_eq_some.mp he
  obtain rfl := Option.some.inj hsame
  refine ⟨run₁ ++ skipped, run₂, (List.append_assoc ..).symm, ?_, hrest⟩
  rw [shareOf_append, shareOf, shareOf, List.filterMap_eq_nil_iff.mpr hskipped, List.append_nil]

end Dialogue

end NodeTrial
