/-!
Computations that put questions to their surroundings. A dialogue is the tree of what is asked next
after each answer, so what a program does against every possible surroundings is one value, and a
handler of the questions turns it into a run.
-/

namespace NodeTrial

/-- A computation that is done, or that asks a question and goes on with the answer. -/
inductive Dialogue (Question : Type) (Answer : Question → Type) (α : Type) : Type
  | done (value : α)
  | ask (q : Question) (next : Answer q → Dialogue Question Answer α)

namespace Dialogue

variable {Question : Type} {Answer : Question → Type} {α β γ : Type}

def bind (d : Dialogue Question Answer α) (f : α → Dialogue Question Answer β) :
    Dialogue Question Answer β :=
  match d with
  | done a => f a
  | ask q next => ask q fun a => (next a).bind f

instance : Monad (Dialogue Question Answer) where
  pure := done
  bind := bind

def question (q : Question) : Dialogue Question Answer (Answer q) := ask q done

theorem bind_assoc (d : Dialogue Question Answer α) (f : α → Dialogue Question Answer β)
    (g : β → Dialogue Question Answer γ) : (d.bind f).bind g = d.bind fun a => (f a).bind g := by
  induction d with
  | done a => rfl
  | ask q next ih => simp [bind, ih]

/-- Runs a computation, the questions answered by actions of a monad. -/
def run {m : Type → Type} [Monad m] (handle : (q : Question) → m (Answer q)) :
    Dialogue Question Answer α → m α
  | done a => pure a
  | ask q next => do (next (← handle q)).run handle

end Dialogue

end NodeTrial
