namespace NodeTrial

structure PollBudget where
  /-- The pause between two attempts, in the unit in which time is counted. A trial counts
  milliseconds. -/
  interval : Nat
  maxAttempts : Nat
  deriving DecidableEq, Repr

namespace PollBudget

/-- The longest time that a poll sleeps, since it never sleeps after the last attempt, where a second
has `perSecond` units; none if its whole seconds do not fit into 64 bits. -/
def sleepBudgetIn (perSecond : Nat) (b : PollBudget) : Option Nat :=
  let total := b.interval * (b.maxAttempts - 1)
  if total / perSecond < Nat.pow 2 64 then some total else none

/-- The longest time that a poll sleeps, in milliseconds. -/
def sleepBudget (b : PollBudget) : Option Nat := b.sleepBudgetIn 1000

end PollBudget

/-- How a poll for a condition ended, with the attempts it made. -/
inductive PollEnd
  | ready (attempts : Nat)
  | timedOut (attempts : Nat)
  deriving DecidableEq, Repr

namespace PollEnd

def isReady : PollEnd → Bool
  | ready _ => true
  | timedOut _ => false

def attempts : PollEnd → Nat
  | ready n => n
  | timedOut n => n

end PollEnd

variable {m : Type → Type} [Monad m] {α : Type}

/-- The attempts of a poll from one on, with `left` of them to go. -/
def pollFrom (b : PollBudget) (pause : Nat → m Unit) (probe : m (Option α)) :
    (left attempt : Nat) → m (Option α × Nat)
  | 0, _ => pure (none, b.maxAttempts)
  | left + 1, attempt => do
    match ← probe with
    | some v => pure (some v, attempt)
    | none =>
      if left ≠ 0 ∧ b.interval ≠ 0 then pause b.interval
      pollFrom b pause probe left (attempt + 1)

/-- Calls the probe until it yields a value or the budget is spent. After each empty attempt but the
last there is a pause. The answer is the value and the number of attempts. -/
def pollValue (b : PollBudget) (pause : Nat → m Unit) (probe : m (Option α)) :
    m (Option α × Nat) :=
  pollFrom b pause probe b.maxAttempts 1

/-- Calls a condition until it holds or the budget is spent. An error counts as not holding. -/
def pollUntil {ε : Type} (b : PollBudget) (pause : Nat → m Unit) (condition : m (Except ε Bool)) :
    m PollEnd := do
  let (found, attempts) ← pollValue b pause do
    match ← condition with
    | .ok true => pure (some ())
    | _ => pure none
  match found with
  | some () => pure (.ready attempts)
  | none => pure (.timedOut attempts)

end NodeTrial
