import NodeTrial.Proofs.Dialogue.World
import NodeTrial.Node.Slot
import Mathlib.Data.List.Forall2

/-!
The children that are started through a slot, in a world that leaves open whatever an operating
system leaves open: files answer anything, a start may fail, a child may end at any time and need not
heed a request to end, and the number of a child that is gone may be given out again. What is relied
on is that the number of a child that is not gone is not given out, that it can always be asked whether
a child of one's own has ended, which tells the truth, that a child that was killed has ended, and that
one whose end was waited for is gone.
-/

namespace NodeTrial

/-- What has become of a child. One that has ended is gone once its end has been taken note of. -/
inductive Life
  | living
  | ended
  | gone
  deriving DecidableEq, Repr

structure Offspring where
  pid : Pid
  life : Life
  deriving DecidableEq, Repr

namespace Offspring

/-- Children may end by themselves. -/
def Drift : List Offspring → List Offspring → Prop :=
  List.Forall₂ fun c c' => c'.pid = c.pid ∧ (c'.life = c.life ∨ c.life = .living ∧ c'.life = .ended)

/-- Nothing is left of any child. -/
def Spent (cs : List Offspring) : Prop := ∀ c ∈ cs, c.life = .gone

/-- What has become of the child that was started last under a number. -/
def lifeOf? (p : Pid) (cs : List Offspring) : Option Life :=
  (cs.find? (·.pid = p)).map (·.life)

/-- Something becomes of the child that was started last under a number. -/
def become (p : Pid) (l : Life) : List Offspring → List Offspring
  | [] => []
  | c :: cs => if c.pid = p then { c with life := l } :: cs else c :: become p l cs

@[simp]
theorem lifeOf?_cons_self (p : Pid) (l : Life) (cs : List Offspring) :
    lifeOf? p (⟨p, l⟩ :: cs) = some l := by
  simp [lifeOf?]

@[simp]
theorem become_cons_self (p : Pid) (l l' : Life) (cs : List Offspring) :
    become p l' (⟨p, l⟩ :: cs) = ⟨p, l'⟩ :: cs := by
  simp [become]

theorem Drift.refl (cs : List Offspring) : Drift cs cs :=
  List.forall₂_same.mpr fun _ _ => ⟨rfl, .inl rfl⟩

theorem Spent.drift {cs cs' : List Offspring} (h : Spent cs) (hdrift : Drift cs cs') :
    cs' = cs := by
  induction hdrift with
  | nil => rfl
  | @cons c c' cs cs' hc hcs ih =>
      obtain ⟨hgone, hrest⟩ := List.forall_mem_cons.mp h
      have hlife : c'.life = c.life := by
        rcases hc.2 with hlife | ⟨hliving, -⟩
        · exact hlife
        · rw [hgone] at hliving
          cases hliving
      have hsame : c' = c := by
        obtain ⟨q, l⟩ := c
        obtain ⟨q', l'⟩ := c'
        exact congrArg₂ Offspring.mk hc.1 hlife
      rw [hsame, ih hrest]

theorem Spent.drift_cons {p : Pid} {l : Life} {cs cs' : List Offspring} (h : Spent cs)
    (hdrift : Drift (⟨p, l⟩ :: cs) cs') :
    ∃ l', cs' = ⟨p, l'⟩ :: cs ∧ (l' = l ∨ l = .living ∧ l' = .ended) := by
  cases hdrift with
  | @cons _ c' _ cs'' hc hcs =>
      obtain ⟨q, l'⟩ := c'
      obtain ⟨rfl, hlife⟩ := hc
      exact ⟨l', by rw [h.drift hcs], hlife⟩

theorem Spent.cons {p : Pid} {cs : List Offspring} (h : Spent cs) : Spent (⟨p, .gone⟩ :: cs) :=
  List.forall_mem_cons.mpr ⟨rfl, h⟩

end Offspring

open Offspring

/-- What the machine may answer about children, and what becomes of them. -/
def MachineCall.answered : (c : MachineCall) → List Offspring → c.Answer → List Offspring → Prop
  | .spawn .., cs, .ok p, cs' => (∀ c ∈ cs, c.pid = p → c.life = .gone) ∧ cs' = ⟨p, .living⟩ :: cs
  | .hasExited p, cs, true, cs' => lifeOf? p cs ≠ some .living ∧ cs' = become p .gone cs
  | .hasExited p, cs, false, cs' => lifeOf? p cs = some .living ∧ cs' = cs
  | .awaitExit p _, cs, true, cs' => lifeOf? p cs ≠ some .living ∧ cs' = become p .gone cs
  | .kill p, cs, _, cs' => cs' = if lifeOf? p cs = some .living then become p .ended cs else cs
  | .reap p, cs, _, cs' => lifeOf? p cs ≠ some .living ∧ cs' = become p .gone cs
  | _, cs, _, cs' => cs' = cs

/-- Whether something asked of the machine is about files or time and not about a child. -/
def MachineCall.IsIdle : MachineCall → Prop
  | .createDirectories _ | .createFile _ | .readText _ | .removeFile _ | .sleep _ => True
  | _ => False

/-- The world of the children: before each answer some of them may end. -/
def childWorld : Dialogue.World MachineCall MachineCall.Answer (List Offspring) :=
  fun c cs a cs' => ∃ m, Drift cs m ∧ c.answered m a cs'

namespace Care

variable {p : Pid} {l : Life} {cs cs' : List Offspring}

theorem hasExited_plays {exited : Bool} (hcs : Spent cs)
    (h : (Care.hasExited p).Plays childWorld (⟨p, l⟩ :: cs) exited cs') :
    exited = true ∧ cs' = ⟨p, .gone⟩ :: cs ∨
      exited = false ∧ l = .living ∧ cs' = ⟨p, .living⟩ :: cs := by
  obtain ⟨m, hdrift, hanswer⟩ := Dialogue.plays_question_iff.mp h
  obtain ⟨l', rfl, hlife⟩ := hcs.drift_cons hdrift
  cases exited with
  | true =>
      obtain ⟨-, rfl⟩ := hanswer
      exact .inl ⟨rfl, become_cons_self p l' .gone cs⟩
  | false =>
      obtain ⟨hliving, rfl⟩ := hanswer
      rw [lifeOf?_cons_self, Option.some_inj] at hliving
      subst hliving
      rcases hlife with rfl | ⟨-, hended⟩
      · exact .inr ⟨rfl, rfl, rfl⟩
      · cases hended

theorem awaitExit_plays {time : Nat} {exited : Bool} (hcs : Spent cs)
    (h : (Care.awaitExit p time).Plays childWorld (⟨p, l⟩ :: cs) exited cs') :
    exited = true ∧ cs' = ⟨p, .gone⟩ :: cs ∨ exited = false ∧ ∃ l', cs' = ⟨p, l'⟩ :: cs := by
  obtain ⟨m, hdrift, hanswer⟩ := Dialogue.plays_question_iff.mp h
  obtain ⟨l', rfl, -⟩ := hcs.drift_cons hdrift
  cases exited with
  | true =>
      obtain ⟨-, rfl⟩ := hanswer
      exact .inl ⟨rfl, become_cons_self p l' .gone cs⟩
  | false => exact .inr ⟨rfl, l', hanswer⟩

theorem terminate_plays {u : Unit} (hcs : Spent cs)
    (h : (Care.terminate p).Plays childWorld (⟨p, l⟩ :: cs) u cs') : ∃ l', cs' = ⟨p, l'⟩ :: cs := by
  obtain ⟨m, hdrift, rfl⟩ := Dialogue.plays_question_iff.mp h
  obtain ⟨l', hm, -⟩ := hcs.drift_cons hdrift
  exact ⟨l', hm⟩

theorem kill_plays {u : Unit} (hcs : Spent cs)
    (h : (Care.kill p).Plays childWorld (⟨p, l⟩ :: cs) u cs') : ∃ l', cs' = ⟨p, l'⟩ :: cs := by
  obtain ⟨m, hdrift, rfl⟩ := Dialogue.plays_question_iff.mp h
  obtain ⟨l', rfl, -⟩ := hcs.drift_cons hdrift
  rw [become_cons_self]
  split
  · exact ⟨.ended, rfl⟩
  · exact ⟨l', rfl⟩

theorem reap_plays {u : Unit} (hcs : Spent cs)
    (h : (Care.reap p).Plays childWorld (⟨p, l⟩ :: cs) u cs') : cs' = ⟨p, .gone⟩ :: cs := by
  obtain ⟨m, hdrift, -, rfl⟩ := Dialogue.plays_question_iff.mp h
  obtain ⟨l', rfl, -⟩ := hcs.drift_cons hdrift
  exact become_cons_self p l' .gone cs

theorem idle_plays {c : MachineCall} {a : c.Answer}
    (h : (Care.ask c).Plays childWorld cs a cs') (hidle : c.IsIdle) : Drift cs cs' := by
  obtain ⟨m, hdrift, hanswer⟩ := Dialogue.plays_question_iff.mp h
  have hsame : cs' = m := by
    cases c with
    | createDirectories | createFile | readText | removeFile | sleep => exact hanswer
    | _ => exact hidle.elim
  rw [hsame]
  exact hdrift

end Care

end NodeTrial
