import NodeTrial.Proofs.Node.HandleCases
import NodeTrial.Proofs.Node.Offspring

/-!
One child and what is done to it through its handle. A child is asked to end at most once, it is
killed only when it has been asked and has outstayed the time that it was given, and nothing is done
to it any more once its end has been taken note of, because its number may then be that of a stranger.
-/

namespace NodeTrial

open Dialogue

/-- What is noted of a child. -/
inductive Notice
  /-- It was asked to end. -/
  | asked
  /-- The time that it was given to end was over. -/
  | outstayed
  | killed
  /-- Its end was taken note of, so that its number can be given out again. -/
  | reaped
  /-- A number was named for it that is not its own. -/
  | strayed
  deriving DecidableEq, Repr

/-- A child, and what was noted of it so far. -/
structure Ward where
  pid : Pid
  life : Life
  notices : List Notice
  deriving DecidableEq, Repr

namespace Ward

def newborn (p : Pid) : Ward := ⟨p, .living, []⟩

def note (n : Notice) (w : Ward) : Ward := { w with notices := w.notices ++ [n] }

/-- The end of a child is taken note of. Once that is done it is remembered. -/
def reap (w : Ward) : Ward :=
  if w.life = .gone then w else ⟨w.pid, .gone, w.notices ++ [.reaped]⟩

/-- A child is killed. Nothing is sent to one whose end was taken note of. -/
def strike (w : Ward) : Ward :=
  if w.life = .gone then w else ⟨w.pid, .ended, w.notices ++ [.killed]⟩

/-- A child may end by itself. -/
def Drift (w w' : Ward) : Prop := w' = w ∨ w.life = .living ∧ w' = { w with life := .ended }

/-- What the machine may answer about a child, and what becomes of it. -/
def answered : (c : MachineCall) → Ward → c.Answer → Ward → Prop
  | .hasExited _, w, true, w' => w.life ≠ .living ∧ w' = w.reap
  | .hasExited _, w, false, w' => w.life = .living ∧ w' = w
  | .terminate _, w, _, w' => w' = w.note .asked
  | .awaitExit .., w, true, w' => w.life ≠ .living ∧ w' = w.reap
  | .awaitExit .., w, false, w' => w.life ≠ .gone ∧ w' = w.note .outstayed
  | .kill _, w, _, w' => w' = w.strike
  | .reap _, w, _, w' => w.life ≠ .living ∧ w' = w.reap
  | _, w, _, w' => w' = w

end Ward

/-- The world of one child: before each answer it may end. What names another number than its own
is noted, and may be answered anything. -/
def wardWorld : World MachineCall MachineCall.Answer Ward := fun c w a w' =>
  ∃ m, w.Drift m ∧ if c.child?.all (· = m.pid) then m.answered c a w' else w' = m.note .strayed

namespace Ward

variable {w w' m : Ward}

theorem Drift.pid_eq (h : w.Drift w') : w'.pid = w.pid := by
  rcases h with rfl | ⟨-, rfl⟩ <;> rfl

theorem Drift.notices_eq (h : w.Drift w') : w'.notices = w.notices := by
  rcases h with rfl | ⟨-, rfl⟩ <;> rfl

theorem Drift.gone_iff (h : w.Drift w') : w'.life = .gone ↔ w.life = .gone := by
  rcases h with rfl | ⟨hliving, rfl⟩
  · exact Iff.rfl
  · rw [hliving]
    exact ⟨fun h => (nomatch h), fun h => (nomatch h)⟩

theorem Drift.trans (h : w.Drift m) (h' : m.Drift w') : w.Drift w' := by
  rcases h with rfl | ⟨hliving, rfl⟩
  · exact h'
  · rcases h' with rfl | ⟨hended, -⟩
    · exact .inr ⟨hliving, rfl⟩
    · cases hended

theorem Drift.eq_of_gone (h : w.Drift w') (hgone : w.life = .gone) : w' = w := by
  rcases h with rfl | ⟨hliving, -⟩
  · rfl
  · rw [hgone] at hliving
    cases hliving

theorem Drift.reap_eq (h : w.Drift w') : w'.reap = w.reap := by
  rcases h with rfl | ⟨hliving, rfl⟩
  · rfl
  · simp [reap, hliving]

/-- The number of a child stays its own, and a child that is gone stays gone. -/
structure Becomes (w w' : Ward) : Prop where
  pid_eq : w'.pid = w.pid
  gone : w.life = .gone → w'.life = .gone

theorem Becomes.trans (h : w.Becomes m) (h' : m.Becomes w') : w.Becomes w' :=
  ⟨h'.pid_eq.trans h.pid_eq, fun hgone => h'.gone (h.gone hgone)⟩

theorem Drift.becomes (h : w.Drift w') : w.Becomes w' := ⟨h.pid_eq, h.gone_iff.mpr⟩

theorem becomes_reap (w : Ward) : w.Becomes w.reap := by
  unfold reap
  split
  · exact ⟨rfl, id⟩
  · exact ⟨rfl, fun _ => rfl⟩

theorem becomes_strike (w : Ward) : w.Becomes w.strike := by
  unfold strike
  split
  · exact ⟨rfl, id⟩
  · rename_i hlife
    exact ⟨rfl, fun hgone => absurd hgone hlife⟩

theorem answered_becomes {c : MachineCall} {a : c.Answer} (h : w.answered c a w') :
    w.Becomes w' := by
  cases c with
  | hasExited p =>
      cases a with
      | true =>
          obtain ⟨-, rfl⟩ := h
          exact w.becomes_reap
      | false =>
          obtain ⟨-, rfl⟩ := h
          exact ⟨rfl, id⟩
  | awaitExit p time =>
      cases a with
      | true =>
          obtain ⟨-, rfl⟩ := h
          exact w.becomes_reap
      | false =>
          obtain ⟨-, rfl⟩ := h
          exact ⟨rfl, id⟩
  | kill p =>
      obtain rfl : w' = w.strike := h
      exact w.becomes_strike
  | reap p =>
      obtain ⟨-, rfl⟩ := h
      exact w.becomes_reap
  | terminate p =>
      obtain rfl : w' = w.note .asked := h
      exact ⟨rfl, id⟩
  | _ =>
      obtain rfl : w' = w := h
      exact ⟨rfl, id⟩

end Ward

theorem wardWorld_becomes {c : MachineCall} {w w' : Ward} {a : c.Answer}
    (h : wardWorld c w a w') : w.Becomes w' := by
  obtain ⟨m, hdrift, hm⟩ := h
  refine hdrift.becomes.trans ?_
  split at hm
  · exact Ward.answered_becomes hm
  · obtain rfl := hm
    exact ⟨rfl, id⟩

theorem wardWorld_own {c : MachineCall} {w w' : Ward} {a : c.Answer}
    (hc : c.child?.all (· = w.pid)) (h : wardWorld c w a w') :
    ∃ m, w.Drift m ∧ m.answered c a w' := by
  obtain ⟨m, hdrift, hm⟩ := h
  rw [hdrift.pid_eq, if_pos hc] at hm
  exact ⟨m, hdrift, hm⟩

namespace Care

variable {w w' : Ward}

theorem hasExited_tells {exited : Bool}
    (h : (Care.hasExited w.pid).Plays wardWorld w exited w') :
    exited = true ∧ w' = w.reap ∨ exited = false ∧ w.life = .living ∧ w' = w := by
  obtain ⟨m, hdrift, hm⟩ := wardWorld_own (by simp [MachineCall.child?]) (plays_question_iff.mp h)
  cases exited with
  | true =>
      obtain ⟨-, rfl⟩ := hm
      exact .inl ⟨rfl, hdrift.reap_eq⟩
  | false =>
      obtain ⟨hliving, rfl⟩ := hm
      rcases hdrift with rfl | ⟨-, rfl⟩
      · exact .inr ⟨rfl, hliving, rfl⟩
      · cases hliving

theorem terminate_tells {u : Unit} (hlife : w.life ≠ .gone)
    (h : (Care.terminate w.pid).Plays wardWorld w u w') :
    ∃ l, l ≠ .gone ∧ w' = ⟨w.pid, l, w.notices ++ [.asked]⟩ := by
  obtain ⟨m, hdrift, rfl⟩ :=
    wardWorld_own (by simp [MachineCall.child?]) (plays_question_iff.mp h)
  refine ⟨m.life, fun hgone => hlife (hdrift.gone_iff.mp hgone), ?_⟩
  rw [Ward.note, hdrift.pid_eq, hdrift.notices_eq]

theorem awaitExit_tells {time : Nat} {exited : Bool}
    (h : (Care.awaitExit w.pid time).Plays wardWorld w exited w') :
    exited = true ∧ w' = w.reap ∨
      exited = false ∧ ∃ l, l ≠ .gone ∧ w' = ⟨w.pid, l, w.notices ++ [.outstayed]⟩ := by
  obtain ⟨m, hdrift, hm⟩ := wardWorld_own (by simp [MachineCall.child?]) (plays_question_iff.mp h)
  cases exited with
  | true =>
      obtain ⟨-, rfl⟩ := hm
      exact .inl ⟨rfl, hdrift.reap_eq⟩
  | false =>
      obtain ⟨hlife, rfl⟩ := hm
      refine .inr ⟨rfl, m.life, hlife, ?_⟩
      rw [Ward.note, hdrift.pid_eq, hdrift.notices_eq]

theorem kill_tells {u : Unit} (hlife : w.life ≠ .gone)
    (h : (Care.kill w.pid).Plays wardWorld w u w') :
    w' = ⟨w.pid, .ended, w.notices ++ [.killed]⟩ := by
  obtain ⟨m, hdrift, rfl⟩ :=
    wardWorld_own (by simp [MachineCall.child?]) (plays_question_iff.mp h)
  have hnotGone : m.life ≠ .gone := fun hgone => hlife (hdrift.gone_iff.mp hgone)
  rw [Ward.strike, if_neg hnotGone, hdrift.pid_eq, hdrift.notices_eq]

theorem reap_tells {u : Unit} (h : (Care.reap w.pid).Plays wardWorld w u w') : w' = w.reap := by
  obtain ⟨m, hdrift, -, rfl⟩ :=
    wardWorld_own (by simp [MachineCall.child?]) (plays_question_iff.mp h)
  exact hdrift.reap_eq

theorem idle_drifts {c : MachineCall} {a : c.Answer}
    (h : (Care.ask c).Plays wardWorld w a w') (hidle : c.IsIdle) : w.Drift w' := by
  have hm := plays_question_iff.mp h
  cases c with
  | createDirectories | createFile | readText | removeFile | sleep =>
      obtain ⟨m, hdrift, hsame⟩ := wardWorld_own rfl hm
      obtain rfl : w' = m := hsame
      exact hdrift
  | _ => exact hidle.elim

end Care

namespace Ward

/-- What can be noted of a child up to its end: it had ended by itself, or it ended when it was
asked to, or it had to be killed. -/
def endings : List (List Notice) :=
  [[.reaped], [.asked, .reaped], [.asked, .outstayed, .killed, .reaped]]

/-- What holds of a child between two uses of its handle: nothing was done to it, or it is gone. -/
def Sound (w : Ward) : Prop :=
  w.life ≠ .gone ∧ w.notices = [] ∨ w.life = .gone ∧ w.notices ∈ endings

variable {w w' : Ward}

theorem Sound.reap (h : w.Sound) : w.reap.life = .gone ∧ w.reap.Sound := by
  unfold Ward.reap
  rcases h with ⟨hlife, hnone⟩ | ⟨hgone, hnotices⟩
  · rw [if_neg hlife, hnone]
    exact ⟨rfl, .inr ⟨rfl, List.mem_cons_self⟩⟩
  · rw [if_pos hgone]
    exact ⟨hgone, .inr ⟨hgone, hnotices⟩⟩

theorem Sound.drift (h : w.Sound) (hdrift : w.Drift w') : w'.Sound := by
  unfold Sound at *
  rw [hdrift.notices_eq, Ne, hdrift.gone_iff]
  exact h

end Ward

namespace NodeHandle

variable {h h' : NodeHandle} {w w' : Ward}

/-- A handle has its child until that is gone, and notes that it is. -/
structure Tends (h : NodeHandle) (w : Ward) : Prop where
  sound : w.Sound
  child : ∀ p, h.child? = some p → p = w.pid
  given_up : h.child? = none → w.life = .gone
  stopped : w.life = .gone → h.state = .stopped

theorem tends_fresh (l : Launch) (p : Pid) : (fresh l p).Tends (.newborn p) where
  sound := .inl ⟨fun h => (nomatch h), rfl⟩
  child _ hp := (Option.some.inj hp).symm
  given_up hp := nomatch hp
  stopped hgone := nomatch hgone

theorem Tends.drift (ht : h.Tends w) (hdrift : w.Drift w') : h.Tends w' where
  sound := ht.sound.drift hdrift
  child p hp := (ht.child p hp).trans hdrift.pid_eq.symm
  given_up hp := hdrift.gone_iff.mpr (ht.given_up hp)
  stopped hgone := ht.stopped (hdrift.gone_iff.mp hgone)

theorem removeLog_drifts {path : String} {u : Unit}
    (hremove : (removeLog path).Plays wardWorld w u w') : w.Drift w' := by
  obtain ⟨removed, hask⟩ := removeLog_cases hremove
  exact Care.idle_drifts hask trivial

/-- A child that is ended is gone, and it was killed only if it outstayed. -/
theorem endChild_tends {grace : Nat} {u : Unit} (hw : w.Sound)
    (hend : (endChild grace w.pid).Plays wardWorld w u w') : w'.life = .gone ∧ w'.Sound := by
  obtain ⟨exited, w₁, hlook, h₁⟩ := plays_bind_iff.mp hend
  rcases Care.hasExited_tells hlook with ⟨rfl, rfl⟩ | ⟨rfl, hliving, rfl⟩
  · obtain ⟨-, rfl⟩ := plays_pure_iff.mp h₁
    exact hw.reap
  · have hlife : w₁.life ≠ .gone := by
      rw [hliving]
      decide
    have hnone : w₁.notices = [] := (hw.resolve_right fun hgone => hlife hgone.1).2
    obtain ⟨_, w₂, hterminate, h₂⟩ := plays_bind_iff.mp h₁
    obtain ⟨l₂, hl₂, rfl⟩ := Care.terminate_tells hlife hterminate
    obtain ⟨ended, w₃, hawait, h₃⟩ := plays_bind_iff.mp h₂
    rw [hnone] at hawait
    rcases Care.awaitExit_tells (w := ⟨w₁.pid, l₂, [.asked]⟩) hawait with ⟨rfl, rfl⟩ | ⟨rfl, l₃, hl₃, rfl⟩
    · obtain ⟨-, rfl⟩ := plays_pure_iff.mp h₃
      rw [Ward.reap, if_neg hl₂]
      exact ⟨rfl, .inr ⟨rfl, .tail _ (.head _)⟩⟩
    · obtain ⟨_, w₄, hkill, hreap⟩ := plays_bind_iff.mp h₃
      obtain rfl := Care.kill_tells (w := ⟨w₁.pid, l₃, [.asked, .outstayed]⟩) hl₃ hkill
      obtain rfl := Care.reap_tells (w := ⟨w₁.pid, .ended, [.asked, .outstayed, .killed]⟩) hreap
      have hended : Life.ended ≠ .gone := by decide
      rw [Ward.reap, if_neg hended]
      exact ⟨rfl, .inr ⟨rfl, .tail _ (.tail _ (.head _))⟩⟩

theorem stop_tends (ht : h.Tends w) (hstop : h.stop.Plays wardWorld w h' w') :
    h'.Tends w' ∧ w'.life = .gone := by
  rcases stop_cases hstop with ⟨hnone, rfl, hremove⟩ | ⟨p, m, hp, rfl, hend, hremove⟩
  · have hdrift := removeLog_drifts hremove
    exact ⟨ht.drift hdrift, hdrift.gone_iff.mpr (ht.given_up hnone)⟩
  · obtain rfl := ht.child p hp
    obtain ⟨hgone, hsound⟩ := endChild_tends ht.sound hend
    have hdrift := removeLog_drifts hremove
    have hgone' := hdrift.gone_iff.mpr hgone
    exact ⟨⟨hsound.drift hdrift, fun p hp => (nomatch hp), fun _ => hgone', fun _ => rfl⟩, hgone'⟩

theorem isAlive_tends {alive : Bool} (ht : h.Tends w)
    (hlook : h.isAlive.Plays wardWorld w (alive, h') w') :
    h'.Tends w' ∧ (alive = false → w'.life = .gone) ∧ (w.life = .gone → alive = false) := by
  rcases isAlive_cases hlook with
    ⟨hnone, rfl, rfl, rfl⟩ | ⟨p, hp, ⟨rfl, rfl, hexited⟩ | ⟨rfl, rfl, hexited⟩⟩
  · exact ⟨ht, fun _ => ht.given_up hnone, fun _ => rfl⟩
  · obtain rfl := ht.child p hp
    rcases Care.hasExited_tells hexited with ⟨hfalse, -⟩ | ⟨-, hliving, rfl⟩
    · cases hfalse
    · refine ⟨ht, fun hfalse => (nomatch hfalse), fun hgone => ?_⟩
      rw [hliving] at hgone
      cases hgone
  · obtain rfl := ht.child p hp
    rcases Care.hasExited_tells hexited with ⟨-, rfl⟩ | ⟨hfalse, -⟩
    · obtain ⟨hgone, hsound⟩ := ht.sound.reap
      refine ⟨⟨hsound, fun q hq => ?_, fun _ => hgone, fun _ => rfl⟩, fun _ => hgone, fun _ => rfl⟩
      exact (ht.child q hq).trans w.becomes_reap.pid_eq.symm
    · cases hfalse

theorem confirm_tends {r : Except StartFailure Unit} (ht : h.Tends w)
    (hconfirm : h.confirm.Plays wardWorld w (r, h') w') :
    h'.Tends w' ∧ ∀ e, r = .error e → w'.life = .gone := by
  rcases confirm_cases hconfirm with
    ⟨rfl, rfl, hlook⟩ | ⟨seen, m, log, m', stopped, rfl, rfl, hlook, hread, hstop⟩
  · exact ⟨(isAlive_tends ht hlook).1, fun e he => (nomatch he)⟩
  · have hseen := (isAlive_tends ht hlook).1.drift (Care.idle_drifts hread trivial)
    obtain ⟨hstopped, hgone⟩ := stop_tends hseen hstop
    exact ⟨⟨hstopped.sound, hstopped.child, hstopped.given_up, hstopped.stopped⟩, fun _ _ => hgone⟩

theorem removeLog_of_gone {path : String} {u : Unit} (hgone : w.life = .gone)
    (hremove : (removeLog path).Plays wardWorld w u w') : w' = w :=
  (removeLog_drifts hremove).eq_of_gone hgone

theorem stop_of_gone (ht : h.Tends w) (hgone : w.life = .gone)
    (hstop : h.stop.Plays wardWorld w h' w') : w' = w := by
  rcases stop_cases hstop with ⟨-, -, hremove⟩ | ⟨p, m, hp, -, hend, hremove⟩
  · exact removeLog_of_gone hgone hremove
  · obtain rfl := ht.child p hp
    obtain ⟨exited, m', hlook, h₁⟩ := plays_bind_iff.mp hend
    rcases Care.hasExited_tells hlook with ⟨rfl, rfl⟩ | ⟨-, hliving, -⟩
    · obtain ⟨-, rfl⟩ := plays_pure_iff.mp h₁
      rw [Ward.reap, if_pos hgone] at hremove
      exact removeLog_of_gone hgone hremove
    · rw [hgone] at hliving
      cases hliving

theorem isAlive_tells {alive : Bool} (ht : h.Tends w)
    (hlook : h.isAlive.Plays wardWorld w (alive, h') w') :
    alive = true ∧ w.life = .living ∧ w' = w ∨ alive = false ∧ w' = w.reap := by
  rcases isAlive_cases hlook with
    ⟨hnone, rfl, -, rfl⟩ | ⟨p, hp, ⟨rfl, -, hexited⟩ | ⟨rfl, -, hexited⟩⟩
  · exact .inr ⟨rfl, by rw [Ward.reap, if_pos (ht.given_up hnone)]⟩
  · obtain rfl := ht.child p hp
    rcases Care.hasExited_tells hexited with ⟨hfalse, -⟩ | ⟨-, hliving, rfl⟩
    · cases hfalse
    · exact .inl ⟨rfl, hliving, rfl⟩
  · obtain rfl := ht.child p hp
    rcases Care.hasExited_tells hexited with ⟨-, rfl⟩ | ⟨hfalse, -⟩
    · exact .inr ⟨rfl, rfl⟩
    · cases hfalse

/-- A child is confirmed if it is living. If it is not, its end is taken note of, and nothing else is
done to it. -/
theorem confirm_tells {r : Except StartFailure Unit} (ht : h.Tends w)
    (hconfirm : h.confirm.Plays wardWorld w (r, h') w') :
    r = .ok () ∧ w.life = .living ∧ w' = w ∨ (∃ e, r = .error e) ∧ w' = w.reap := by
  rcases confirm_cases hconfirm with
    ⟨rfl, -, hlook⟩ | ⟨seen, m, log, m', stopped, rfl, rfl, hlook, hread, hstop⟩
  · rcases isAlive_tells ht hlook with ⟨-, hliving, rfl⟩ | ⟨hfalse, -⟩
    · exact .inl ⟨rfl, hliving, rfl⟩
    · cases hfalse
  · have hseen := (isAlive_tends ht hlook).1
    rcases isAlive_tells ht hlook with ⟨hfalse, -⟩ | ⟨-, rfl⟩
    · cases hfalse
    · have hgone := ht.sound.reap.1
      obtain rfl := (Care.idle_drifts hread trivial).eq_of_gone hgone
      exact .inr ⟨⟨_, rfl⟩, stop_of_gone hseen hgone hstop⟩

end NodeHandle

end NodeTrial
