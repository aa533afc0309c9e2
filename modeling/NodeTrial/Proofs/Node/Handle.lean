import NodeTrial.Proofs.Node.HandleCases
import NodeTrial.Proofs.Node.Offspring

namespace NodeTrial

open Offspring

namespace NodeHandle

variable {p : Pid} {l : Life} {cs cs' : List Offspring} {h h' : NodeHandle}

theorem removeLog_plays {path : String} {u : Unit}
    (hremove : (removeLog path).Plays childWorld cs u cs') : Drift cs cs' := by
  obtain ⟨removed, hask⟩ := removeLog_cases hremove
  exact Care.idle_plays hask trivial

/-- Ending a child leaves nothing of it. -/
theorem endChild_plays {grace : Nat} {u : Unit} (hcs : Spent cs)
    (hend : (endChild grace p).Plays childWorld (⟨p, l⟩ :: cs) u cs') :
    cs' = ⟨p, .gone⟩ :: cs := by
  obtain ⟨exited, m₁, hlook, h₁⟩ := Dialogue.plays_bind_iff.mp hend
  rcases Care.hasExited_plays hcs hlook with ⟨rfl, rfl⟩ | ⟨rfl, -, rfl⟩
  · exact (Dialogue.plays_pure_iff.mp h₁).2
  · obtain ⟨_, m₂, hterminate, h₂⟩ := Dialogue.plays_bind_iff.mp h₁
    obtain ⟨l₂, rfl⟩ := Care.terminate_plays hcs hterminate
    obtain ⟨ended, m₃, hawait, h₃⟩ := Dialogue.plays_bind_iff.mp h₂
    rcases Care.awaitExit_plays hcs hawait with ⟨rfl, rfl⟩ | ⟨rfl, l₃, rfl⟩
    · exact (Dialogue.plays_pure_iff.mp h₃).2
    · obtain ⟨_, m₄, hkill, hreap⟩ := Dialogue.plays_bind_iff.mp h₃
      obtain ⟨l₄, rfl⟩ := Care.kill_plays hcs hkill
      exact Care.reap_plays hcs hreap

theorem stop_plays (hcs : Spent cs) (hchild : h.child? = some p)
    (hstop : h.stop.Plays childWorld (⟨p, l⟩ :: cs) h' cs') :
    h'.child? = none ∧ cs' = ⟨p, .gone⟩ :: cs := by
  rcases stop_cases hstop with ⟨hnone, -⟩ | ⟨q, m, hq, rfl, hend, hremove⟩
  · rw [hchild] at hnone
    cases hnone
  · obtain rfl := Option.some.inj (hchild.symm.trans hq)
    obtain rfl := endChild_plays hcs hend
    exact ⟨rfl, hcs.cons.drift (removeLog_plays hremove)⟩

theorem stop_plays_again (hchild : h.child? = none) (hstop : h.stop.Plays childWorld cs h' cs') :
    h' = h ∧ Drift cs cs' := by
  rcases stop_cases hstop with ⟨-, rfl, hremove⟩ | ⟨p, m, hp, -⟩
  · exact ⟨rfl, removeLog_plays hremove⟩
  · rw [hchild] at hp
    cases hp

theorem drop_plays_again {u : Unit} (hchild : h.child? = none)
    (hdrop : h.drop.Plays childWorld cs u cs') : Drift cs cs' := by
  obtain ⟨h', hstop⟩ := drop_cases hdrop
  exact (stop_plays_again hchild hstop).2

theorem isAlive_plays {alive : Bool} (hcs : Spent cs) (hchild : h.child? = some p)
    (hlook : h.isAlive.Plays childWorld (⟨p, l⟩ :: cs) (alive, h') cs') :
    alive = true ∧ h' = h ∧ cs' = ⟨p, .living⟩ :: cs ∨
      alive = false ∧ h' = { h with state := .stopped } ∧ cs' = ⟨p, .gone⟩ :: cs := by
  rcases isAlive_cases hlook with ⟨hnone, -⟩ | ⟨q, hq, hexited⟩
  · rw [hchild] at hnone
    cases hnone
  · obtain rfl := Option.some.inj (hchild.symm.trans hq)
    rcases hexited with ⟨rfl, rfl, hexited⟩ | ⟨rfl, rfl, hexited⟩
    · rcases Care.hasExited_plays hcs hexited with ⟨hfalse, -⟩ | ⟨-, -, rfl⟩
      · cases hfalse
      · exact .inl ⟨rfl, rfl, rfl⟩
    · rcases Care.hasExited_plays hcs hexited with ⟨-, rfl⟩ | ⟨hfalse, -⟩
      · exact .inr ⟨rfl, rfl, rfl⟩
      · cases hfalse

theorem confirm_plays {r : Except StartFailure Unit} (hcs : Spent cs) (hchild : h.child? = some p)
    (hconfirm : h.confirm.Plays childWorld (⟨p, l⟩ :: cs) (r, h') cs') :
    r = .ok () ∧ h' = h ∧ cs' = ⟨p, .living⟩ :: cs ∨
      ∃ e, r = .error e ∧ h'.child? = none ∧ cs' = ⟨p, .gone⟩ :: cs := by
  rcases confirm_cases hconfirm with
    ⟨rfl, rfl, hlook⟩ | ⟨seen, m, log, m', stopped, rfl, rfl, hlook, hread, hstop⟩
  · rcases isAlive_plays hcs hchild hlook with ⟨-, -, rfl⟩ | ⟨hfalse, -⟩
    · exact .inl ⟨rfl, rfl, rfl⟩
    · cases hfalse
  · rcases isAlive_plays hcs hchild hlook with ⟨hfalse, -⟩ | ⟨-, rfl, rfl⟩
    · cases hfalse
    · obtain rfl := hcs.cons.drift (Care.idle_plays hread trivial)
      have hstopped : { h with state := HandleState.stopped }.child? = some p := hchild
      obtain ⟨hnone, rfl⟩ := stop_plays hcs hstopped hstop
      exact .inr ⟨_, rfl, hnone, rfl⟩

theorem settle_plays {time : Nat} {u : Unit}
    (hsettle : (settle time).Plays childWorld cs u cs') : Drift cs cs' := by
  rcases settle_cases hsettle with rfl | hsleep
  · exact Drift.refl _
  · exact Care.idle_plays hsleep trivial

theorem prepareLog_plays {path : String} {r : Except SpawnError Unit}
    (hprepare : (prepareLog path).Plays childWorld cs r cs') : Drift cs cs' := by
  rcases prepareLog_cases hprepare with rfl | ⟨directory, created, hcreate⟩
  · exact Drift.refl _
  · exact Care.idle_plays hcreate trivial

theorem spawnChild_plays {launch : Launch} {r : Except SpawnError Pid} (hcs : Spent cs)
    (hspawn : (spawnChild launch).Plays childWorld cs r cs') :
    (∃ e, r = .error e ∧ cs' = cs) ∨ ∃ p, r = .ok p ∧ cs' = ⟨p, .living⟩ :: cs := by
  rcases spawnChild_cases hspawn with
    ⟨e, rfl, hprepare⟩ | ⟨e, m, rfl, hprepare, hcreate⟩ |
      ⟨m, log, m', spawned, rfl, hprepare, hcreate, hask⟩
  · exact .inl ⟨e, rfl, hcs.drift (prepareLog_plays hprepare)⟩
  · obtain rfl := hcs.drift (prepareLog_plays hprepare)
    exact .inl ⟨_, rfl, hcs.drift (Care.idle_plays hcreate trivial)⟩
  · obtain rfl := hcs.drift (prepareLog_plays hprepare)
    obtain rfl := hcs.drift (Care.idle_plays hcreate trivial)
    obtain ⟨m, hdrift, hanswer⟩ := Dialogue.plays_question_iff.mp hask
    obtain rfl := hcs.drift hdrift
    cases spawned with
    | error e => exact .inl ⟨_, rfl, hanswer⟩
    | ok p => exact .inr ⟨p, rfl, hanswer.2⟩

theorem spawn_plays {launch : Launch} {r : Except StartFailure NodeHandle} (hcs : Spent cs)
    (hspawn : (spawn launch).Plays childWorld cs r cs') :
    (∃ e, r = .error e ∧ cs' = cs) ∨
      ∃ p, r = .ok (fresh launch p) ∧ cs' = ⟨p, .living⟩ :: cs := by
  rcases spawn_cases hspawn with ⟨p, rfl, hchild⟩ | ⟨e, m, rfl, hchild, hremove⟩
  · rcases spawnChild_plays hcs hchild with ⟨e, he, -⟩ | ⟨q, hq, rfl⟩
    · cases he
    · obtain rfl := Except.ok.inj hq
      exact .inr ⟨p, rfl, rfl⟩
  · rcases spawnChild_plays hcs hchild with ⟨_, -, rfl⟩ | ⟨q, hq, -⟩
    · exact .inl ⟨_, rfl, hcs.drift (removeLog_plays hremove)⟩
    · cases hq

end NodeHandle

end NodeTrial
