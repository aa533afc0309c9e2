import NodeTrial.Proofs.Dialogue.World
import NodeTrial.Node.Handle

/-!
What the uses of a handle come down to, in whatever world: which questions are put to it, in which
order, and what becomes of the handle.
-/

namespace NodeTrial

open Dialogue

/-- The child that something asked of the machine is about. -/
def MachineCall.child? : MachineCall → Option Pid
  | .hasExited p | .terminate p | .awaitExit p _ | .kill p | .reap p => some p
  | _ => none

namespace NodeHandle

theorem endChild_asks {P : MachineCall → Prop} {grace : Nat} {p : Pid}
    (h : ∀ c, c.child? = some p → P c) : (endChild grace p).Asks P := by
  refine Asks.bind (.question (h _ rfl)) fun exited => ?_
  cases exited with
  | true => trivial
  | false =>
      refine Asks.bind (.question (h _ rfl)) fun _ => ?_
      refine Asks.bind (.question (h _ rfl)) fun ended => ?_
      cases ended with
      | true => trivial
      | false => exact Asks.bind (.question (h _ rfl)) fun _ => .question (h _ rfl)

theorem stop_asks {P : MachineCall → Prop} {h : NodeHandle}
    (hchild : ∀ c p, c.child? = some p → P c) (hremove : P (.removeFile h.logPath)) :
    h.stop.Asks P := by
  unfold stop
  split
  · exact Asks.bind (Asks.bind (.question hremove) fun _ => trivial) fun _ => trivial
  · rename_i p _
    refine Asks.bind (endChild_asks fun c => hchild c p) fun _ => ?_
    exact Asks.bind (Asks.bind (.question hremove) fun _ => trivial) fun _ => trivial

theorem isAlive_asks {P : MachineCall → Prop} {h : NodeHandle}
    (hchild : ∀ c p, c.child? = some p → P c) : h.isAlive.Asks P := by
  unfold isAlive
  split
  · trivial
  · rename_i p _
    refine Asks.bind (.question (hchild _ p rfl)) fun exited => ?_
    cases exited <;> trivial

theorem confirm_asks {P : MachineCall → Prop} {h : NodeHandle}
    (hchild : ∀ c p, c.child? = some p → P c) (hread : ∀ path, P (.readText path))
    (hremove : ∀ path, P (.removeFile path)) : h.confirm.Asks P := by
  refine Asks.bind (isAlive_asks hchild) fun (alive, seen) => ?_
  cases alive with
  | true => trivial
  | false =>
      refine Asks.bind (.question (hread _)) fun _ => ?_
      exact Asks.bind (stop_asks hchild (hremove _)) fun _ => trivial

variable {σ : Type} {world : World MachineCall MachineCall.Answer σ} {s s' : σ}
  {h h' : NodeHandle}

theorem removeLog_cases {path : String} {u : Unit}
    (hremove : (removeLog path).Plays world s u s') :
    ∃ removed, (Care.removeFile path).Plays world s removed s' := by
  obtain ⟨removed, m, hask, hdone⟩ := plays_bind_iff.mp hremove
  obtain ⟨-, rfl⟩ := plays_pure_iff.mp hdone
  exact ⟨removed, hask⟩

theorem stop_cases (hstop : h.stop.Plays world s h' s') :
    h.child? = none ∧ h' = h ∧ (removeLog h.logPath).Plays world s () s' ∨
      ∃ p m, h.child? = some p ∧ h' = { h with child? := none, state := .stopped } ∧
        (endChild h.stopGrace p).Plays world s () m ∧
        (removeLog h.logPath).Plays world m () s' := by
  unfold stop at hstop
  split at hstop
  · rename_i hchild
    obtain ⟨_, m, hremove, hdone⟩ := plays_bind_iff.mp hstop
    obtain ⟨rfl, rfl⟩ := plays_pure_iff.mp hdone
    exact .inl ⟨hchild, rfl, hremove⟩
  · rename_i p hchild
    obtain ⟨_, m, hend, h₁⟩ := plays_bind_iff.mp hstop
    obtain ⟨_, m', hremove, hdone⟩ := plays_bind_iff.mp h₁
    obtain ⟨rfl, rfl⟩ := plays_pure_iff.mp hdone
    exact .inr ⟨p, m, hchild, rfl, hend, hremove⟩

theorem drop_cases {u : Unit} (hdrop : h.drop.Plays world s u s') :
    ∃ h', h.stop.Plays world s h' s' := by
  obtain ⟨h', m, hstop, hdone⟩ := plays_bind_iff.mp hdrop
  obtain ⟨-, rfl⟩ := plays_pure_iff.mp hdone
  exact ⟨h', hstop⟩

theorem isAlive_cases {alive : Bool} (hlook : h.isAlive.Plays world s (alive, h') s') :
    h.child? = none ∧ alive = false ∧ h' = h ∧ s' = s ∨
      ∃ p, h.child? = some p ∧
        (alive = true ∧ h' = h ∧ (Care.hasExited p).Plays world s false s' ∨
          alive = false ∧ h' = { h with state := .stopped } ∧
            (Care.hasExited p).Plays world s true s') := by
  unfold isAlive at hlook
  split at hlook
  · rename_i hchild
    obtain ⟨hresult, rfl⟩ := plays_pure_iff.mp hlook
    obtain ⟨rfl, rfl⟩ := Prod.mk.inj hresult
    exact .inl ⟨hchild, rfl, rfl, rfl⟩
  · rename_i p hchild
    obtain ⟨exited, m, hexited, hdone⟩ := plays_bind_iff.mp hlook
    refine .inr ⟨p, hchild, ?_⟩
    cases exited with
    | true =>
        obtain ⟨hresult, rfl⟩ := plays_pure_iff.mp hdone
        obtain ⟨rfl, rfl⟩ := Prod.mk.inj hresult
        exact .inr ⟨rfl, rfl, hexited⟩
    | false =>
        obtain ⟨hresult, rfl⟩ := plays_pure_iff.mp hdone
        obtain ⟨rfl, rfl⟩ := Prod.mk.inj hresult
        exact .inl ⟨rfl, rfl, hexited⟩

theorem isAlive_keeps {alive : Bool} (hlook : h.isAlive.Plays world s (alive, h') s') :
    h'.child? = h.child? ∧ h'.logPath = h.logPath := by
  rcases isAlive_cases hlook with ⟨-, -, rfl, -⟩ | ⟨p, -, ⟨-, rfl, -⟩ | ⟨-, rfl, -⟩⟩
  · exact ⟨rfl, rfl⟩
  · exact ⟨rfl, rfl⟩
  · exact ⟨rfl, rfl⟩

/-- A handle that is confirmed was found alive, and it stays what it is. One that is not was found
not to be alive, and after its log was read it was stopped. -/
theorem confirm_cases {r : Except StartFailure Unit}
    (hconfirm : h.confirm.Plays world s (r, h') s') :
    r = .ok () ∧ h' = h ∧ h.isAlive.Plays world s (true, h) s' ∨
      ∃ seen m log m' stopped, r = .error (diedEarly log) ∧ h' = { stopped with pid? := none } ∧
        h.isAlive.Plays world s (false, seen) m ∧
        (Care.readText seen.logPath).Plays world m log m' ∧ seen.stop.Plays world m' stopped s' := by
  obtain ⟨⟨alive, seen⟩, m, hlook, hrest⟩ := plays_bind_iff.mp hconfirm
  cases alive with
  | true =>
      obtain ⟨hresult, rfl⟩ := plays_pure_iff.mp hrest
      obtain ⟨rfl, rfl⟩ := Prod.mk.inj hresult
      rcases isAlive_cases hlook with ⟨-, hfalse, -⟩ | ⟨p, -, ⟨-, rfl, -⟩ | ⟨hfalse, -⟩⟩
      · cases hfalse
      · exact .inl ⟨rfl, rfl, hlook⟩
      · cases hfalse
  | false =>
      obtain ⟨log, m', hread, h₁⟩ := plays_bind_iff.mp hrest
      obtain ⟨stopped, m'', hstop, hdone⟩ := plays_bind_iff.mp h₁
      obtain ⟨hresult, rfl⟩ := plays_pure_iff.mp hdone
      obtain ⟨rfl, rfl⟩ := Prod.mk.inj hresult
      exact .inr ⟨seen, m, log, m', stopped, rfl, rfl, hlook, hread, hstop⟩

theorem settle_cases {time : Nat} {u : Unit} (hsettle : (settle time).Plays world s u s') :
    s' = s ∨ (Care.sleep time).Plays world s () s' := by
  unfold settle at hsettle
  split at hsettle
  · exact .inl (plays_pure_iff.mp hsettle).2
  · exact .inr hsettle

theorem prepareLog_cases {path : String} {r : Except SpawnError Unit}
    (hprepare : (prepareLog path).Plays world s r s') :
    s' = s ∨ ∃ directory created, (Care.createDirectories directory).Plays world s created s' := by
  unfold prepareLog at hprepare
  split at hprepare
  · exact .inl (plays_pure_iff.mp hprepare).2
  · rename_i directory _
    obtain ⟨created, m, hcreate, hdone⟩ := plays_bind_iff.mp hprepare
    obtain ⟨-, rfl⟩ := plays_pure_iff.mp hdone
    exact .inr ⟨directory, created, hcreate⟩

theorem spawnChild_cases {l : Launch} {r : Except SpawnError Pid}
    (hspawn : (spawnChild l).Plays world s r s') :
    (∃ e, r = .error e ∧ (prepareLog l.logPath).Plays world s (.error e) s') ∨
      (∃ e m, r = .error (.logFile l.logPath e) ∧ (prepareLog l.logPath).Plays world s (.ok ()) m ∧
        (Care.createFile l.logPath).Plays world m (.error e) s') ∨
      ∃ m log m' spawned, r = spawned.mapError (.program l.program) ∧
        (prepareLog l.logPath).Plays world s (.ok ()) m ∧
        (Care.createFile l.logPath).Plays world m (.ok log) m' ∧
        (Care.spawn l.program l.args l.directory log).Plays world m' spawned s' := by
  obtain ⟨prepared, m, hprepare, h₁⟩ := plays_bind_iff.mp hspawn
  cases prepared with
  | error e =>
      obtain ⟨rfl, rfl⟩ := plays_pure_iff.mp h₁
      exact .inl ⟨e, rfl, hprepare⟩
  | ok _ =>
      obtain ⟨created, m', hcreate, h₂⟩ := plays_bind_iff.mp h₁
      cases created with
      | error e =>
          obtain ⟨rfl, rfl⟩ := plays_pure_iff.mp h₂
          exact .inr (.inl ⟨e, m, rfl, hprepare, hcreate⟩)
      | ok log =>
          obtain ⟨spawned, m'', hask, hdone⟩ := plays_bind_iff.mp h₂
          obtain ⟨rfl, rfl⟩ := plays_pure_iff.mp hdone
          exact .inr (.inr ⟨m, log, m', spawned, rfl, hprepare, hcreate, hask⟩)

theorem spawn_cases {l : Launch} {r : Except StartFailure NodeHandle}
    (hspawn : (spawn l).Plays world s r s') :
    (∃ p, r = .ok (fresh l p) ∧ (spawnChild l).Plays world s (.ok p) s') ∨
      ∃ e m, r = .error ⟨e.message, ""⟩ ∧ (spawnChild l).Plays world s (.error e) m ∧
        (removeLog l.logPath).Plays world m () s' := by
  obtain ⟨spawned, m, hchild, h₁⟩ := plays_bind_iff.mp hspawn
  cases spawned with
  | ok p =>
      obtain ⟨rfl, rfl⟩ := plays_pure_iff.mp h₁
      exact .inl ⟨p, rfl, hchild⟩
  | error e =>
      obtain ⟨_, m', hremove, hdone⟩ := plays_bind_iff.mp h₁
      obtain ⟨rfl, rfl⟩ := plays_pure_iff.mp hdone
      exact .inr ⟨e, m, rfl, hchild, hremove⟩

/-- A start hands out the handle that was confirmed after it had settled. If the handle was not
confirmed it is given up. -/
theorem start_cases {l : Launch} {r : Except StartFailure NodeHandle}
    (hstart : (start l).Plays world s r s') :
    (∃ e, r = .error e ∧ (spawn l).Plays world s (.error e) s') ∨
      ∃ h m m', (spawn l).Plays world s (.ok h) m ∧ (settle l.settle).Plays world m () m' ∧
        (r = .ok h ∧ h.confirm.Plays world m' (.ok (), h) s' ∨
          ∃ e h' m'', r = .error e ∧ h.confirm.Plays world m' (.error e, h') m'' ∧
            h'.drop.Plays world m'' () s') := by
  obtain ⟨spawned, m, hspawn, h₁⟩ := plays_bind_iff.mp hstart
  cases spawned with
  | error e =>
      obtain ⟨rfl, rfl⟩ := plays_pure_iff.mp h₁
      exact .inl ⟨e, rfl, hspawn⟩
  | ok h =>
      obtain ⟨_, m', hsettle, h₂⟩ := plays_bind_iff.mp h₁
      obtain ⟨⟨looked, h'⟩, m'', hconfirm, h₃⟩ := plays_bind_iff.mp h₂
      refine .inr ⟨h, m, m', hspawn, hsettle, ?_⟩
      cases looked with
      | ok _ =>
          obtain ⟨rfl, rfl⟩ := plays_pure_iff.mp h₃
          rcases confirm_cases hconfirm with ⟨-, rfl, -⟩ | ⟨seen, n, log, n', stopped, he, -⟩
          · exact .inl ⟨rfl, hconfirm⟩
          · cases he
      | error e =>
          obtain ⟨_, m₃, hdrop, hdone⟩ := plays_bind_iff.mp h₃
          obtain ⟨rfl, rfl⟩ := plays_pure_iff.mp hdone
          exact .inr ⟨e, h', m'', rfl, hconfirm, hdrop⟩

end NodeHandle

end NodeTrial
