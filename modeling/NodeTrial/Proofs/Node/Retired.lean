import NodeTrial.Proofs.Node.Files
import NodeTrial.Proofs.Node.Signals

namespace NodeTrial

open Dialogue Offspring

/-- A use of a handle that ends its node. -/
def HandleUse.Ends : HandleUse → Prop
  | stop | drop => True
  | confirm | isAlive => False

theorem HandleUse.left_cases {σ : Type} {world : World MachineCall MachineCall.Answer σ}
    {s s' : σ} {h h' : NodeHandle} {u : HandleUse} {a : u.Answer}
    (huse : (u.body h).Plays world s (a, some h') s') :
    (∃ r, h.confirm.Plays world s (r, h') s') ∨
      (∃ alive, h.isAlive.Plays world s (alive, h') s') ∨ h.stop.Plays world s h' s' := by
  cases u with
  | confirm =>
      obtain ⟨⟨r, left⟩, m, hconfirm, hdone⟩ := plays_bind_iff.mp huse
      obtain ⟨hresult, rfl⟩ := plays_pure_iff.mp hdone
      obtain rfl := Option.some.inj (Prod.mk.inj hresult).2
      exact .inl ⟨r, hconfirm⟩
  | isAlive =>
      obtain ⟨⟨alive, left⟩, m, hlook, hdone⟩ := plays_bind_iff.mp huse
      obtain ⟨hresult, rfl⟩ := plays_pure_iff.mp hdone
      obtain rfl := Option.some.inj (Prod.mk.inj hresult).2
      exact .inr (.inl ⟨alive, hlook⟩)
  | stop =>
      obtain ⟨left, m, hstop, hdone⟩ := plays_bind_iff.mp huse
      obtain ⟨hresult, rfl⟩ := plays_pure_iff.mp hdone
      obtain rfl := Option.some.inj (Prod.mk.inj hresult).2
      exact .inr (.inr hstop)
  | drop =>
      obtain ⟨_, m, -, hdone⟩ := plays_bind_iff.mp huse
      cases congrArg Prod.snd (plays_pure_iff.mp hdone).1

/-- A handle that has been stopped, by a stop or by a look at its node that failed. It may have been
used since then, and the world may have come to any state between two uses. -/
inductive NodeHandle.Retired {σ : Type} (world : World MachineCall MachineCall.Answer σ)
    (first : NodeHandle) : NodeHandle → Prop
  | stop {s s' : σ} {h : NodeHandle} (plays : first.stop.Plays world s h s') :
      Retired world first h
  | confirm {s s' : σ} {e : StartFailure} {h : NodeHandle}
      (plays : first.confirm.Plays world s (.error e, h) s') : Retired world first h
  | use {s s' : σ} {h h' : NodeHandle} (u : HandleUse) {a : u.Answer}
      (before : Retired world first h) (plays : (u.body h).Plays world s (a, some h') s') :
      Retired world first h'

/-- A computation that does nothing but attempt once to remove the file at a path. -/
def Care.OnlyRemoves {α : Type} (path : String) (d : Care α) : Prop :=
  ∀ t, (∃ a, d.Leads t a) ↔ ∃ removed, t = [⟨.removeFile path, removed⟩]

theorem Care.onlyRemoves_removeFile {α : Type} (path : String) (a : α) :
    OnlyRemoves path (Care.removeFile path >>= fun _ => pure a) := by
  intro t
  constructor
  · rintro ⟨b, hleads⟩
    obtain ⟨t₁, t₂, removed, rfl, hask, hdone⟩ := leads_bind_iff.mp hleads
    obtain rfl := leads_question_iff.mp hask
    obtain ⟨rfl, -⟩ := leads_pure_iff.mp hdone
    exact ⟨removed, rfl⟩
  · rintro ⟨removed, rfl⟩
    exact ⟨a, .ask (.done a)⟩

namespace Care.OnlyRemoves

variable {α : Type} {path : String} {d : Care α} {a : α}

theorem children (hd : d.OnlyRemoves path) {cs cs' : List Offspring}
    (h : d.Plays childWorld cs a cs') : Drift cs cs' := by
  obtain ⟨t, hleads, hfollows⟩ := h
  obtain ⟨removed, rfl⟩ := (hd t).mp ⟨a, hleads⟩
  obtain ⟨m, hremove, rfl⟩ := hfollows
  exact Care.idle_plays (plays_question_iff.mpr hremove) trivial

theorem files (hd : d.OnlyRemoves path) {here : Place} {files files' : FileTree}
    (h : d.Plays (careWorld here) files a files') : FileTree.Cleared here path files files' := by
  obtain ⟨t, hleads, hfollows⟩ := h
  obtain ⟨removed, rfl⟩ := (hd t).mp ⟨a, hleads⟩
  obtain ⟨m, hremove, rfl⟩ := hfollows
  exact FileTree.cleared_of_removeFile hremove

end Care.OnlyRemoves

namespace NodeHandle

section

variable {σ : Type} {world : World MachineCall MachineCall.Answer σ} {s s' : σ}
  {first h h' : NodeHandle}

/-- A handle about no child keeps the path of its log. -/
structure Released (first h : NodeHandle) : Prop where
  child : h.child? = none
  logPath : h.logPath = first.logPath

theorem released_stop (hstop : first.stop.Plays world s h s') : Released first h := by
  rcases stop_cases hstop with ⟨hchild, rfl, -⟩ | ⟨p, m, -, rfl, -⟩
  · exact ⟨hchild, rfl⟩
  · exact ⟨rfl, rfl⟩

theorem released_confirm {e : StartFailure}
    (hconfirm : first.confirm.Plays world s (.error e, h) s') : Released first h := by
  rcases confirm_cases hconfirm with ⟨hok, -⟩ | ⟨seen, m, log, m', stopped, -, rfl, hlook, -, hstop⟩
  · cases hok
  · obtain ⟨hchild, hpath⟩ := released_stop hstop
    exact ⟨hchild, hpath.trans (isAlive_keeps hlook).2⟩

theorem Released.trans (h₁ : Released first h) (h₂ : Released h h') : Released first h' :=
  ⟨h₂.child, h₂.logPath.trans h₁.logPath⟩

/-- A handle about no child stays one. -/
theorem Released.use {u : HandleUse} {a : u.Answer} (hreleased : Released first h)
    (huse : (u.body h).Plays world s (a, some h') s') : Released first h' := by
  rcases HandleUse.left_cases huse with ⟨r, hconfirm⟩ | ⟨alive, hlook⟩ | hstop
  · cases r with
    | error e => exact hreleased.trans (released_confirm hconfirm)
    | ok _ =>
        rcases confirm_cases hconfirm with ⟨-, rfl, -⟩ | ⟨seen, m, log, m', stopped, he, -⟩
        · exact hreleased
        · cases he
  · obtain ⟨hchild, hpath⟩ := isAlive_keeps hlook
    exact ⟨hchild.trans hreleased.child, hpath.trans hreleased.logPath⟩
  · exact hreleased.trans (released_stop hstop)

theorem Retired.released (h : Retired world first h') : Released first h' := by
  induction h with
  | stop plays => exact released_stop plays
  | confirm plays => exact released_confirm plays
  | use u before plays ih => exact ih.use plays

end

theorem Released.onlyRemoves {first h : NodeHandle} {u : HandleUse} (hreleased : Released first h)
    (hu : u.Ends) : (u.body h).OnlyRemoves first.logPath := by
  obtain ⟨hchild, hpath⟩ := hreleased
  have hstop : h.stop = Care.removeFile h.logPath >>= fun _ => pure h := by
    unfold stop
    rw [hchild]
    rfl
  rw [← hpath]
  cases u with
  | confirm | isAlive => exact hu.elim
  | stop =>
      change Care.OnlyRemoves h.logPath (h.stop >>= fun h' => pure ((), some h'))
      rw [hstop]
      exact Care.onlyRemoves_removeFile h.logPath ((), some h)
  | drop =>
      change Care.OnlyRemoves h.logPath ((h.stop >>= fun _ => pure ()) >>= fun _ => pure ((), none))
      rw [hstop]
      exact Care.onlyRemoves_removeFile h.logPath ((), none)

/-- Whatever has happened since a handle was stopped, a further stop sends no signal, and neither
does giving the handle up: all that either does is to attempt once to remove the file at the path of
its log. No child is disturbed by that. A file to which this path leads is removed, whoever writes
to it, and no other file is touched. -/
theorem Retired.ends_again {σ : Type} {world : World MachineCall MachineCall.Answer σ}
    {first h : NodeHandle} (hretired : Retired world first h) {u : HandleUse} (hu : u.Ends) :
    (u.body h).OnlyRemoves first.logPath ∧
      (∀ cs r cs', (u.body h).Plays childWorld cs r cs' → Drift cs cs') ∧
      ∀ here files r files', (u.body h).Plays (careWorld here) files r files' →
        FileTree.Cleared here first.logPath files files' := by
  have hremoves := hretired.released.onlyRemoves hu
  exact ⟨hremoves, fun _ _ _ => hremoves.children, fun _ _ _ _ => hremoves.files⟩

/-- The handle of a node that was stopped is given up. The log that another node writes to beside it
stays. -/
theorem ends_again_plain :
    let first := NodeHandle.fresh .plain 7
    let old : NodeHandle := { first with child? := none, state := .stopped }
    let files := logTree [("node.log", ⟨0, [], false⟩), ("next.log", ⟨1, [111, 107], false⟩)] 2
    Retired childWorld first old ∧ (HandleUse.drop.body old).OnlyRemoves "logs/node.log" ∧
      ∃ r files', (HandleUse.drop.body old).Plays (careWorld []) files r files' ∧
        files'.entry? ["logs", "node.log"] = none ∧
        files'.entry? ["logs", "next.log"] = some (.file ⟨1, [111, 107], false⟩) := by
  intro first old files
  have hstop : first.stop.Plays childWorld [⟨7, .ended⟩] old [⟨7, .gone⟩] := by
    refine ⟨[⟨.hasExited 7, true⟩, ⟨.removeFile "logs/node.log", .ok ()⟩],
      .ask (.ask (.done _)), ?_⟩
    exact ⟨[⟨7, .gone⟩], ⟨_, .refl _, by decide, rfl⟩, _, ⟨_, .refl _, rfl⟩, rfl⟩
  have hretired : Retired childWorld first old := .stop hstop
  obtain ⟨hremoves, -, hfiles⟩ := hretired.ends_again (u := .drop) trivial
  have hremove : changed files (files.removeFile [] "logs/node.log") =
      (.ok (), logTree [("next.log", ⟨1, [111, 107], false⟩)] 2) := by decide
  have hdrop : (HandleUse.drop.body old).Plays (careWorld []) files ((), none)
      (logTree [("next.log", ⟨1, [111, 107], false⟩)] 2) :=
    ⟨[⟨.removeFile "logs/node.log", .ok ()⟩], .ask (.done _), _, hremove, rfl⟩
  have hfind : files.find [] "logs/node.log" =
      .ok (["logs", "node.log"], .file ⟨0, [], false⟩) := by decide
  have hcleared := hfiles [] files ((), none) _ hdrop
  refine ⟨hretired, hremoves, _, _, hdrop, hcleared.gone _ _ hfind, ?_⟩
  rw [hcleared.kept ["logs", "next.log"]]
  · rfl
  · intro f hother
    simpa using hfind.symm.trans hother

/-- A node is started, stopped and started once more, and only then the handle of the first one is
given up. -/
def restarted (l : Launch) : Care (Except StartFailure NodeHandle) := do
  match ← start l with
  | .error e => pure (.error e)
  | .ok old =>
    let old ← old.stop
    let new ← start l
    old.drop
    pure new

/-- The second node is running with its log, and then giving up the handle of the first one removes
this log. -/
theorem restarted_log_removed :
    ∃ t files files', (restarted .plain).Leads (t ++ [⟨.removeFile "logs/node.log", .ok ()⟩])
        (.ok (.fresh .plain 8)) ∧
      Follows childWorld [] t [⟨8, .living⟩, ⟨7, .gone⟩] ∧
      Follows (careWorld []) .empty t files ∧ files.isFile [] "logs/node.log" = true ∧
      childWorld (.removeFile "logs/node.log") [⟨8, .living⟩, ⟨7, .gone⟩] (.ok ())
        [⟨8, .living⟩, ⟨7, .gone⟩] ∧
      careWorld [] (.removeFile "logs/node.log") files (.ok ()) files' ∧
      files'.isFile [] "logs/node.log" = false := by
  let first : List (Exchange MachineCall MachineCall.Answer) :=
    [⟨.createDirectories "logs", .ok ()⟩, ⟨.createFile "logs/node.log", .ok 0⟩,
      ⟨.spawn "./node" ["--dev"] "/project" 0, .ok 7⟩, ⟨.hasExited 7, false⟩,
      ⟨.hasExited 7, true⟩, ⟨.removeFile "logs/node.log", .ok ()⟩]
  let second : List (Exchange MachineCall MachineCall.Answer) :=
    [⟨.createDirectories "logs", .ok ()⟩, ⟨.createFile "logs/node.log", .ok 1⟩,
      ⟨.spawn "./node" ["--dev"] "/project" 1, .ok 8⟩, ⟨.hasExited 8, false⟩]
  let before := logTree [("node.log", ⟨0, [], false⟩)] 1
  let after := logTree [("node.log", ⟨1, [], false⟩)] 2
  refine ⟨first ++ second, after, logTree [] 2, ?_, ?_, ?_, by decide, ⟨_, .refl _, rfl⟩, ?_,
    by decide⟩
  · exact .ask (.ask (.ask (.ask (.ask (.ask (.ask (.ask (.ask (.ask (.ask (.done _)))))))))))
  · apply follows_append.mpr
    have hended : Drift [⟨7, .living⟩] [⟨7, .ended⟩] := .cons ⟨rfl, .inr ⟨rfl, rfl⟩⟩ .nil
    refine ⟨[⟨7, .gone⟩], ?_, ?_⟩
    · exact ⟨[], ⟨_, .refl _, rfl⟩, [], ⟨_, .refl _, rfl⟩, [⟨7, .living⟩],
        ⟨_, .refl _, by decide, rfl⟩, _, ⟨_, .refl _, by decide, rfl⟩, [⟨7, .gone⟩],
        ⟨_, hended, by decide, rfl⟩, _, ⟨_, .refl _, rfl⟩, rfl⟩
    · exact ⟨_, ⟨_, .refl _, rfl⟩, _, ⟨_, .refl _, rfl⟩, [⟨8, .living⟩, ⟨7, .gone⟩],
        ⟨_, .refl _, by decide, rfl⟩, _, ⟨_, .refl _, by decide, rfl⟩, rfl⟩
  · apply follows_append.mpr
    have hdirectory : FileTree.empty.createDirectories [] "logs" = (logTree [] 0, .ok ()) := by
      decide
    have hcreate : opened (logTree [] 0) ((logTree [] 0).openForWriting [] "logs/node.log" true) =
        (.ok 0, before) := by decide
    have hremove : changed before (before.removeFile [] "logs/node.log") =
        (.ok (), logTree [] 1) := by decide
    have hkept : (logTree [] 1).createDirectories [] "logs" = (logTree [] 1, .ok ()) := by decide
    have hnew : opened (logTree [] 1) ((logTree [] 1).openForWriting [] "logs/node.log" true) =
        (.ok 1, after) := by decide
    refine ⟨logTree [] 1, ?_, ?_⟩
    · exact ⟨_, hdirectory, _, hcreate, before, trivial, before, trivial, before, trivial, _,
        hremove, rfl⟩
    · exact ⟨_, hkept, _, hnew, after, trivial, _, trivial, rfl⟩
  · have hremove : changed after (after.removeFile [] "logs/node.log") =
        (.ok (), logTree [] 2) := by decide
    exact hremove

end NodeHandle

end NodeTrial
