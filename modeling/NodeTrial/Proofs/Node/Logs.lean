import NodeTrial.Proofs.Node.Orphans
import NodeTrial.Proofs.Node.SlotWorld
import Mathlib.Order.BooleanAlgebra.Set

namespace NodeTrial

open Dialogue

/-- The files at some places, in a world that leaves open what becomes of children and whether a file
or a child can be created. Each path leads to a place, and no place is a directory. What is relied on
is that a file that is removed is gone, and that the files are left alone otherwise. -/
def logWorld {P : Type} (place : String → P) : World MachineCall MachineCall.Answer (Set P)
  | .createFile path, files, .ok _, files' => files' = insert (place path) files
  | .createFile path, files, .error _, files' => ∀ x, x ≠ place path → (x ∈ files' ↔ x ∈ files)
  | .removeFile path, files, _, files' => files' = files \ {place path}
  | _, files, _, files' => files' = files

/-- Whether something asked of the machine creates or removes a file. -/
def MachineCall.TouchesFiles : MachineCall → Prop
  | .createFile _ | .removeFile _ => True
  | _ => False

theorem MachineCall.not_touchesFiles_of_child {c : MachineCall} {p : Pid} (h : c.child? = some p) :
    ¬ c.TouchesFiles := by
  cases c with
  | createFile | removeFile => cases h
  | _ => exact id

section

variable {P α : Type} {place : String → P} {files files' : Set P}

theorem logWorld_untouched {c : MachineCall} {a : c.Answer} (hc : ¬ c.TouchesFiles)
    (h : logWorld place c files a files') : files' = files := by
  cases c with
  | createFile | removeFile => exact absurd trivial hc
  | _ => exact h

theorem untouched_plays {d : Care α} {a : α} (hd : d.Asks fun c => ¬ c.TouchesFiles)
    (h : d.Plays (logWorld place) files a files') : files' = files := by
  obtain ⟨t, hleads, hfollows⟩ := h
  refine Follows.preserves (P := fun c => ¬ c.TouchesFiles) (· = files) ?_ (hd.of_leads hleads) rfl
    hfollows
  intro c m b m' hc hm hsame
  rw [logWorld_untouched hc hm, hsame]

namespace NodeHandle

variable {h h' : NodeHandle}

theorem removeLog_clears {path : String} {u : Unit}
    (hremove : (removeLog path).Plays (logWorld place) files u files') :
    files' = files \ {place path} := by
  obtain ⟨removed, hask⟩ := removeLog_cases hremove
  exact plays_question_iff.mp hask

theorem stop_clears (hstop : h.stop.Plays (logWorld place) files h' files') :
    h'.logPath = h.logPath ∧ files' = files \ {place h.logPath} := by
  rcases stop_cases hstop with ⟨-, rfl, hremove⟩ | ⟨p, m, -, rfl, hend, hremove⟩
  · exact ⟨rfl, removeLog_clears hremove⟩
  · obtain rfl := untouched_plays
      (endChild_asks fun _ => MachineCall.not_touchesFiles_of_child) hend
    exact ⟨rfl, removeLog_clears hremove⟩

theorem drop_clears {u : Unit} (hdrop : h.drop.Plays (logWorld place) files u files') :
    files' = files \ {place h.logPath} := by
  obtain ⟨h', hstop⟩ := drop_cases hdrop
  exact (stop_clears hstop).2

theorem isAlive_keeps_log {alive : Bool}
    (hlook : h.isAlive.Plays (logWorld place) files (alive, h') files') :
    h'.logPath = h.logPath ∧ files' = files := by
  rcases isAlive_cases hlook with
    ⟨-, -, rfl, rfl⟩ | ⟨p, -, ⟨-, rfl, hexited⟩ | ⟨-, rfl, hexited⟩⟩
  · exact ⟨rfl, rfl⟩
  · exact ⟨rfl, plays_question_iff.mp hexited⟩
  · exact ⟨rfl, plays_question_iff.mp hexited⟩

theorem confirm_logs {r : Except StartFailure Unit}
    (hconfirm : h.confirm.Plays (logWorld place) files (r, h') files') :
    h'.logPath = h.logPath ∧ (r = .ok () ∧ files' = files ∨
      ∃ e, r = .error e ∧ files' = files \ {place h.logPath}) := by
  rcases confirm_cases hconfirm with
    ⟨rfl, rfl, hlook⟩ | ⟨seen, m, log, m', stopped, rfl, rfl, hlook, hread, hstop⟩
  · exact ⟨rfl, .inl ⟨rfl, (isAlive_keeps_log hlook).2⟩⟩
  · obtain ⟨hseen, rfl⟩ := isAlive_keeps_log hlook
    obtain rfl : m' = m := plays_question_iff.mp hread
    obtain ⟨hstopped, hfiles⟩ := stop_clears hstop
    rw [hseen] at hstopped hfiles
    exact ⟨hstopped, .inr ⟨_, rfl, hfiles⟩⟩

theorem settle_keeps_logs {time : Nat} {u : Unit}
    (hsettle : (settle time).Plays (logWorld place) files u files') : files' = files := by
  rcases settle_cases hsettle with hsame | hsleep
  · exact hsame
  · exact plays_question_iff.mp hsleep

theorem prepareLog_keeps_logs {path : String} {r : Except SpawnError Unit}
    (hprepare : (prepareLog path).Plays (logWorld place) files r files') : files' = files := by
  rcases prepareLog_cases hprepare with hsame | ⟨directory, created, hcreate⟩
  · exact hsame
  · exact plays_question_iff.mp hcreate

theorem spawnChild_logs {l : Launch} {r : Except SpawnError Pid}
    (hspawn : (spawnChild l).Plays (logWorld place) files r files') :
    (∀ p, r = .ok p → files' = insert (place l.logPath) files) ∧
      ∀ x, x ≠ place l.logPath → (x ∈ files' ↔ x ∈ files) := by
  rcases spawnChild_cases hspawn with
    ⟨e, rfl, hprepare⟩ | ⟨e, m, rfl, hprepare, hcreate⟩ |
      ⟨m, log, m', spawned, rfl, hprepare, hcreate, hask⟩
  · obtain rfl := prepareLog_keeps_logs hprepare
    exact ⟨fun p hp => (nomatch hp), fun x _ => Iff.rfl⟩
  · obtain rfl := prepareLog_keeps_logs hprepare
    exact ⟨fun p hp => (nomatch hp), plays_question_iff.mp hcreate⟩
  · obtain rfl := prepareLog_keeps_logs hprepare
    obtain rfl : m' = insert (place l.logPath) m := plays_question_iff.mp hcreate
    obtain rfl : files' = insert (place l.logPath) m := plays_question_iff.mp hask
    exact ⟨fun _ _ => rfl, fun x hx => Set.mem_insert_iff.trans (or_iff_right hx)⟩

theorem spawn_logs {l : Launch} {r : Except StartFailure NodeHandle}
    (hspawn : (spawn l).Plays (logWorld place) files r files') :
    (∃ p, r = .ok (fresh l p) ∧ files' = insert (place l.logPath) files) ∨
      ∃ e, r = .error e ∧ files' = files \ {place l.logPath} := by
  rcases spawn_cases hspawn with ⟨p, rfl, hchild⟩ | ⟨e, m, rfl, hchild, hremove⟩
  · exact .inl ⟨p, rfl, (spawnChild_logs hchild).1 p rfl⟩
  · refine .inr ⟨_, rfl, ?_⟩
    rw [removeLog_clears hremove]
    ext x
    constructor
    · rintro ⟨hx, hplace⟩
      exact ⟨((spawnChild_logs hchild).2 x hplace).mp hx, hplace⟩
    · rintro ⟨hx, hplace⟩
      exact ⟨((spawnChild_logs hchild).2 x hplace).mpr hx, hplace⟩

/-- A start leaves the log of a node that is alive, and otherwise removes it. -/
theorem start_logs {l : Launch} {r : Except StartFailure NodeHandle}
    (hstart : (start l).Plays (logWorld place) files r files') :
    (∃ p, r = .ok (fresh l p) ∧ files' = insert (place l.logPath) files) ∨
      ∃ e, r = .error e ∧ files' = files \ {place l.logPath} := by
  rcases start_cases hstart with ⟨e, rfl, hspawn⟩ | ⟨h, m, m', hspawn, hsettle, hlooked⟩
  · exact spawn_logs hspawn
  · obtain rfl := settle_keeps_logs hsettle
    rcases spawn_logs hspawn with ⟨p, hp, rfl⟩ | ⟨e, he, -⟩
    · obtain rfl := Except.ok.inj hp
      rcases hlooked with ⟨rfl, hconfirm⟩ | ⟨e, h', m'', rfl, hconfirm, hdrop⟩
      · rcases confirm_logs hconfirm with ⟨-, ⟨-, rfl⟩ | ⟨e, he, -⟩⟩
        · exact .inl ⟨p, rfl, rfl⟩
        · cases he
      · rcases confirm_logs hconfirm with ⟨hpath, ⟨he, -⟩ | ⟨_, -, rfl⟩⟩
        · cases he
        · obtain rfl := drop_clears hdrop
          rw [hpath, sdiff_idem]
          exact .inr ⟨e, rfl, Set.insert_sdiff_of_mem _ (Set.mem_singleton _)⟩
    · cases he

end NodeHandle

end

/-- A slot and the files, and the paths of the logs with which nodes were started so far. -/
structure LogKeeping (P : Type) where
  slot : Slotted (Set P)
  used : List String

/-- The paths of logs with which a use of the slot starts a node. -/
def SlotUse.logPaths : SlotUse → List String
  | .start l => [l.logPath]
  | _ => []

/-- Whether a use of the slot is one that must leave it empty: it ends the node, or it is a start
that has failed. -/
def SlotUse.Clears : (u : SlotUse) → u.Answer → Prop
  | .stop, _ | .teardown, _ | .dropGuard, _ => True
  | .start _, .error _ => True
  | _, _ => False

namespace LogKeeping

variable {P : Type} {place : String → P}

/-- The log of the node that is held is there, and no other log is that was ever used. -/
structure Tidy (place : String → P) (k : LogKeeping P) : Prop where
  held_log : ∀ h, k.slot.held = some h → place h.logPath ∈ k.slot.state
  no_other : ∀ path ∈ k.used, (∀ h, k.slot.held = some h → place path ≠ place h.logPath) →
    place path ∉ k.slot.state

/-- The slot is empty, and no log is there that was ever used. -/
def Cleared (place : String → P) (k : LogKeeping P) : Prop :=
  k.slot.held = none ∧ ∀ path ∈ k.used, place path ∉ k.slot.state

/-- What the slot and the files can come to when the slot, empty at first, is used by one use after
the other. Any files may be there at first. -/
inductive Reached (place : String → P) : LogKeeping P → Prop
  | initial (files : Set P) : Reached place ⟨⟨none, files⟩, []⟩
  | use {k : LogKeeping P} {slot : Slotted (Set P)} (u : SlotUse) {a : u.Answer}
      (before : Reached place k) (plays : u.thread.Plays (slotWorld (logWorld place)) k.slot a slot) :
      Reached place ⟨slot, k.used ++ u.logPaths⟩

section

variable {files files' : Set P} {used : List String}

theorem Cleared.tidy {k : LogKeeping P} (hk : Cleared place k) : Tidy place k := by
  obtain ⟨hempty, hnone⟩ := hk
  refine ⟨fun h hheld => ?_, fun path hpath _ => hnone path hpath⟩
  rw [hempty] at hheld
  cases hheld

theorem Tidy.clear {h : NodeHandle} (hk : Tidy place ⟨⟨some h, files⟩, used⟩) :
    Cleared place ⟨⟨none, files \ {place h.logPath}⟩, used⟩ := by
  refine ⟨rfl, fun path hpath hfile => ?_⟩
  refine hk.no_other path hpath (fun h' hheld => ?_) hfile.1
  obtain rfl := Option.some.inj hheld
  exact hfile.2

theorem Cleared.hold {l : Launch} {p : Pid} (hk : Cleared place ⟨⟨none, files⟩, used⟩) :
    Tidy place ⟨⟨some (.fresh l p), insert (place l.logPath) files⟩, used ++ [l.logPath]⟩ := by
  refine ⟨fun h hheld => ?_, fun path hpath hother hfile => ?_⟩
  · obtain rfl := Option.some.inj hheld
    exact Set.mem_insert _ _
  · have hne : place path ≠ place l.logPath := hother _ rfl
    have hold : place path ∈ files := (Set.mem_insert_iff.mp hfile).resolve_left hne
    rcases List.mem_append.mp hpath with hpath | hpath
    · exact hk.2 path hpath hold
    · rw [List.mem_singleton.mp hpath] at hne
      exact hne rfl

theorem Cleared.remove {path : String} (hk : Cleared place ⟨⟨none, files⟩, used⟩) :
    Cleared place ⟨⟨none, files \ {place path}⟩, used ++ [path]⟩ := by
  refine ⟨rfl, fun path' hpath' hfile => ?_⟩
  rcases List.mem_append.mp hpath' with hpath' | hpath'
  · exact hk.2 path' hpath' hfile.1
  · rw [List.mem_singleton.mp hpath'] at hfile
    exact hfile.2 rfl

theorem Tidy.of_logPath {h h' : NodeHandle} (hk : Tidy place ⟨⟨some h, files⟩, used⟩)
    (hpath : h'.logPath = h.logPath) : Tidy place ⟨⟨some h', files⟩, used⟩ := by
  refine ⟨fun g hheld => ?_, fun path hmem hother => ?_⟩
  · obtain rfl := Option.some.inj hheld
    rw [hpath]
    exact hk.held_log h rfl
  · refine hk.no_other path hmem fun g hheld => ?_
    obtain rfl := Option.some.inj hheld
    rw [← hpath]
    exact hother h' rfl

theorem Tidy.cleared_of_empty (hk : Tidy place ⟨⟨none, files⟩, used⟩) :
    Cleared place ⟨⟨none, files⟩, used⟩ :=
  ⟨rfl, fun path hpath => hk.no_other path hpath fun _ hheld => (nomatch hheld)⟩

theorem Tidy.teardown {slot slot' : Slotted (Set P)} {u : Unit} (hk : Tidy place ⟨slot, used⟩)
    (h : NodeSlot.teardown.Plays (slotWorld (logWorld place)) slot u slot') :
    Cleared place ⟨slot', used⟩ := by
  obtain ⟨held', files'⟩ := slot'
  obtain ⟨hempty, hwas⟩ := NodeSlot.teardown_cases h
  obtain rfl : held' = none := hempty
  obtain ⟨held, files⟩ := slot
  rcases hwas with ⟨hheld, hsame⟩ | ⟨handle, stopped, m, hheld, hstop, hdrop⟩
  · obtain rfl : held = none := hheld
    obtain rfl : files' = files := hsame
    exact hk.cleared_of_empty
  · obtain rfl : held = some handle := hheld
    obtain ⟨hpath, rfl⟩ := NodeHandle.stop_clears hstop
    have hfiles : files' = (files \ {place handle.logPath}) \ {place stopped.logPath} :=
      NodeHandle.drop_clears hdrop
    rw [hpath, sdiff_idem] at hfiles
    rw [hfiles]
    exact hk.clear

theorem Cleared.start {l : Launch} {r : Except StartFailure NodeHandle}
    (hk : Cleared place ⟨⟨none, files⟩, used⟩)
    (h : (NodeHandle.start l).Plays (logWorld place) files r files') :
    Tidy place ⟨⟨r.toOption, files'⟩, used ++ [l.logPath]⟩ ∧
      ∀ e, r = .error e → Cleared place ⟨⟨r.toOption, files'⟩, used ++ [l.logPath]⟩ := by
  rcases NodeHandle.start_logs h with ⟨p, rfl, rfl⟩ | ⟨e, rfl, rfl⟩
  · exact ⟨hk.hold, fun e he => (nomatch he)⟩
  · exact ⟨hk.remove.tidy, fun _ _ => hk.remove⟩

end

/-- Every use of the slot leaves the logs tidy, and none where it must leave the slot empty. -/
theorem Tidy.use {k : LogKeeping P} {slot : Slotted (Set P)} {u : SlotUse} {a : u.Answer}
    (hk : Tidy place k) (h : u.thread.Plays (slotWorld (logWorld place)) k.slot a slot) :
    Tidy place ⟨slot, k.used ++ u.logPaths⟩ ∧
      (u.Clears a → Cleared place ⟨slot, k.used ++ u.logPaths⟩) := by
  have hteardown (h : NodeSlot.teardown.Plays (slotWorld (logWorld place)) k.slot () slot) :
      Tidy place ⟨slot, k.used ++ []⟩ ∧ (True → Cleared place ⟨slot, k.used ++ []⟩) := by
    rw [List.append_nil]
    have hcleared := hk.teardown h
    exact ⟨hcleared.tidy, fun _ => hcleared⟩
  cases u with
  | start l =>
      obtain ⟨⟨held, files⟩, started, hdown, hstart, hheld, ha⟩ := NodeSlot.start_cases h
      obtain ⟨held', files'⟩ := slot
      have hcleared := hk.teardown hdown
      obtain rfl : held = none := hcleared.1
      obtain rfl : held' = started.toOption := hheld
      obtain ⟨htidy, hfailed⟩ := hcleared.start hstart
      refine ⟨htidy, fun hclears => ?_⟩
      cases started with
      | error e => exact hfailed e rfl
      | ok handle =>
          rw [ha] at hclears
          exact hclears.elim
  | isRunning =>
      refine ⟨?_, fun hclears => hclears.elim⟩
      obtain ⟨⟨held, files⟩, used⟩ := k
      obtain ⟨held', files'⟩ := slot
      change Tidy place ⟨_, used ++ []⟩
      rw [List.append_nil]
      rcases NodeSlot.isRunning_cases h with
        ⟨-, -, hsame⟩ | ⟨handle, handle', hheld, hheld', hlook⟩
      · rw [hsame]
        exact hk
      · obtain rfl : held = some handle := hheld
        obtain rfl : held' = some handle' := hheld'
        obtain ⟨hpath, hfiles⟩ := NodeHandle.isAlive_keeps_log hlook
        obtain rfl : files' = files := hfiles
        exact hk.of_logPath hpath
  | stop => exact hteardown h
  | teardown => exact hteardown h
  | dropGuard => exact hteardown (NodeSlot.guarded_pure_cases h)

theorem Reached.tidy {k : LogKeeping P} (h : Reached place k) : Tidy place k := by
  induction h with
  | initial files =>
      exact Cleared.tidy ⟨rfl, List.forall_mem_nil _⟩
  | use u before plays ih => exact (ih.use plays).1

/-- After any uses of a slot one after the other the log of the node that the slot holds is there,
and no file is at any other place to which the path of a log leads that was ever used. After a use
that ends the node, and after a start that has failed, the slot is empty and no file is at the path
of any log that was ever used. -/
theorem Reached.logs_kept {k : LogKeeping P} (h : Reached place k) :
    (∀ handle, k.slot.held = some handle → place handle.logPath ∈ k.slot.state) ∧
      (∀ path ∈ k.used, (∀ handle, k.slot.held = some handle → place path ≠ place handle.logPath) →
        place path ∉ k.slot.state) ∧
      ∀ (u : SlotUse) (a : u.Answer) (slot : Slotted (Set P)),
        u.thread.Plays (slotWorld (logWorld place)) k.slot a slot → u.Clears a →
          slot.held = none ∧ ∀ path ∈ k.used ++ u.logPaths, place path ∉ slot.state := by
  have htidy := h.tidy
  exact ⟨htidy.held_log, htidy.no_other, fun u a slot hplays hclears =>
    (htidy.use hplays).2 hclears⟩

theorem start_plain_logged :
    (NodeSlot.start .plain).Plays (slotWorld (logWorld id)) ⟨none, ∅⟩ (.ok 7)
      ⟨some (.fresh .plain 7), {"logs/node.log"}⟩ := by
  refine ⟨[⟨.slot .take, none⟩, ⟨.machine (.createDirectories "logs"), .ok ()⟩,
    ⟨.machine (.createFile "logs/node.log"), .ok 0⟩,
    ⟨.machine (.spawn "./node" ["--dev"] "/project" 0), .ok 7⟩,
    ⟨.slot (.put (.fresh .plain 7)), ()⟩, ⟨.slot .confirm, .ok ()⟩], ?_, ?_⟩
  · exact .ask (.ask (.ask (.ask (.ask (.ask (.done _))))))
  · refine ⟨⟨none, ∅⟩, plays_pure_iff.mpr ⟨rfl, rfl⟩, ⟨none, ∅⟩, ⟨rfl, rfl⟩,
      ⟨none, insert "logs/node.log" ∅⟩, ⟨rfl, rfl⟩, ⟨none, {"logs/node.log"}⟩,
      ⟨rfl, (insert_empty_eq _).symm⟩, ⟨some (.fresh .plain 7), {"logs/node.log"}⟩,
      plays_pure_iff.mpr ⟨rfl, rfl⟩, ⟨some (.fresh .plain 7), {"logs/node.log"}⟩, ?_, rfl⟩
    exact ⟨[⟨.hasExited 7, false⟩], .ask (.done _), {"logs/node.log"}, rfl, rfl⟩

theorem logs_kept_plain :
    let k : LogKeeping String := ⟨⟨some (.fresh .plain 7), {"logs/node.log"}⟩, ["logs/node.log"]⟩
    Reached id k ∧ "logs/node.log" ∈ k.slot.state ∧
      ∀ slot, NodeSlot.teardown.Plays (slotWorld (logWorld id)) k.slot () slot →
        "logs/node.log" ∉ slot.state := by
  intro k
  have hreached : Reached id k := .use (.start .plain) (.initial ∅) start_plain_logged
  obtain ⟨hheld, -, hcleared⟩ := hreached.logs_kept
  refine ⟨hreached, hheld _ rfl, fun slot hdown => ?_⟩
  exact (hcleared .teardown () slot hdown trivial).2 "logs/node.log" (List.mem_singleton.mpr rfl)

end LogKeeping

end NodeTrial
