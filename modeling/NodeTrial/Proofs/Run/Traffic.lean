import NodeTrial.Proofs.Run.Requests

namespace NodeTrial

/-- Whether the node may be running after an exchange, given whether it may before. -/
def nodeAfter (up : Bool) : Exchange Request Request.Answer → Bool
  | ⟨.startNode _, .ok _⟩ => true
  | ⟨.startNode _, .error _⟩ => false
  | ⟨.stopNode, _⟩ => false
  | _ => up

/-- The node is reported as running only while it may be. -/
def honestFrom : Bool → Transcript → Prop
  | _, [] => True
  | up, e :: t => (e = ⟨.nodeRunning, true⟩ → up = true) ∧ honestFrom (nodeAfter up e) t

/-- The node is not reported as running before a start succeeds, nor after a stop or a start that
failed. -/
def HonestNode (t : Transcript) : Prop := honestFrom false t

theorem honestFrom_append {up : Bool} {t u : Transcript} :
    honestFrom up (t ++ u) ↔ honestFrom up t ∧ honestFrom (t.foldl nodeAfter up) u := by
  induction t generalizing up with
  | nil => simp [honestFrom]
  | cons e t ih =>
      rw [List.cons_append, honestFrom, honestFrom, ih, and_assoc, List.foldl_cons]

theorem honestFrom_quiet {up : Bool} {t : Transcript} :
    honestFrom up (quiet t) ↔ honestFrom up t := by
  induction t generalizing up with
  | nil => exact Iff.rfl
  | cons e t ih =>
      obtain ⟨q, a⟩ := e
      cases q with
      | tell line =>
          have htell : quiet (⟨.tell line, a⟩ :: t) = quiet t := rfl
          rw [htell, ih, honestFrom]
          exact ⟨fun h => ⟨fun he => absurd (congrArg Sigma.fst he) Request.noConfusion, h⟩,
            fun h => h.2⟩
      | _ => exact and_congr Iff.rfl ih

theorem honestFrom_of_forall {up : Bool} {t : Transcript}
    (h : ∀ e ∈ t, e ≠ ⟨.nodeRunning, true⟩) : honestFrom up t := by
  induction t generalizing up with
  | nil => trivial
  | cons e t ih =>
      obtain ⟨hfirst, hrest⟩ := List.forall_mem_cons.mp h
      exact ⟨fun he => absurd he hfirst, ih hrest⟩

theorem foldl_nodeAfter_of_offline {up : Bool} {t : Transcript} (h : ∀ e ∈ t, e.1.Offline) :
    t.foldl nodeAfter up = up := by
  induction t with
  | nil => rfl
  | cons e t ih =>
      obtain ⟨hq, hrest⟩ := List.forall_mem_cons.mp h
      have hfirst : nodeAfter up e = up := by
        obtain ⟨q, a⟩ := e
        cases q with
        | startNode l => exact hq.elim
        | stopNode => exact hq.elim
        | _ => rfl
      rw [List.foldl_cons, hfirst]
      exact ih hrest

def fetched (t : Transcript) : List String :=
  t.filterMap fun e => match e.1 with
    | .status url => some url
    | _ => none

theorem fetched_append (t u : Transcript) : fetched (t ++ u) = fetched t ++ fetched u :=
  List.filterMap_append

theorem fetched_quiet (t : Transcript) : fetched (quiet t) = fetched t := by
  rw [fetched, quiet, List.filterMap_filter, fetched]
  congr 1
  funext e
  obtain ⟨q, a⟩ := e
  cases q <;> rfl

theorem fetched_eq_nil {t : Transcript} (h : ∀ e ∈ t, ∀ url, e.1 ≠ .status url) :
    fetched t = [] := by
  apply List.filterMap_eq_nil_iff.mpr
  rintro ⟨q, a⟩ he
  cases q with
  | status url => exact absurd rfl (h _ he url)
  | _ => rfl

theorem fetched_of_offline {t : Transcript} (h : ∀ e ∈ t, e.1.Offline) : fetched t = [] := by
  apply fetched_eq_nil
  intro e he url hurl
  have hoffline := h e he
  rw [hurl] at hoffline
  exact hoffline

/-- Whether a request works on a node that is ready: a call of the node, or a command that deploys,
creates or calls contracts. -/
def Request.UsesNode : Request → Prop
  | .call .. => True
  | .tool i => i.UsesNode
  | _ => False

theorem Request.Offline.not_usesNode {q : Request} (h : q.Offline) : ¬ q.UsesNode := by
  cases q with
  | tool i => exact h
  | call url method params => exact h.elim
  | _ => exact id

theorem Request.not_usesNode_of_isTell {q : Request} (h : q.isTell = true) : ¬ q.UsesNode := by
  cases q with
  | tell line => exact id
  | _ => exact absurd h Bool.false_ne_true

theorem not_usesNode_of_quiet {t : Transcript} (h : ∀ e ∈ quiet t, ¬ e.1.UsesNode) :
    ∀ e ∈ t, ¬ e.1.UsesNode := by
  intro e he
  cases htell : e.1.isTell with
  | true => exact Request.not_usesNode_of_isTell htell
  | false => exact h e (mem_quiet_iff.mpr ⟨he, htell⟩)

namespace Phase.Integration

theorem GateMisses.not_usesNode {path : String} {file p : Prerequisite} {t : Transcript}
    (h : GateMisses path file t p) : ∀ e ∈ t, ¬ e.1.UsesNode := by
  cases h <;> simp [Request.UsesNode]

theorem GateMisses.quiet_eq {path : String} {file p : Prerequisite} {t : Transcript}
    (h : GateMisses path file t p) : quiet t = t := by
  cases h <;> rfl

theorem GateMisses.fetched_eq_nil {path : String} {file p : Prerequisite} {t : Transcript}
    (h : GateMisses path file t p) : fetched t = [] := by
  cases h <;> rfl

end Phase.Integration

end NodeTrial
