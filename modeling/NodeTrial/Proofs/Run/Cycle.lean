import NodeTrial.Proofs.Run.Cascade

namespace NodeTrial.Phase.Integration

open Dialogue

/-- A finding that is the known limitation exactly under one condition, a pass exactly under another,
and a failure otherwise. -/
structure Judged (f : Finding) (limitation success : Prop) : Prop where
  skip_iff : f.outcome = .skip ↔ limitation
  limited_of_skip : f.outcome = .skip → f = limited
  pass_iff : f.outcome = .pass ↔ success
  fail_iff : f.outcome = .fail ↔ ¬ limitation ∧ ¬ success

theorem Judged.limited {limitation success : Prop} (h : limitation) (hnot : ¬ success) :
    Judged limited limitation success where
  skip_iff := iff_of_true rfl h
  limited_of_skip _ := rfl
  pass_iff := iff_of_false Outcome.noConfusion hnot
  fail_iff := iff_of_false Outcome.noConfusion fun hneither => hneither.1 h

theorem Judged.pass {limitation success : Prop} (detail : String) (h : success)
    (hnot : ¬ limitation) : Judged (.pass detail) limitation success where
  skip_iff := iff_of_false Outcome.noConfusion hnot
  limited_of_skip hskip := Outcome.noConfusion hskip
  pass_iff := iff_of_true rfl h
  fail_iff := iff_of_false Outcome.noConfusion fun hneither => hneither.2 h

theorem Judged.fail {limitation success : Prop} (cause : Cause) (detail : String)
    (hlimitation : ¬ limitation) (hsuccess : ¬ success) :
    Judged (.fail cause detail) limitation success where
  skip_iff := iff_of_false Outcome.noConfusion hlimitation
  limited_of_skip hskip := Outcome.noConfusion hskip
  pass_iff := iff_of_false Outcome.noConfusion hsuccess
  fail_iff := iff_of_true rfl ⟨hlimitation, hsuccess⟩

/-- How the words of a command end that changes something. -/
def executing : List String := ["--execute", "--skip-confirm", "--output-json"]

theorem creation_told (s : Setting) :
    (creation s).program = "cargo" ∧
      ["contract", "instantiate", artifact s, "--constructor", s.config.cycle.constructor] <+:
        (creation s).args ∧
      signerArgs s <:+: (creation s).args ∧ executing <:+ (creation s).args := by
  refine ⟨rfl, ?_, ?_, ?_⟩
  · apply List.prefix_append_of_prefix
    exact List.prefix_append _ _
  · exact ⟨_, _, rfl⟩
  · exact List.suffix_append _ _

/-- A message is sent to the contract at the address, under its name, with its arguments and the signer
of the setting. It is executed if that is asked for, and else it is only tried. -/
theorem message_told (s : Setting) (address name : String) (args : List String) (execute : Bool) :
    (message s address name args execute).program = "cargo" ∧
      ["contract", "call", "--contract", address, "--message", name] <+:
        (message s address name args execute).args ∧
      (args ≠ [] → "--args" :: args <:+: (message s address name args execute).args) ∧
      signerArgs s <:+: (message s address name args execute).args ∧
      (executing <:+ (message s address name args execute).args ↔ execute = true) := by
  have hargs : (message s address name args execute).args =
      ["contract", "call", "--contract", address, "--message", name] ++
        ((if args.isEmpty then [] else "--args" :: args) ++ (signerArgs s ++
          ((if execute then ["--execute", "--skip-confirm"] else []) ++ ["--output-json"]))) := by
    simp only [message, Invocation.command, List.append_assoc]
  refine ⟨rfl, ?_, ?_, ?_, ?_⟩
  · rw [hargs]
    exact List.prefix_append _ _
  · intro hsome
    rw [hargs, if_neg (by simpa using hsome)]
    exact ⟨_, _, List.append_assoc _ _ _⟩
  · rw [hargs, ← List.append_assoc]
    exact ⟨_, _, List.append_assoc _ _ _⟩
  · rw [hargs]
    cases execute with
    | true =>
        refine iff_of_true ?_ rfl
        rw [← List.append_assoc, ← List.append_assoc]
        exact List.suffix_append _ _
    | false =>
        refine iff_of_false ?_ Bool.noConfusion
        intro hexecuting
        have hurl : ["--url", s.config.node.wsUrl, "--output-json"] <:+
            signerArgs s ++ ([] ++ ["--output-json"]) := ⟨["--suri", s.config.cycle.suri], rfl⟩
        have hends := List.suffix_of_suffix_length_le hexecuting
          (List.suffix_append_of_suffix (List.suffix_append_of_suffix hurl)) le_rfl
        exact absurd (List.head_eq_of_cons_eq (hends.eq_of_length rfl)) (by decide)

/-- A call of the contract, made in the root of the project, with its answer. -/
def called (s : Setting) (address name : String) (args : List String) (execute : Bool)
    (o : ToolOutput) : Exchange Request Request.Answer :=
  ⟨.tool ((message s address name args execute).inDirectory s.root), o⟩

/-- The calls of a whole cycle at an address, with their answers. Granting and revoking are executed;
the queries are not. -/
def calls (s : Setting) (address : String) (granting getting having revoking : ToolOutput)
    (again : Option ToolOutput) : Transcript :=
  let subject := s.config.cycle.subject
  [called s address "grant_entitlement" [subject, granted.name] true granting,
    called s address "get_entitlement" [subject] false getting,
    called s address "has_entitlement" [subject, queried.name] false having,
    called s address "revoke_entitlement" [subject] true revoking] ++
    again.toList.map (called s address "get_entitlement" [subject] false)

variable {s : Setting} {address : String} {t : Transcript} {f : Finding}

/-- An output in which the contract is created and every later step finds what it looks for. -/
def obliging : ToolOutput := .ok "Contract AAAAAAAAAAAAAAAAAAAA\nOk Premium true None"

/-- The answers of surroundings in which everything was built, the node runs, and all tools say what
they are asked to say. -/
def thriving : (q : Request) → q.Answer
  | .isFile _ => true
  | .startNode _ => .ok 7
  | .nodeRunning => true
  | .status _ => .ok 200
  | .tool _ => obliging
  | q => Run.barren q

end NodeTrial.Phase.Integration
