import NodeTrial.Proofs.Dialogue.Transcript
import NodeTrial.Proofs.Ledger.Growth
import NodeTrial.Check

namespace NodeTrial

/-- What was asked during a run, with the answers. -/
abbrev Transcript : Type := List (Exchange Request Request.Answer)

/-- Whether a request does nothing but show a line to the operator. -/
def Request.isTell : Request → Bool
  | .tell _ => true
  | _ => false

/-- A transcript without the lines that the operator was shown. -/
def quiet (t : Transcript) : Transcript := t.filter fun e => !e.1.isTell

theorem quiet_append (t u : Transcript) : quiet (t ++ u) = quiet t ++ quiet u :=
  List.filter_append ..

theorem mem_quiet_iff {e : Exchange Request Request.Answer} {t : Transcript} :
    e ∈ quiet t ↔ e ∈ t ∧ e.1.isTell = false := by
  simp [quiet]

theorem Setting.quiet_of_tell {s : Setting} {line : String} {t : Transcript} {u : Unit}
    (h : (s.tell line).Leads t u) : quiet t = [] := by
  unfold Setting.tell at h
  split at h
  · rw [Dialogue.leads_question_iff.mp h]
    rfl
  · rw [(Dialogue.leads_pure_iff.mp h).1]
    rfl

namespace Standing

/-- The standing with more findings in its ledger. -/
def after (st : Standing) (fs : List (String × Finding)) : Standing :=
  { st with ledger := st.ledger.enterAll fs }

theorem after_append (st : Standing) (fs gs : List (String × Finding)) :
    st.after (fs ++ gs) = (st.after fs).after gs := by
  rw [after, Ledger.enterAll_append]
  rfl

theorem enter_leads {st st' : Standing} {s : Setting} {name : String} {f : Finding}
    {t : Transcript} (h : (st.enter s name f).Leads t st') :
    quiet t = [] ∧ st' = st.after [(name, f)] := by
  obtain ⟨t₁, t₂, _, rfl, htell, hdone⟩ := Dialogue.leads_bind_iff.mp h
  obtain ⟨rfl, rfl⟩ := Dialogue.leads_pure_iff.mp hdone
  refine ⟨?_, rfl⟩
  rw [List.append_nil]
  exact Setting.quiet_of_tell htell

theorem carryOut_leads {st st' : Standing} {s : Setting} {name : String} {check : Trial Finding}
    {t : Transcript} (h : (st.carryOut s name check).Leads t st') :
    ∃ f t', check.Leads t' f ∧ quiet t = quiet t' ∧ st' = st.after [(name, f)] := by
  obtain ⟨t₁, t₂, f, rfl, hcheck, henter⟩ := Dialogue.leads_bind_iff.mp h
  obtain ⟨hquiet, rfl⟩ := enter_leads henter
  refine ⟨f, t₁, hcheck, ?_, rfl⟩
  rw [quiet_append, hquiet, List.append_nil]

end Standing

/-- Named checks came to named findings, with the transcript of all of them. -/
inductive Checked : List (String × Trial Finding) → List (String × Finding) → Transcript → Prop
  | nil : Checked [] [] []
  | cons {name : String} {check : Trial Finding} {checks : List (String × Trial Finding)}
      {f : Finding} {fs : List (String × Finding)} {t t' : Transcript}
      (first : check.Leads t f) (rest : Checked checks fs t') :
      Checked ((name, check) :: checks) ((name, f) :: fs) (t ++ t')

theorem Checked.map_fst {checks : List (String × Trial Finding)} {fs : List (String × Finding)}
    {t : Transcript} (h : Checked checks fs t) : fs.map (·.1) = checks.map (·.1) := by
  induction h with
  | nil => rfl
  | cons first rest ih => rw [List.map_cons, List.map_cons, ih]

namespace Standing

theorem carryOutAll_leads {st st' : Standing} {s : Setting}
    {checks : List (String × Trial Finding)} {t : Transcript}
    (h : (st.carryOutAll s checks).Leads t st') :
    ∃ fs t', Checked checks fs t' ∧ quiet t = quiet t' ∧ st' = st.after fs := by
  induction checks generalizing st t with
  | nil =>
      obtain ⟨rfl, rfl⟩ := Dialogue.leads_pure_iff.mp h
      exact ⟨[], [], .nil, rfl, rfl⟩
  | cons check rest ih =>
      obtain ⟨name, check⟩ := check
      obtain ⟨t₁, t₂, st₁, rfl, hfirst, hrest⟩ := Dialogue.leads_bind_iff.mp h
      obtain ⟨f, t₁', hf, hq₁, rfl⟩ := carryOut_leads hfirst
      obtain ⟨fs, t₂', hfs, hq₂, rfl⟩ := ih hrest
      refine ⟨(name, f) :: fs, t₁' ++ t₂', .cons hf hfs, ?_, ?_⟩
      · rw [quiet_append, quiet_append, hq₁, hq₂]
      · exact (after_append st [(name, f)] fs).symm

end Standing

end NodeTrial
