import NodeTrial.Check
import NodeTrial.Proofs.Pattern.Words

namespace NodeTrial

theorem Pattern.occursIn_combined {p : Pattern} (hp : p.readsLines = true) (o : ToolOutput) :
    p.occursIn o.combined = true ↔ p.occursIn o.stdout = true ∨ p.occursIn o.stderr = true := by
  unfold ToolOutput.combined
  split
  next herr => simp [not_occursIn_of_blank hp herr]
  next =>
    split
    next hout => simp [not_occursIn_of_blank hp hout]
    next => exact occursIn_lines hp o.stdout o.stderr

namespace Limitation

open Pattern

/-- The words of the runtime when the pallet is missing. -/
def named : Language Char := {w | w = "Pallet not found: Revive".toList}

/-- What a message calls the pallet, in lower case. -/
def subjects : List String :=
  ["palletrevive", "pallet-revive", "pallet_revive", "pallet revive", "revive pallet"]

/-- What a message says of the pallet, in lower case. -/
def verdicts : List String := ["not found", "not available", "unavailable"]

/-- A message on one line that calls the pallet by some name and then says that it is missing, in
letters of any case. -/
def described : Language Char :=
  {w | ∃ subject between verdict, w = subject ++ between ++ verdict ∧
    (∃ s ∈ subjects, subject.map Char.toLower = s.toList) ∧ '\n' ∉ between ∧
    ∃ v ∈ verdicts, verdict.map Char.toLower = v.toList}

/-- A text tells of the limitation. -/
def ToldBy (text : String) : Prop :=
  ∃ w, (w ∈ named ∨ w ∈ described) ∧ w <:+: text.toList

theorem ToldBy.length_le {text : String} (h : ToldBy text) : 21 ≤ text.toList.length := by
  obtain ⟨w, hw, hstands⟩ := h
  refine le_trans ?_ hstands.length_le
  rcases hw with rfl | ⟨subject, between, verdict, rfl, ⟨s, hs, hsubject⟩, -, v, hv, hverdict⟩
  · decide
  · have hsubjects : ∀ s ∈ subjects, 12 ≤ s.toList.length := by decide
    have hverdicts : ∀ v ∈ verdicts, 9 ≤ v.toList.length := by decide
    have hfront : 12 ≤ subject.length := by
      have := hsubjects s hs
      rwa [← hsubject, List.length_map] at this
    have hback : 9 ≤ verdict.length := by
      have := hverdicts v hv
      rwa [← hverdict, List.length_map] at this
    rw [List.length_append, List.length_append]
    omega

def namedPattern : Pattern := seqOf (letters .single "Pallet not found: Revive")

def joint : Pattern :=
  .many (.one (.fold (.ofList [.single '-', .single '_', .single ' ']))) 0 (some 1)

def subjectPattern : Pattern :=
  .alt (seqOf (letters anyCase "pallet" ++ joint :: letters anyCase "revive"))
    (seqOf (letters anyCase "revive pallet"))

def verdictPattern : Pattern :=
  .alt (seqOf (letters anyCase "not found"))
    (.alt (seqOf (letters anyCase "not available")) (seqOf (letters anyCase "unavailable")))

def describedPattern : Pattern :=
  seqOf [.empty, .group subjectPattern, .many (.one (.complement (.single '\n'))) 0 none,
    .group verdictPattern]

/-- The patterns that the usual texts are read as. -/
def usual : List Pattern := [namedPattern, describedPattern]

theorem ofTexts_default :
    Pattern.ofTexts CycleConfig.default.limitationPatterns = .ok usual := by
  have h : (Pattern.ofTexts CycleConfig.default.limitationPatterns).toOption = some usual := by
    decide +kernel
  cases hread : Pattern.ofTexts CycleConfig.default.limitationPatterns with
  | error text =>
      rw [hread] at h
      cases h
  | ok ps =>
      rw [hread] at h
      rw [Option.some.inj h]

theorem readsLines_of_mem {p : Pattern} (hp : p ∈ usual) : p.readsLines = true := by
  have hall : usual.all readsLines = true := by decide +kernel
  exact List.all_eq_true.mp hall p hp

theorem occursIn_iff_of_mem {p : Pattern} (hp : p ∈ usual) (text : String) :
    p.occursIn text = true ↔ ∃ w ∈ p.language, w <:+: text.toList :=
  occursIn_iff_stretch (readsLines_iff.mp (readsLines_of_mem hp)).1

variable {w : List Char}

theorem mem_joint : w ∈ joint.language ↔
    ∃ s ∈ ["", "-", "_", " "], w.map Char.toLower = s.toList := by
  have hholds {c : Char} :
      (CharSet.fold (.ofList [.single '-', .single '_', .single ' '])).holds c = true ↔
        c.toLower = '-' ∨ c.toLower = '_' ∨ c.toLower = ' ' := by
    rw [← holds_anyCase (c := '-') (by decide), ← holds_anyCase (c := '_') (by decide),
      ← holds_anyCase (c := ' ') (by decide)]
    exact CharSet.holds_fold_union.trans (or_congr_right CharSet.holds_fold_union)
  rw [joint, mem_language_many_one]
  cases w with
  | nil => simp
  | cons c rest =>
      cases rest with
      | nil => simp [hholds]
      | cons d rest => simp

theorem mem_joined :
    w ∈ (seqOf (letters anyCase "pallet" ++ joint :: letters anyCase "revive")).language ↔
      ∃ s ∈ ["", "-", "_", " "], w.map Char.toLower = ("pallet" ++ s ++ "revive").toList := by
  rw [language_seqOf, List.map_append, List.map_cons, List.prod_append, List.prod_cons]
  constructor
  · rintro ⟨u, hu, rest, ⟨v, hv, x, hx, rfl⟩, rfl⟩
    obtain ⟨s, hs, hv⟩ := mem_joint.mp hv
    refine ⟨s, hs, ?_⟩
    rw [List.map_append, List.map_append, (mem_prod_anyCase (by decide)).mp hu, hv,
      (mem_prod_anyCase (by decide)).mp hx, String.toList_append, String.toList_append,
      List.append_assoc]
  · rintro ⟨s, hs, hw⟩
    rw [String.toList_append, String.toList_append, List.append_assoc] at hw
    obtain ⟨u, rest, rfl, hu, hrest⟩ := List.map_eq_append_iff.mp hw
    obtain ⟨v, x, rfl, hv, hx⟩ := List.map_eq_append_iff.mp hrest
    exact ⟨u, (mem_prod_anyCase (by decide)).mpr hu, v ++ x,
      ⟨v, mem_joint.mpr ⟨s, hs, hv⟩, x, (mem_prod_anyCase (by decide)).mpr hx, rfl⟩, rfl⟩

theorem mem_subject : w ∈ subjectPattern.language ↔
    ∃ s ∈ subjects, w.map Char.toLower = s.toList := by
  have hsubjects : subjects =
      ["", "-", "_", " "].map (fun s => "pallet" ++ s ++ "revive") ++ ["revive pallet"] := by
    decide
  rw [subjectPattern, mem_language_alt, mem_joined, language_seqOf, mem_prod_anyCase (by decide),
    hsubjects]
  simp only [List.mem_append, List.mem_map, List.mem_singleton, or_and_right, exists_or,
    exists_exists_and_eq_and, exists_eq_left]

theorem mem_verdict : w ∈ verdictPattern.language ↔
    ∃ v ∈ verdicts, w.map Char.toLower = v.toList := by
  rw [verdictPattern, mem_language_alt, mem_language_alt, language_seqOf, language_seqOf,
    language_seqOf, mem_prod_anyCase (by decide), mem_prod_anyCase (by decide),
    mem_prod_anyCase (by decide)]
  simp [verdicts]

theorem language_named : namedPattern.language = named :=
  Set.ext fun _ => mem_language_exactly _

theorem mem_between : w ∈ (many (one (.complement (.single '\n'))) 0 none).language ↔ '\n' ∉ w := by
  rw [mem_language_many_one]
  simp only [CharSet.holds, Bool.not_eq_true', Bool.eq_false_iff, ne_eq, CharSet.holds_single]
  constructor
  · intro h hmem
    exact h.2.2 '\n' hmem rfl
  · intro h
    refine ⟨Nat.zero_le _, ?_, ?_⟩
    · intro most hmost
      cases hmost
    · rintro c hc rfl
      exact h hc

theorem language_described : describedPattern.language = described := by
  ext w
  have hshape : describedPattern.language = subjectPattern.language *
      ((many (one (.complement (.single '\n'))) 0 none).language * verdictPattern.language) := by
    rw [describedPattern, language_seqOf]
    simp only [List.map_cons, List.map_nil, List.prod_cons, List.prod_nil, mul_one]
    exact one_mul _
  rw [hshape]
  constructor
  · rintro ⟨subject, hsubject, rest, ⟨between, hbetween, verdict, hverdict, rfl⟩, rfl⟩
    exact ⟨subject, between, verdict, (List.append_assoc ..).symm, mem_subject.mp hsubject,
      mem_between.mp hbetween, mem_verdict.mp hverdict⟩
  · rintro ⟨subject, between, verdict, rfl, hsubject, hbetween, hverdict⟩
    exact ⟨subject, mem_subject.mpr hsubject, between ++ verdict, ⟨between,
      mem_between.mpr hbetween, verdict, mem_verdict.mpr hverdict, rfl⟩,
      (List.append_assoc ..).symm⟩

theorem map_language_usual : usual.map language = [named, described] := by
  rw [usual, List.map_cons, List.map_cons, List.map_nil, language_named, language_described]

theorem exists_occursIn_iff (text : String) :
    (∃ p ∈ usual, p.occursIn text = true) ↔ ToldBy text := by
  have hlanguage (w : List Char) : (∃ p ∈ usual, w ∈ p.language) ↔ w ∈ named ∨ w ∈ described := by
    rw [← language_named, ← language_described]
    simp [usual]
  constructor
  · rintro ⟨p, hp, h⟩
    obtain ⟨w, hw, hstands⟩ := (occursIn_iff_of_mem hp text).mp h
    exact ⟨w, (hlanguage w).mp ⟨p, hp, hw⟩, hstands⟩
  · rintro ⟨w, hw, hstands⟩
    obtain ⟨p, hp, hw⟩ := (hlanguage w).mpr hw
    exact ⟨p, hp, (occursIn_iff_of_mem hp text).mpr ⟨w, hw, hstands⟩⟩

end Limitation

namespace Setting

/-- With the usual patterns the limitation is told by each stream for itself. The patterns can be
read, and they are those of the two ways in which the limitation is told. Whatever a tool has put out,
it shows the limitation exactly if some pattern occurs in one of the two streams alone, that is, if
one of the two streams tells of it. -/
theorem limitation_by_stream (root : String) (c : Config) (echo : Bool)
    (hc : c.cycle.limitationPatterns = CycleConfig.default.limitationPatterns) :
    ∃ s, Setting.of root c echo = .ok s ∧
      s.patterns.map Pattern.language = [Limitation.named, Limitation.described] ∧
      (∀ p ∈ s.patterns, ∀ text : String,
        p.occursIn text = true ↔ ∃ w ∈ p.language, w <:+: text.toList) ∧
      ∀ o : ToolOutput,
        (s.showsLimitation o = true ↔
          ∃ p ∈ s.patterns, p.occursIn o.stdout = true ∨ p.occursIn o.stderr = true) ∧
        (s.showsLimitation o = true ↔
          Limitation.ToldBy o.stdout ∨ Limitation.ToldBy o.stderr) := by
  refine ⟨{ root, config := c, patterns := Limitation.usual, echo }, ?_,
    Limitation.map_language_usual, fun p => Limitation.occursIn_iff_of_mem, fun o => ?_⟩
  · rw [Setting.of, CycleConfig.patterns, hc, Limitation.ofTexts_default]
    rfl
  · have hshows :
        showsLimitation { root, config := c, patterns := Limitation.usual, echo } o = true ↔
          ∃ p ∈ Limitation.usual, p.occursIn o.stdout = true ∨ p.occursIn o.stderr = true := by
      rw [showsLimitation, Pattern.anyOccursIn, List.any_eq_true]
      apply exists_congr
      intro p
      apply and_congr_right
      intro hp
      exact Pattern.occursIn_combined (Limitation.readsLines_of_mem hp) o
    refine ⟨hshows, hshows.trans ?_⟩
    rw [← Limitation.exists_occursIn_iff, ← Limitation.exists_occursIn_iff, ← exists_or]
    exact exists_congr fun p => and_or_left

/-- Another contract and another signer than usual, with the usual patterns. -/
def otherContract : Config :=
  { Config.default with
    toolTimeout := 60
    cycle := { CycleConfig.default with contract := "attribute_store", suri := "//Bob" } }

/-- The limitation is seen beside a blank stream, and it is not seen where its two halves stand in
different streams. -/
theorem limitation_by_stream_otherContract :
    otherContract.cycle.limitationPatterns = CycleConfig.default.limitationPatterns ∧
      ∃ s, Setting.of "/work" otherContract true = .ok s ∧
        (∀ o : ToolOutput, o.stdout = " \n" → o.stderr = "Error: PALLET-REVIVE is Not Available\n" →
          s.showsLimitation o = true) ∧
        ∀ o : ToolOutput, o.stdout = "revive pallet" → o.stderr = "not found" →
          s.showsLimitation o = false := by
  obtain ⟨s, hs, -, -, hshows⟩ := limitation_by_stream "/work" otherContract true rfl
  refine ⟨rfl, s, hs, ?_, ?_⟩
  · intro o _ herr
    rw [(hshows o).2, herr]
    refine .inr ⟨"PALLET-REVIVE is Not Available".toList, .inr ?_, "Error: ".toList, ['\n'], by decide⟩
    exact ⟨"PALLET-REVIVE".toList, " is ".toList, "Not Available".toList, by decide,
      ⟨"pallet-revive", by decide, by decide⟩, by decide, "not available", by decide, by decide⟩
  · intro o hout herr
    rw [Bool.eq_false_iff, ne_eq, (hshows o).2, hout, herr]
    rintro (h | h) <;> exact absurd h.length_le (by decide)

end Setting

end NodeTrial
