import NodeTrial.Pattern.CharSet
import NodeTrial.Text.Blank
import Mathlib

namespace NodeTrial.Pattern

/-- White space as ranges of code points. -/
def blankRanges : List (Nat × Nat) :=
  [(9, 13), (32, 32), (0x85, 0x85), (0xA0, 0xA0), (0x1680, 0x1680), (0x2000, 0x200A),
    (0x2028, 0x2029), (0x202F, 0x202F), (0x205F, 0x205F), (0x3000, 0x3000)]

theorem isBlank_iff {c : Char} :
    Text.isBlank c = true ↔ ∃ r ∈ blankRanges, r.1 ≤ c.toNat ∧ c.toNat ≤ r.2 := by
  simp [Text.isBlank, blankRanges]
  omega

/-- Whether a range of code points is apart from white space. -/
def apartFromBlank (first last : Nat) : Bool :=
  blankRanges.all fun r => last < r.1 || r.2 < first

theorem not_mem_of_apartFromBlank {first last : Nat} (h : apartFromBlank first last = true)
    {c : Char} (hc : Text.isBlank c = true) : ¬ (first ≤ c.toNat ∧ c.toNat ≤ last) := by
  obtain ⟨r, hr, hlow, hhigh⟩ := isBlank_iff.mp hc
  have hapart := List.all_eq_true.mp h r hr
  rw [Bool.or_eq_true, decide_eq_true_eq, decide_eq_true_eq] at hapart
  omega

/-- Whether a run of foldings neither takes white space nor makes any. -/
def FoldRun.sparesBlank (r : FoldRun) : Bool :=
  apartFromBlank r.first r.last && apartFromBlank r.target (r.target + (r.last - r.first))

/-- Whether a run of foldings takes no ASCII but capitals, and leads from beyond ASCII into it with a
single character only, to `k` or `s`. -/
def FoldRun.sparesAscii (r : FoldRun) : Bool :=
  (128 ≤ r.first || 0x41 ≤ r.first && r.last ≤ 0x5A) &&
    (r.last < 128 || 128 ≤ r.target ||
      r.first == r.last && (r.target == 0x6B || r.target == 0x73))

/-- What is said of all runs of a written table is said of the characters of its text, which are
quicker to evaluate than the text. -/
theorem all_foldRunsOfText {P : FoldRun → Bool} (cs : List Char)
    (h : ((Text.pieces ' ' (cs.map fun c => if c = '\n' then ' ' else c)).filterMap
      FoldRun.ofText?).all P = true) : (foldRunsOfText (String.ofList cs)).all P = true := by
  rw [foldRunsOfText, String.toList_ofList]
  exact h

set_option maxRecDepth 100000 in
theorem foldRuns_spare :
    foldRuns.all (fun r => r.first ≤ r.last && r.sparesBlank && r.sparesAscii) = true :=
  all_foldRunsOfText _ (by decide +kernel)

theorem spares_of_mem {r : FoldRun} (hr : r ∈ foldRuns) :
    r.first ≤ r.last ∧ r.sparesBlank = true ∧ r.sparesAscii = true := by
  have h := foldRuns_spare
  rw [List.all_eq_true] at h
  simpa [and_assoc] using h r hr

theorem foldCode_cases (n : Nat) :
    foldCode n = n ∨
      ∃ r ∈ foldRuns, r.first ≤ n ∧ n ≤ r.last ∧ foldCode n = r.target + (n - r.first) := by
  -- Opened as a function: opened at `n`, the look-up would be evaluated, with the whole table.
  obtain ⟨fold, hfold⟩ : ∃ fold, fold = foldCode := ⟨_, rfl⟩
  rw [← hfold]
  delta foldCode at hfold
  rw [hfold]
  cases hfind : foldRuns.find? (fun r => r.first ≤ n && n ≤ r.last) with
  | none => exact .inl (by simp only [hfind])
  | some r =>
      have hin := List.find?_some hfind
      simp only [Bool.and_eq_true, decide_eq_true_eq] at hin
      exact .inr ⟨r, List.mem_of_find?_eq_some hfind, hin.1, hin.2, by simp only [hfind]⟩

theorem mem_foldSources {n f : Nat} (h : n ∈ foldSources f) :
    ∃ r ∈ foldRuns, r.first ≤ n ∧ n ≤ r.last ∧ f = r.target + (n - r.first) := by
  obtain ⟨r, hr, hsource⟩ := List.mem_filterMap.mp h
  split at hsource
  next hin =>
    obtain rfl := Option.some.inj hsource
    have := (spares_of_mem hr).1
    exact ⟨r, hr, by omega, by omega, by omega⟩
  next => cases hsource

theorem caseVariants_of_blank {c : Char} (hc : Text.isBlank c = true) : caseVariants c = [c] := by
  have hspare {r : FoldRun} (hr : r ∈ foldRuns) : ¬ (r.first ≤ c.toNat ∧ c.toNat ≤ r.last) ∧
      ¬ (r.target ≤ c.toNat ∧ c.toNat ≤ r.target + (r.last - r.first)) := by
    have h := (spares_of_mem hr).2.1
    rw [FoldRun.sparesBlank, Bool.and_eq_true] at h
    exact ⟨not_mem_of_apartFromBlank h.1 hc, not_mem_of_apartFromBlank h.2 hc⟩
  by_cases hascii : c.toNat < 128
  · have hcode : c.toNat ∈ [9, 10, 11, 12, 13, 32] := by
      simp [Text.isBlank] at hc
      simp only [List.mem_cons, List.not_mem_nil, or_false]
      omega
    rw [← Char.ofNat_toNat c]
    generalize c.toNat = n at hcode
    simp only [List.mem_cons, List.not_mem_nil, or_false] at hcode
    obtain rfl | rfl | rfl | rfl | rfl | rfl := hcode <;> decide
  · have hcode : foldCode c.toNat = c.toNat := by
      apply (foldCode_cases c.toNat).resolve_right
      rintro ⟨r, hr, hfirst, hlast, -⟩
      exact (hspare hr).1 ⟨hfirst, hlast⟩
    have hsources : foldSources c.toNat = [] := by
      apply List.eq_nil_iff_forall_not_mem.mpr
      intro n hn
      obtain ⟨r, hr, hfirst, hlast, htarget⟩ := mem_foldSources hn
      exact (hspare hr).2 (by omega)
    rw [caseVariants, if_neg hascii]
    simp [hcode, hsources, Char.ofNat_toNat]

/-- Whether a printed character of ASCII is no capital and has no variant beyond ASCII. -/
def isOwnLower (c : Char) : Bool :=
  32 ≤ c.toNat && c.toNat < 128 && !c.isUpper && c != 'k' && c != 's'

theorem isOwnLower_iff {c : Char} : isOwnLower c = true ↔
    32 ≤ c.toNat ∧ c.toNat < 128 ∧ c.isUpper = false ∧ c ≠ 'k' ∧ c ≠ 's' := by
  simp [isOwnLower, and_assoc]

theorem mem_cases_iff {c d : Char} (hc : c.isUpper = false) :
    c ∈ (if d.isAlpha then [d.toLower, d.toUpper] else [d]) ↔ d.toLower = c := by
  by_cases halpha : d.isAlpha = true
  · have hupper : c ≠ d.toUpper := by
      rintro rfl
      simp [halpha] at hc
    simp [halpha, hupper, eq_comm]
  · have hother : ¬ d.isUpper = true := fun h => halpha (by simp [Char.isAlpha, h])
    rw [if_neg halpha, List.mem_singleton, Char.toLower_eq_of_not_isUpper hother]
    exact eq_comm

theorem not_mem_caseVariants {c d : Char} (hc : isOwnLower c = true) (hd : 128 ≤ d.toNat) :
    c ∉ caseVariants d := by
  obtain ⟨hprinted, hascii, hupper, hk, hs⟩ := isOwnLower_iff.mp hc
  have hcode {n : Nat} (h : c = Char.ofNat n) : n = c.toNat := by
    rw [h, Char.toNat_ofNat]
    split
    next => rfl
    next hvalid =>
      rw [h, Char.toNat_ofNat, if_neg hvalid] at hprinted
      omega
  have hletter {x : Char} (hx : c ≠ x) : c.toNat ≠ x.toNat := fun h => hx (Char.toNat_inj.mp h)
  have hcapital : ¬ (0x41 ≤ c.toNat ∧ c.toNat ≤ 0x5A) := by
    intro h
    simp [Char.isUpper, UInt32.le_iff_toNat_le] at hupper
    omega
  have hnotK : c.toNat ≠ 0x6B := hletter hk
  have hnotS : c.toNat ≠ 0x73 := hletter hs
  have hspare {r : FoldRun} (hr : r ∈ foldRuns) :
      (128 ≤ r.first ∨ 0x41 ≤ r.first ∧ r.last ≤ 0x5A) ∧
        (r.last < 128 ∨ 128 ≤ r.target ∨
          r.first = r.last ∧ (r.target = 0x6B ∨ r.target = 0x73)) := by
    simpa [FoldRun.sparesAscii, or_assoc] using (spares_of_mem hr).2.2
  rw [caseVariants, if_neg (by omega), List.mem_cons, not_or, List.mem_map]
  constructor
  · intro h
    have hfold := hcode h
    rcases foldCode_cases d.toNat with hself | ⟨r, hr, hfirst, hlast, htarget⟩
    · omega
    · obtain ⟨-, hbeyond⟩ := hspare hr
      omega
  · rintro ⟨n, hn, h⟩
    have hsource := hcode h.symm
    obtain ⟨r, hr, hfirst, hlast, -⟩ := mem_foldSources hn
    obtain ⟨hcapitals, -⟩ := hspare hr
    omega

theorem mem_caseVariants_iff {c d : Char} (hc : isOwnLower c = true) :
    c ∈ caseVariants d ↔ d.toLower = c := by
  by_cases hd : d.toNat < 128
  · obtain ⟨-, hascii, hupper, hk, hs⟩ := isOwnLower_iff.mp hc
    have hne {x : Char} (hx : x.isUpper = true ∨ 128 ≤ x.toNat) : c ≠ x := by
      rintro rfl
      rcases hx with hx | hx
      · simp [hx] at hupper
      · omega
    rw [caseVariants, if_pos hd, ← mem_cases_iff hupper]
    split
    next hletter =>
      simp at hletter
      rcases hletter with rfl | rfl <;> simp [hk, hne]
    next =>
      split
      next hletter =>
        simp at hletter
        rcases hletter with rfl | rfl <;> simp [hs, hne]
      next => rfl
  · have hother : ¬ d.isUpper = true := by
      simp [Char.isUpper, UInt32.le_iff_toNat_le]
      omega
    rw [Char.toLower_eq_of_not_isUpper hother]
    apply iff_of_false (not_mem_caseVariants hc (Nat.le_of_not_lt hd))
    rintro rfl
    simp [isOwnLower, hd] at hc

/-- Whether it can be told from its description that a set holds no white space. -/
def CharSet.isSolid : CharSet → Bool
  | .none => true
  | .range first last => apartFromBlank first last
  | .table _ => false
  | .union a b => a.isSolid && b.isSolid
  | .inter a b => a.isSolid || b.isSolid
  | .diff a _ => a.isSolid
  | .complement _ => false
  | .fold a => a.isSolid
  | .foldAscii _ => false

theorem CharSet.not_holds_of_isSolid {s : CharSet} (hs : s.isSolid = true) {c : Char}
    (hc : Text.isBlank c = true) : s.holds c = false := by
  induction s with
  | none => rfl
  | range first last => simpa [holds] using not_mem_of_apartFromBlank hs hc
  | table t => cases hs
  | union a b iha ihb =>
      rw [isSolid, Bool.and_eq_true] at hs
      rw [holds, iha hs.1, ihb hs.2, Bool.or_false]
  | inter a b iha ihb =>
      rw [isSolid, Bool.or_eq_true] at hs
      rw [holds, Bool.and_eq_false_iff]
      exact hs.imp iha ihb
  | diff a b iha ihb => rw [holds, iha hs, Bool.false_and]
  | complement a ih => cases hs
  | fold a ih =>
      rw [holds, caseVariants_of_blank hc, List.any_cons, ih hs, List.any_nil, Bool.or_false]
  | foldAscii a ih => cases hs

end NodeTrial.Pattern
