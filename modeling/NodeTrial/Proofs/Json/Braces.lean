import NodeTrial.Proofs.Json.Extent

namespace NodeTrial.Json

/-- A reader that takes a value leaves a brace behind it if there is one in the text. -/
def LeavesBrace {α : Type} (read : Read α) : Prop :=
  ∀ cs a rest, read cs = some (a, rest) → '{' ∈ cs → '{' ∈ rest

theorem mem_spanDigits_of_mem {cs : List Char} (h : '{' ∈ cs) : '{' ∈ (spanDigits cs).2 := by
  rw [← List.takeWhile_append_dropWhile (p := Char.isDigit) (l := cs), List.mem_append] at h
  rcases h with hdigit | hrest
  · exact absurd (List.mem_takeWhile_imp hdigit) (by decide)
  · exact hrest

theorem mem_of_mem_cons {mark : Char} {cs : List Char} (hmark : '{' ≠ mark) (h : '{' ∈ mark :: cs) :
    '{' ∈ cs :=
  (List.mem_cons.mp h).resolve_left hmark

section

variable {negative : Bool} {significand : Nat} {scale : Int}

theorem readPower_leavesBrace {down : Bool} :
    LeavesBrace (readPower negative significand scale down) := by
  intro cs n rest h hbrace
  have hspan := mem_spanDigits_of_mem hbrace
  unfold readPower at h
  split at h
  next => cases h
  next ds tail hds heq =>
    rw [heq] at hspan
    obtain ⟨m, -, hm⟩ := Option.map_eq_some_iff.mp h
    cases hm
    exact hspan

theorem readExponent_leavesBrace : LeavesBrace (readExponent negative significand scale) := by
  intro cs n rest h hbrace
  rw [readExponent_eq] at h
  split at h
  next => exact readPower_leavesBrace _ n rest h (mem_of_mem_cons (by decide) hbrace)
  next => exact readPower_leavesBrace _ n rest h (mem_of_mem_cons (by decide) hbrace)
  next => exact readPower_leavesBrace _ n rest h hbrace

theorem readScale_leavesBrace : LeavesBrace (readScale negative significand scale) := by
  intro cs n rest h hbrace
  unfold readScale at h
  split at h
  next => exact readExponent_leavesBrace _ n rest h (mem_of_mem_cons (by decide) hbrace)
  next => exact readExponent_leavesBrace _ n rest h (mem_of_mem_cons (by decide) hbrace)
  next =>
    obtain ⟨m, -, hm⟩ := Option.map_eq_some_iff.mp h
    cases hm
    exact hbrace

theorem readFraction_leavesBrace : LeavesBrace (readFraction negative significand scale) := by
  intro cs n rest h hbrace
  have hspan := mem_spanDigits_of_mem hbrace
  unfold readFraction at h
  split at h
  next => cases h
  next ds tail hds heq =>
    rw [heq] at hspan
    exact readScale_leavesBrace _ n rest h hspan

theorem readMagnitudeEnd_leavesBrace {left : Nat} :
    LeavesBrace (readMagnitudeEnd negative significand left) := by
  intro cs n rest h hbrace
  unfold readMagnitudeEnd at h
  split at h
  next => exact readFraction_leavesBrace _ n rest h (mem_of_mem_cons (by decide) hbrace)
  next => exact readExponent_leavesBrace _ n rest h (mem_of_mem_cons (by decide) hbrace)
  next => exact readExponent_leavesBrace _ n rest h (mem_of_mem_cons (by decide) hbrace)
  next =>
    obtain ⟨m, -, hm⟩ := Option.map_eq_some_iff.mp h
    cases hm
    exact hbrace

theorem readMagnitude_leavesBrace : LeavesBrace (readMagnitude negative) := by
  intro cs n rest h hbrace
  have hspan := mem_spanDigits_of_mem hbrace
  rw [readMagnitude_eq] at h
  split at h
  next => cases h
  next => cases h
  next ds tail hds hzero heq =>
    rw [heq] at hspan
    exact readMagnitudeEnd_leavesBrace _ n rest h hspan

end

theorem readNumber_leavesBrace : LeavesBrace readNumber := by
  intro cs n rest h hbrace
  unfold readNumber at h
  split at h
  next => exact readMagnitude_leavesBrace _ n rest h (mem_of_mem_cons (by decide) hbrace)
  next => exact readMagnitude_leavesBrace _ n rest h hbrace

theorem readWord_leavesBrace {word : String} (hword : '{' ∉ word.toList) (v : Json) :
    LeavesBrace (readWord word v) := by
  intro cs a rest h hbrace
  obtain ⟨-, rfl⟩ := readWord_eq_some_iff.mp h
  exact (List.mem_append.mp hbrace).resolve_left hword

/-- A character with which neither a text nor an array or an object begins. -/
def Unopening (c : Char) : Prop := c ≠ '{' ∧ c ≠ '[' ∧ c ≠ '"'

/-- What begins with none of their marks is read without passing over a brace. -/
theorem readValue_leavesBrace {fuel depth : Nat} {c : Char} {cs rest : List Char} {v : Json}
    (hc : Unopening c) (h : readValue fuel depth (c :: cs) = some (v, rest))
    (hbrace : '{' ∈ c :: cs) : '{' ∈ rest := by
  obtain ⟨hopen, hbracket, hquote⟩ := hc
  have hplain : readValue fuel 0 (c :: cs) = some (v, rest) := by
    cases depth with
    | zero => exact h
    | succ depth =>
        rw [readValue] at h
        · exact h
        · rintro tail ⟨⟩
          exact hbracket rfl
        · rintro tail ⟨⟩
          exact hopen rfl
  unfold readValue at hplain
  split at hplain
  next heq =>
    cases heq
    exact absurd rfl hquote
  next => exact readWord_leavesBrace (by decide) _ _ _ _ hplain hbrace
  next => exact readWord_leavesBrace (by decide) _ _ _ _ hplain hbrace
  next => exact readWord_leavesBrace (by decide) _ _ _ _ hplain hbrace
  next =>
    obtain ⟨⟨n, tail⟩, hn, heq⟩ := Option.map_eq_some_iff.mp hplain
    cases heq
    exact readNumber_leavesBrace _ n _ hn hbrace

end NodeTrial.Json
