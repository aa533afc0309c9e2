import NodeTrial.Json.Reader
import Mathlib.Data.List.TakeWhile

/-!
How far a reader of JSON reads. The characters that are read as a value are read as the same value
wherever they stand at the front of a text, whatever fuel is left over. An object ends with its
brace, so that nothing behind it makes a difference; behind a number the first character does, since
it could go on with the number.
-/

namespace NodeTrial.Json

variable {α : Type}

/-- A reader took a value off the front of a text and left the rest. Given fuel for the characters
it took, it would take the same off every text that has them at its front and goes on in a way that
`Behind` admits. -/
def Takes (Behind : List Char → Prop) (read : (fuel : Nat) → Read α) (cs : List Char) (a : α)
    (rest : List Char) : Prop :=
  ∃ front, cs = front ++ rest ∧ ∀ fuel rest', front.length ≤ fuel → Behind rest' →
    read fuel (front ++ rest') = some (a, rest')

/-- Any text may stand behind what was read. -/
def Anything (_ : List Char) : Prop := True

/-- A text begins with the same character as another, or both are empty. -/
def BeginsLike (rest rest' : List Char) : Prop := rest'.head? = rest.head?

theorem BeginsLike.ne_cons {rest rest' : List Char} (h : BeginsLike rest rest') {c : Char}
    (hrest : ∀ tail, rest = c :: tail → False) (tail : List Char) : rest' = c :: tail → False := by
  rintro rfl
  cases rest with
  | nil => cases h
  | cons d front =>
      obtain rfl : c = d := Option.some.inj h
      exact hrest front rfl

theorem BeginsLike.append {rest rest' : List Char} (h : BeginsLike rest rest')
    (front : List Char) : BeginsLike (front ++ rest) (front ++ rest') := by
  cases front with
  | nil => exact h
  | cons c front => rfl

theorem Takes.suffix {Behind : List Char → Prop} {read : (fuel : Nat) → Read α}
    {cs rest : List Char} {a : α} (h : Takes Behind read cs a rest) : rest <:+ cs := by
  obtain ⟨front, rfl, -⟩ := h
  exact List.suffix_append front rest

theorem Takes.mono {Behind Behind' : List Char → Prop} {read : (fuel : Nat) → Read α}
    {cs rest : List Char} {a : α} (h : Takes Behind read cs a rest)
    (hbehind : ∀ rest', Behind' rest' → Behind rest') : Takes Behind' read cs a rest := by
  obtain ⟨front, hcs, hread⟩ := h
  exact ⟨front, hcs, fun fuel rest' hfuel hrest => hread fuel rest' hfuel (hbehind rest' hrest)⟩

theorem Takes.cons {Behind : List Char → Prop} {read read' : (fuel : Nat) → Read α}
    {cs rest : List Char} {a : α} (h : Takes Behind read' cs a rest) (front : List Char)
    (hread : ∀ fuel cs, read fuel (front ++ cs) = read' fuel cs) :
    Takes Behind read (front ++ cs) a rest := by
  obtain ⟨back, rfl, hback⟩ := h
  refine ⟨front ++ back, (List.append_assoc ..).symm, fun fuel rest' hfuel hrest => ?_⟩
  rw [List.append_assoc, hread]
  rw [List.length_append] at hfuel
  exact hback fuel rest' (by omega) hrest

/-! ## White space -/

theorem skipSpace_append {gap cs : List Char} (h : ∀ c ∈ gap, isSpace c = true) :
    skipSpace (gap ++ cs) = skipSpace cs :=
  List.dropWhile_append_of_pos h

theorem skipSpace_cons {c : Char} {cs : List Char} (h : isSpace c = false) :
    skipSpace (c :: cs) = c :: cs :=
  List.dropWhile_cons_of_neg (by simp [h])

theorem exists_gap (cs : List Char) : ∃ gap, cs = gap ++ skipSpace cs ∧
    ∀ rest', BeginsLike (skipSpace cs) rest' → skipSpace (gap ++ rest') = rest' := by
  refine ⟨cs.takeWhile isSpace, (List.takeWhile_append_dropWhile ..).symm, fun rest' hrest => ?_⟩
  rw [skipSpace_append fun _ => List.mem_takeWhile_imp]
  have hhead := List.head?_dropWhile_not isSpace cs
  rw [← skipSpace, ← hrest] at hhead
  cases rest' with
  | nil => rfl
  | cons c tail => exact skipSpace_cons hhead

theorem Takes.skipSpace {read : (fuel : Nat) → Read α} {cs rest : List Char} {a : α}
    (h : Takes (BeginsLike rest) read (skipSpace cs) a rest) :
    Takes (BeginsLike rest) (fun fuel cs => read fuel (Json.skipSpace cs)) cs a rest := by
  obtain ⟨gap, hcs, hgap⟩ := exists_gap cs
  obtain ⟨front, hfront, hread⟩ := h
  refine ⟨gap ++ front, ?_, fun fuel rest' hfuel hrest => ?_⟩
  · rw [List.append_assoc, ← hfront, ← hcs]
  · rw [List.length_append] at hfuel
    dsimp only
    rw [List.append_assoc, hgap]
    · exact hread fuel rest' (by omega) hrest
    · rw [hfront]
      exact hrest.append front

theorem Takes.followed {read : (fuel : Nat) → Read α} {cs between rest : List Char} {a : α}
    {mark : Char} (h : Takes (BeginsLike between) read cs a between)
    (hmark : Json.skipSpace between = mark :: rest) :
    ∃ front, cs = front ++ rest ∧ front ≠ [] ∧ ∀ fuel rest', front.length ≤ fuel →
      ∃ between', read fuel (front ++ rest') = some (a, between') ∧
        Json.skipSpace between' = mark :: rest' := by
  obtain ⟨front, rfl, hread⟩ := h
  obtain ⟨gap, hbetween, hgap⟩ := exists_gap between
  rw [hmark] at hbetween hgap
  refine ⟨front ++ (gap ++ [mark]), ?_, by simp, fun fuel rest' hfuel => ?_⟩
  · simp only [List.append_assoc, List.singleton_append, ← hbetween]
  · simp only [List.length_append, List.length_singleton] at hfuel
    refine ⟨gap ++ mark :: rest', ?_, hgap (mark :: rest') rfl⟩
    simp only [List.append_assoc, List.singleton_append]
    refine hread fuel (gap ++ mark :: rest') (by omega) ?_
    rw [hbetween]
    have hlike : BeginsLike (mark :: rest) (mark :: rest') := rfl
    exact hlike.append gap

/-! ## Strings and words -/

theorem readString_takes {acc cs rest : List Char} {s : String}
    (h : readString acc cs = some (s, rest)) :
    Takes Anything (fun _ => readString acc) cs s rest := by
  fun_induction readString acc cs with
  | case1 | case11 | case13 | case14 | case16 => cases h
  | case2 acc tail =>
      cases h
      exact ⟨['"'], rfl, fun _ _ _ _ => rfl⟩
  | case3 acc tail ih => exact (ih h).cons ['\\', '"'] fun _ _ => rfl
  | case4 acc tail ih => exact (ih h).cons ['\\', '\\'] fun _ _ => rfl
  | case5 acc tail ih => exact (ih h).cons ['\\', '/'] fun _ _ => rfl
  | case6 acc tail ih => exact (ih h).cons ['\\', 'b'] fun _ _ => rfl
  | case7 acc tail ih => exact (ih h).cons ['\\', 'f'] fun _ _ => rfl
  | case8 acc tail ih => exact (ih h).cons ['\\', 'n'] fun _ _ => rfl
  | case9 acc tail ih => exact (ih h).cons ['\\', 'r'] fun _ _ => rfl
  | case10 acc tail ih => exact (ih h).cons ['\\', 't'] fun _ _ => rfl
  | case12 acc a b c d u hu hsurrogate e f g h' tail x hx ih =>
      refine (ih h).cons ['\\', 'u', a, b, c, d, '\\', 'u', e, f, g, h'] fun _ cs => ?_
      simp [readString, hu, hsurrogate, hx]
  | case15 acc a b c d tail u hu hsurrogate ih =>
      refine (ih h).cons ['\\', 'u', a, b, c, d] fun _ cs => ?_
      simp [readString, hu, hsurrogate]
  | case17 acc c tail hquote _ _ _ _ _ _ _ _ _ hplain ih =>
      refine (ih h).cons [c] fun _ cs => ?_
      have hbackslash : c ≠ '\\' := by
        rintro rfl
        simp at hplain
      rw [List.singleton_append, readString]
      · rw [if_neg hplain]
      · exact hquote
      -- The equation of a plain character asks that it begins none of the escapes.
      all_goals
        intros
        exact hbackslash ‹c = '\\'›

theorem readWord_eq_some_iff {word : String} {v a : Json} {cs rest : List Char} :
    readWord word v cs = some (a, rest) ↔ a = v ∧ cs = word.toList ++ rest := by
  unfold readWord
  rw [← String.length_toList]
  constructor
  · intro h
    split at h
    next hword =>
      obtain ⟨tail, rfl⟩ := List.isPrefixOf_iff_prefix.mp hword
      rw [List.drop_left] at h
      cases h
      exact ⟨rfl, rfl⟩
    next => cases h
  · rintro ⟨rfl, rfl⟩
    rw [if_pos (List.isPrefixOf_iff_prefix.mpr ⟨rest, rfl⟩), List.drop_left]

/-! ## Numbers -/

theorem spanDigits_takes {cs rest : List Char} {ds : List Nat} (h : spanDigits cs = (ds, rest)) :
    ∃ front, cs = front ++ rest ∧
      ∀ rest', BeginsLike rest rest' → spanDigits (front ++ rest') = (ds, rest') := by
  obtain ⟨rfl, rfl⟩ := Prod.mk.inj h
  refine ⟨cs.takeWhile Char.isDigit, (List.takeWhile_append_dropWhile ..).symm,
    fun rest' hrest => ?_⟩
  have hdigits : ∀ c ∈ cs.takeWhile Char.isDigit, c.isDigit = true :=
    fun _ => List.mem_takeWhile_imp
  have hend : rest'.takeWhile Char.isDigit = [] ∧ rest'.dropWhile Char.isDigit = rest' := by
    have hhead := List.head?_dropWhile_not Char.isDigit cs
    rw [← hrest] at hhead
    cases rest' with
    | nil => exact ⟨rfl, rfl⟩
    | cons c tail => simp_all
  rw [spanDigits, List.takeWhile_append_of_pos hdigits, List.dropWhile_append_of_pos hdigits,
    hend.1, hend.2, List.append_nil]

variable {negative : Bool} {significand : Nat} {scale : Int} {cs rest : List Char} {n : JsonNumber}

/-- The number that the digits of an exponent make of a significand and a scale. -/
def power? (negative : Bool) (significand : Nat) (scale : Int) (down : Bool) (ds : List Nat) :
    Option JsonNumber :=
  let (e, left) := takeDigits (Nat.pow 2 31 - 1) 0 ds
  if left ≠ 0 then
    if significand ≠ 0 ∧ !down then none else some (.binary (Binary64.zero negative))
  else scaled negative significand (if down then scale - e else scale + e)

/-- Reads an exponent after its sign. -/
def readPower (negative : Bool) (significand : Nat) (scale : Int) (down : Bool) :
    Read JsonNumber := fun cs =>
  match spanDigits cs with
  | ([], _) => none
  | (ds, rest) => (power? negative significand scale down ds).map (·, rest)

theorem readExponent_eq : readExponent negative significand scale cs =
    match cs with
    | '+' :: rest => readPower negative significand scale false rest
    | '-' :: rest => readPower negative significand scale true rest
    | _ => readPower negative significand scale false cs := by
  have hpower : ∀ down cs, readPower negative significand scale down cs =
      match spanDigits cs with
      | ([], _) => none
      | (ds, rest) =>
        let (e, left) := takeDigits (Nat.pow 2 31 - 1) 0 ds
        if left ≠ 0 then
          if significand ≠ 0 ∧ !down then none
          else some (.binary (Binary64.zero negative), rest)
        else
          (scaled negative significand (if down then scale - e else scale + e)).map (·, rest) := by
    intro down cs
    unfold readPower power?
    split
    next => rfl
    next =>
      dsimp only
      split
      next => split <;> rfl
      next => rfl
  have hsign : readExponent negative significand scale cs =
      (fun signed : Bool × List Char => readPower negative significand scale signed.1 signed.2)
        (match cs with
        | '+' :: rest => (false, rest)
        | '-' :: rest => (true, rest)
        | _ => (false, cs)) := by
    simp only [hpower]
    rfl
  rw [hsign]
  split <;> rfl

theorem readPower_takes {down : Bool}
    (h : readPower negative significand scale down cs = some (n, rest)) :
    Takes (BeginsLike rest) (fun _ => readPower negative significand scale down) cs n rest := by
  unfold readPower at h
  split at h
  next => cases h
  next ds tail hds hspan =>
    obtain ⟨front, rfl, hfront⟩ := spanDigits_takes hspan
    obtain ⟨m, hm, heq⟩ := Option.map_eq_some_iff.mp h
    cases heq
    refine ⟨front, rfl, fun fuel rest' _ hrest => ?_⟩
    simp only [readPower, hfront _ hrest, hm, Option.map_some]

theorem readExponent_takes (h : readExponent negative significand scale cs = some (n, rest)) :
    Takes (BeginsLike rest) (fun _ => readExponent negative significand scale) cs n rest := by
  rw [readExponent_eq] at h
  split at h
  next tail => exact (readPower_takes h).cons ['+'] fun _ _ => readExponent_eq
  next tail => exact (readPower_takes h).cons ['-'] fun _ _ => readExponent_eq
  next hplus hminus =>
    obtain ⟨front, rfl, hfront⟩ := readPower_takes h
    refine ⟨front, rfl, fun fuel rest' hfuel hrest => ?_⟩
    dsimp only
    rw [readExponent_eq]
    split
    next tail heq => exact ((hrest.append front).ne_cons hplus tail heq).elim
    next tail heq => exact ((hrest.append front).ne_cons hminus tail heq).elim
    next => exact hfront fuel rest' hfuel hrest

theorem readScale_takes (h : readScale negative significand scale cs = some (n, rest)) :
    Takes (BeginsLike rest) (fun _ => readScale negative significand scale) cs n rest := by
  unfold readScale at h
  split at h
  next tail => exact (readExponent_takes h).cons ['e'] fun _ _ => rfl
  next tail => exact (readExponent_takes h).cons ['E'] fun _ _ => rfl
  next hlower hupper =>
    obtain ⟨m, hm, heq⟩ := Option.map_eq_some_iff.mp h
    cases heq
    refine ⟨[], rfl, fun _ rest' _ hrest => ?_⟩
    dsimp only
    rw [List.nil_append, readScale.eq_def]
    split
    next tail => exact (hrest.ne_cons hlower tail rfl).elim
    next tail => exact (hrest.ne_cons hupper tail rfl).elim
    next => rw [hm, Option.map_some]

theorem readFraction_takes (h : readFraction negative significand scale cs = some (n, rest)) :
    Takes (BeginsLike rest) (fun _ => readFraction negative significand scale) cs n rest := by
  unfold readFraction at h
  split at h
  next => cases h
  next ds tail hds hspan =>
    obtain ⟨front, rfl, hfront⟩ := spanDigits_takes hspan
    obtain ⟨back, rfl, hback⟩ := readScale_takes h
    refine ⟨front ++ back, (List.append_assoc ..).symm, fun fuel rest' hfuel hrest => ?_⟩
    rw [List.length_append] at hfuel
    simp only [List.append_assoc, readFraction, hfront _ (hrest.append back)]
    exact hback fuel rest' (by omega) hrest

/-- Reads what may follow the first digits of a number, of which some were left over. -/
def readMagnitudeEnd (negative : Bool) (significand left : Nat) : Read JsonNumber := fun cs =>
  match cs with
  | '.' :: rest => readFraction negative significand left rest
  | 'e' :: rest => readExponent negative significand left rest
  | 'E' :: rest => readExponent negative significand left rest
  | _ => (if left = 0 then integer negative significand else scaled negative significand left).map
      (·, cs)

theorem readMagnitudeEnd_takes {left : Nat}
    (h : readMagnitudeEnd negative significand left cs = some (n, rest)) :
    Takes (BeginsLike rest) (fun _ => readMagnitudeEnd negative significand left) cs n rest := by
  unfold readMagnitudeEnd at h
  split at h
  next tail => exact (readFraction_takes h).cons ['.'] fun _ _ => rfl
  next tail => exact (readExponent_takes h).cons ['e'] fun _ _ => rfl
  next tail => exact (readExponent_takes h).cons ['E'] fun _ _ => rfl
  next hpoint hlower hupper =>
    obtain ⟨m, hm, heq⟩ := Option.map_eq_some_iff.mp h
    cases heq
    refine ⟨[], rfl, fun _ rest' _ hrest => ?_⟩
    dsimp only
    rw [List.nil_append, readMagnitudeEnd.eq_def]
    split
    next tail => exact (hrest.ne_cons hpoint tail rfl).elim
    next tail => exact (hrest.ne_cons hlower tail rfl).elim
    next tail => exact (hrest.ne_cons hupper tail rfl).elim
    next => rw [hm, Option.map_some]

theorem readMagnitude_eq : readMagnitude negative cs =
    match spanDigits cs with
    | ([], _) => none
    | (0 :: _ :: _, _) => none
    | (ds, rest) =>
      readMagnitudeEnd negative (takeDigits maxSignificand 0 ds).1
        (takeDigits maxSignificand 0 ds).2 rest := by
  have hend : ∀ s left rest, readMagnitudeEnd negative s left rest =
      match rest with
      | '.' :: rest => readFraction negative s left rest
      | 'e' :: rest => readExponent negative s left rest
      | 'E' :: rest => readExponent negative s left rest
      | _ => if left = 0 then (integer negative s).map (·, rest) else
        (scaled negative s left).map (·, rest) := by
    intro s left rest
    unfold readMagnitudeEnd
    split
    next => rfl
    next => rfl
    next => rfl
    next => split <;> rfl
  simp only [hend]
  rfl

theorem readMagnitude_takes (h : readMagnitude negative cs = some (n, rest)) :
    Takes (BeginsLike rest) (fun _ => readMagnitude negative) cs n rest := by
  rw [readMagnitude_eq] at h
  split at h
  next => cases h
  next => cases h
  next ds tail hds hzero hspan =>
    obtain ⟨front, rfl, hfront⟩ := spanDigits_takes hspan
    obtain ⟨back, rfl, hback⟩ := readMagnitudeEnd_takes h
    refine ⟨front ++ back, (List.append_assoc ..).symm, fun fuel rest' hfuel hrest => ?_⟩
    rw [List.length_append] at hfuel
    simp only [List.append_assoc, readMagnitude_eq, hfront _ (hrest.append back)]
    exact hback fuel rest' (by omega) hrest

theorem readNumber_takes (h : readNumber cs = some (n, rest)) :
    Takes (BeginsLike rest) (fun _ => readNumber) cs n rest := by
  unfold readNumber at h
  split at h
  next tail => exact (readMagnitude_takes h).cons ['-'] fun _ _ => rfl
  next hminus =>
    obtain ⟨front, rfl, hfront⟩ := readMagnitude_takes h
    refine ⟨front, rfl, fun fuel rest' hfuel hrest => ?_⟩
    dsimp only
    rw [readNumber.eq_def]
    split
    next tail heq => exact ((hrest.append front).ne_cons hminus tail heq).elim
    next => exact hfront fuel rest' hfuel hrest

/-! ## Arrays and objects -/

section

variable {β σ : Type}

/-- Reads entries with commas between them up to a closing mark, and adds each to what there is. -/
def readSeries (entry : Read β) (closing : Char) (add : σ → β → σ) : (fuel : Nat) → σ → Read σ
  | 0, _, _ => none
  | fuel + 1, acc, cs => do
    let (b, rest) ← entry cs
    match skipSpace rest with
    | mark :: rest =>
      if mark = ',' then readSeries entry closing add fuel (add acc b) rest
      else if mark = closing then some (add acc b, rest)
      else none
    | [] => none

theorem readItems_eq (item : Read Json) (fuel : Nat) (acc : List Json) (cs : List Char) :
    readItems item fuel acc cs =
      (readSeries (fun cs => item (skipSpace cs)) ']' (fun acc v => v :: acc) fuel acc cs).map
        fun (acc, rest) => (acc.reverse, rest) := by
  induction fuel generalizing acc cs with
  | zero => rfl
  | succ fuel ih =>
      rw [readItems, readSeries]
      cases item (skipSpace cs) with
      | none => rfl
      | some found =>
          obtain ⟨v, between⟩ := found
          simp only [Option.bind_eq_bind, Option.bind_some, ih]
          cases skipSpace between with
          | nil => rfl
          | cons mark rest =>
              by_cases hcomma : mark = ','
              · subst hcomma
                rfl
              · by_cases hclosing : mark = ']'
                · subst hclosing
                  rfl
                · simp [hcomma, hclosing]

theorem readMembers_eq (item : Read Json) (fuel : Nat) (acc : List (String × Json))
    (cs : List Char) :
    readMembers item fuel acc cs =
      readSeries (readMember item) '}' (fun acc m => insertMember m.1 m.2 acc) fuel acc cs := by
  induction fuel generalizing acc cs with
  | zero => rfl
  | succ fuel ih =>
      rw [readMembers, readSeries]
      cases readMember item cs with
      | none => rfl
      | some found =>
          obtain ⟨⟨name, v⟩, between⟩ := found
          simp only [Option.bind_eq_bind, Option.bind_some, ih]
          cases skipSpace between with
          | nil => rfl
          | cons mark rest =>
              by_cases hcomma : mark = ','
              · subst hcomma
                rfl
              · by_cases hclosing : mark = '}'
                · subst hclosing
                  rfl
                · simp [hcomma, hclosing]

theorem readSeries_closing {entry : Read β} {closing : Char} {add : σ → β → σ}
    (hentry : ∀ cs b rest, entry cs = some (b, rest) → rest <:+ cs)
    {bound : Nat} {acc a : σ} {cs rest : List Char}
    (h : readSeries entry closing add bound acc cs = some (a, rest)) : closing :: rest <:+ cs := by
  induction bound generalizing acc cs with
  | zero => cases h
  | succ bound ih =>
      obtain ⟨⟨b, between⟩, hb, hrest⟩ := Option.bind_eq_some_iff.mp h
      dsimp only at hrest
      split at hrest
      next mark tail hmark =>
        have htail : mark :: tail <:+ cs := by
          rw [← hmark]
          exact (List.dropWhile_suffix _).trans (hentry cs b between hb)
        split at hrest
        next => exact (ih hrest).trans ((List.suffix_cons mark tail).trans htail)
        next =>
          split at hrest
          next hclosing =>
            cases hrest
            rw [← hclosing]
            exact htail
          next => cases hrest
      next => cases hrest

theorem readSeries_takes {entry : (fuel : Nat) → Read β} {closing : Char} {add : σ → β → σ}
    (hentry : ∀ fuel cs b rest, entry fuel cs = some (b, rest) →
      Takes (BeginsLike rest) entry cs b rest)
    {fuel bound : Nat} {acc a : σ} {cs rest : List Char}
    (h : readSeries (entry fuel) closing add bound acc cs = some (a, rest)) :
    ∃ front, cs = front ++ rest ∧ front ≠ [] ∧ ∀ n m rest', front.length ≤ n → front.length ≤ m →
      readSeries (entry n) closing add m acc (front ++ rest') = some (a, rest') := by
  induction bound generalizing acc cs with
  | zero => cases h
  | succ bound ih =>
      obtain ⟨⟨b, between⟩, hb, hrest⟩ := Option.bind_eq_some_iff.mp h
      dsimp only at hrest
      split at hrest
      next mark tail hmark =>
        obtain ⟨front, rfl, hne, hfront⟩ := (hentry fuel cs b between hb).followed hmark
        have hpos : 0 < front.length := List.length_pos_iff.mpr hne
        split at hrest
        next hcomma =>
          obtain ⟨back, rfl, -, hback⟩ := ih hrest
          refine ⟨front ++ back, (List.append_assoc ..).symm, by simp [hne],
            fun n m rest' hn hm => ?_⟩
          rw [List.length_append] at hn hm
          obtain ⟨between', hread, hmark'⟩ := hfront n (back ++ rest') (by omega)
          obtain ⟨m, rfl⟩ : ∃ k, m = k + 1 := ⟨m - 1, by omega⟩
          simp only [List.append_assoc, readSeries, hread, Option.bind_eq_bind, Option.bind_some,
            hmark', if_pos hcomma]
          exact hback n m rest' (by omega) (by omega)
        next hcomma =>
          split at hrest
          next hclosing =>
            cases hrest
            refine ⟨front, rfl, hne, fun n m rest' hn hm => ?_⟩
            obtain ⟨between', hread, hmark'⟩ := hfront n rest' hn
            obtain ⟨m, rfl⟩ : ∃ k, m = k + 1 := ⟨m - 1, by omega⟩
            simp only [readSeries, hread, Option.bind_eq_bind, Option.bind_some, hmark',
              if_neg hcomma, if_pos hclosing]
          next => cases hrest
      next => cases hrest

end

section

variable {item : (fuel : Nat) → Read Json}

theorem readMember_takes
    (hitem : ∀ fuel cs v rest, item fuel cs = some (v, rest) →
      Takes (BeginsLike rest) item cs v rest)
    {fuel : Nat} {member : String × Json} {cs rest : List Char}
    (h : readMember (item fuel) cs = some (member, rest)) :
    Takes (BeginsLike rest) (fun n => readMember (item n)) cs member rest := by
  unfold readMember at h
  split at h
  next tail hquote =>
    obtain ⟨⟨name, between⟩, hname, h⟩ := Option.bind_eq_some_iff.mp h
    dsimp only at h
    split at h
    next behind hcolon =>
      obtain ⟨⟨v, rest₁⟩, hv, h⟩ := Option.bind_eq_some_iff.mp h
      cases h
      obtain ⟨gap, hcs, hgap⟩ := exists_gap cs
      rw [hquote] at hcs hgap
      obtain ⟨front, rfl, -, hfront⟩ :=
        ((readString_takes hname).mono fun _ _ => trivial).followed hcolon
      obtain ⟨back, rfl, hback⟩ := (hitem fuel _ v rest₁ hv).skipSpace
      refine ⟨gap ++ '"' :: (front ++ back), ?_, fun n rest' hn hrest => ?_⟩
      · rw [hcs]
        simp only [List.append_assoc, List.cons_append]
      · simp only [List.length_append, List.length_cons] at hn
        obtain ⟨between', hread, hcolon'⟩ := hfront n (back ++ rest') (by omega)
        have hopening := hgap ('"' :: (front ++ (back ++ rest'))) rfl
        have hvalue : item n (skipSpace (back ++ rest')) = some (v, rest') :=
          hback n rest' (by omega) hrest
        simp only [List.append_assoc, List.cons_append, readMember, hopening, hread,
          Option.bind_eq_bind, Option.bind_some, hcolon', hvalue]
    next => cases h
  next => cases h

theorem readItems_takes
    (hitem : ∀ fuel cs v rest, item fuel cs = some (v, rest) →
      Takes (BeginsLike rest) item cs v rest)
    {fuel bound : Nat} {acc items : List Json} {cs rest : List Char}
    (h : readItems (item fuel) bound acc cs = some (items, rest)) :
    ∃ front, cs = front ++ rest ∧ front ≠ [] ∧ ∀ n rest', front.length ≤ n →
      readItems (item n) n acc (front ++ rest') = some (items, rest') := by
  rw [readItems_eq] at h
  obtain ⟨⟨vs, tail⟩, hvs, heq⟩ := Option.map_eq_some_iff.mp h
  obtain ⟨rfl, rfl⟩ := Prod.mk.inj heq
  obtain ⟨front, rfl, hne, hfront⟩ :=
    readSeries_takes (fun fuel cs v rest hv => (hitem fuel _ v rest hv).skipSpace) hvs
  refine ⟨front, rfl, hne, fun n rest' hn => ?_⟩
  rw [readItems_eq, hfront n n rest' hn hn, Option.map_some]

theorem readMembers_takes
    (hitem : ∀ fuel cs v rest, item fuel cs = some (v, rest) →
      Takes (BeginsLike rest) item cs v rest)
    {fuel bound : Nat} {acc members : List (String × Json)} {cs rest : List Char}
    (h : readMembers (item fuel) bound acc cs = some (members, rest)) :
    ∃ front, cs = front ++ rest ∧ front ≠ [] ∧ ∀ n rest', front.length ≤ n →
      readMembers (item n) n acc (front ++ rest') = some (members, rest') := by
  rw [readMembers_eq] at h
  obtain ⟨front, rfl, hne, hfront⟩ :=
    readSeries_takes (fun _ _ _ _ hmember => readMember_takes hitem hmember) h
  refine ⟨front, rfl, hne, fun n rest' hn => ?_⟩
  rw [readMembers_eq, hfront n n rest' hn hn]

end

/-! ## Values -/

/-- Reads what stands between an opening mark and a closing one: nothing, or else a series. -/
def readEnclosed {β : Type} (closing : Char) (nothing : β) (series : Read β) : Read β := fun cs =>
  match skipSpace cs with
  | mark :: rest => if mark = closing then some (nothing, rest) else series (mark :: rest)
  | [] => series []

theorem readEnclosed_takes {β : Type} {closing : Char} {nothing b : β}
    {series : (fuel : Nat) → Read β} {fuel : Nat} {cs rest : List Char}
    (hseries : ∀ cs b rest, series fuel cs = some (b, rest) → ∃ front, cs = front ++ rest ∧
      front ≠ [] ∧ ∀ n rest', front.length ≤ n → series n (front ++ rest') = some (b, rest'))
    (h : readEnclosed closing nothing (series fuel) cs = some (b, rest)) :
    Takes Anything (fun n => readEnclosed closing nothing (series n)) cs b rest := by
  obtain ⟨gap, hcs, hgap⟩ := exists_gap cs
  unfold readEnclosed at h
  split at h
  next mark tail hmark =>
    rw [hmark] at hcs hgap
    split at h
    next hclosing =>
      cases h
      refine ⟨gap ++ [mark], by simp [hcs], fun n rest' _ _ => ?_⟩
      simp only [List.append_assoc, List.singleton_append, readEnclosed, hgap (mark :: rest') rfl,
        if_pos hclosing]
    next hclosing =>
      obtain ⟨front, hfront, hne, hread⟩ := hseries _ b rest h
      obtain ⟨c, front, rfl⟩ := List.exists_cons_of_ne_nil hne
      obtain ⟨rfl, rfl⟩ := List.cons.inj hfront
      refine ⟨gap ++ mark :: front, by simp [hcs], fun n rest' hn _ => ?_⟩
      rw [List.length_append] at hn
      simp only [List.append_assoc, List.cons_append, readEnclosed,
        hgap (mark :: (front ++ rest')) rfl, if_neg hclosing]
      exact hread n rest' (by omega)
  next hend =>
    obtain ⟨front, hfront, hne, -⟩ := hseries _ b rest h
    cases front with
    | nil => exact absurd rfl hne
    | cons c front => cases hfront

theorem readEnclosed_closing {β : Type} {closing : Char} {nothing b : β} {series : Read β}
    {cs rest : List Char}
    (hseries : ∀ cs b rest, series cs = some (b, rest) → closing :: rest <:+ cs)
    (h : readEnclosed closing nothing series cs = some (b, rest)) : closing :: rest <:+ cs := by
  have hskip : skipSpace cs <:+ cs := List.dropWhile_suffix _
  refine List.IsSuffix.trans ?_ hskip
  unfold readEnclosed at h
  split at h
  next mark tail hmark =>
    rw [hmark]
    split at h
    next hclosing =>
      cases h
      exact hclosing ▸ List.suffix_rfl
    next => exact hseries _ b rest h
  next hend =>
    rw [hend]
    exact hseries _ b rest h

section

variable {fuel depth : Nat}

theorem readValue_bracket (cs : List Char) :
    readValue fuel (depth + 1) ('[' :: cs) =
      (readEnclosed ']' [] (readItems (readValue fuel depth) fuel []) cs).map
        fun (items, rest) => (.array items, rest) := by
  rw [readValue, readEnclosed]
  cases skipSpace cs with
  | nil => rfl
  | cons mark rest =>
      by_cases hclosing : mark = ']'
      · subst hclosing
        rfl
      · simp [hclosing]

theorem readValue_brace (cs : List Char) :
    readValue fuel (depth + 1) ('{' :: cs) =
      (readEnclosed '}' [] (readMembers (readValue fuel depth) fuel []) cs).map
        fun (members, rest) => (.object members, rest) := by
  rw [readValue, readEnclosed]
  cases skipSpace cs with
  | nil => rfl
  | cons mark rest =>
      by_cases hclosing : mark = '}'
      · subst hclosing
        rfl
      · simp [hclosing]

theorem Takes.map {β : Type} {Behind : List Char → Prop} {read : (fuel : Nat) → Read α}
    {cs rest : List Char} {b : β} (fuel : Nat) (f : α → β)
    (hread : ∀ a, read fuel cs = some (a, rest) → Takes Behind read cs a rest)
    (h : (read fuel cs).map (fun p => (f p.1, p.2)) = some (b, rest)) :
    Takes Behind (fun n cs => (read n cs).map fun p => (f p.1, p.2)) cs b rest := by
  obtain ⟨⟨a, tail⟩, ha, heq⟩ := Option.map_eq_some_iff.mp h
  obtain ⟨rfl, rfl⟩ := Prod.mk.inj heq
  obtain ⟨front, hcs, hfront⟩ := hread a ha
  refine ⟨front, hcs, fun n rest' hn hrest => ?_⟩
  dsimp only
  rw [hfront n rest' hn hrest, Option.map_some]

variable {cs rest : List Char} {v : Json}

theorem readValue_zero_takes (h : readValue fuel 0 cs = some (v, rest)) :
    Takes (BeginsLike rest) (fun n => readValue n 0) cs v rest := by
  unfold readValue at h
  split at h
  next tail =>
    have htail : Takes (BeginsLike rest)
        (fun _ cs => (readString [] cs).map fun p => (.string p.1, p.2)) tail v rest := by
      refine Takes.map 0 Json.string (fun s hs => ?_) h
      exact (readString_takes hs).mono fun _ _ => trivial
    exact htail.cons ['"'] fun n cs => by rw [List.singleton_append, readValue]
  next tail =>
    obtain ⟨rfl, hcs⟩ := readWord_eq_some_iff.mp h
    refine ⟨_, hcs, fun n rest' _ _ => ?_⟩
    change readValue n 0 ('n' :: 'u' :: 'l' :: 'l' :: rest') = some (null, rest')
    rw [readValue]
    exact readWord_eq_some_iff.mpr ⟨rfl, rfl⟩
  next tail =>
    obtain ⟨rfl, hcs⟩ := readWord_eq_some_iff.mp h
    refine ⟨_, hcs, fun n rest' _ _ => ?_⟩
    change readValue n 0 ('t' :: 'r' :: 'u' :: 'e' :: rest') = some (bool true, rest')
    rw [readValue]
    exact readWord_eq_some_iff.mpr ⟨rfl, rfl⟩
  next tail =>
    obtain ⟨rfl, hcs⟩ := readWord_eq_some_iff.mp h
    refine ⟨_, hcs, fun n rest' _ _ => ?_⟩
    change readValue n 0 ('f' :: 'a' :: 'l' :: 's' :: 'e' :: rest') = some (bool false, rest')
    rw [readValue]
    exact readWord_eq_some_iff.mpr ⟨rfl, rfl⟩
  next hquote hn ht hf =>
    have hvalue : Takes (BeginsLike rest)
        (fun _ cs => (readNumber cs).map fun p => (.number p.1, p.2)) cs v rest :=
      Takes.map 0 Json.number (fun n => readNumber_takes) h
    obtain ⟨front, rfl, hfront⟩ := hvalue
    refine ⟨front, rfl, fun n rest' hfuel hrest => ?_⟩
    have hlike := hrest.append front
    dsimp only
    rw [readValue]
    · exact hfront n rest' hfuel hrest
    · exact hlike.ne_cons hquote
    · exact hlike.ne_cons hn
    · exact hlike.ne_cons ht
    · exact hlike.ne_cons hf

theorem readContents_takes
    (hitem : ∀ fuel cs v rest, readValue fuel depth cs = some (v, rest) →
      Takes (BeginsLike rest) (fun n => readValue n depth) cs v rest)
    {opening : Char} (hopening : opening = '[' ∨ opening = '{')
    (h : readValue fuel (depth + 1) (opening :: cs) = some (v, rest)) :
    Takes Anything (fun n => readValue n (depth + 1)) (opening :: cs) v rest := by
  rcases hopening with rfl | rfl
  · rw [readValue_bracket] at h
    refine (Takes.map fuel _ (fun items hitems => ?_) h).cons ['['] fun _ _ => readValue_bracket _
    exact readEnclosed_takes (fun _ _ _ => readItems_takes hitem) hitems
  · rw [readValue_brace] at h
    refine (Takes.map fuel _ (fun members hms => ?_) h).cons ['{'] fun _ _ => readValue_brace _
    exact readEnclosed_takes (fun _ _ _ => readMembers_takes hitem) hms

/-- A value hangs on what stands behind it only as far as its first character goes. -/
theorem readValue_takes (h : readValue fuel depth cs = some (v, rest)) :
    Takes (BeginsLike rest) (fun n => readValue n depth) cs v rest := by
  induction depth generalizing fuel cs v rest with
  | zero => exact readValue_zero_takes h
  | succ depth ih =>
      have hvalue := h
      unfold readValue at hvalue
      split at hvalue
      next tail =>
        exact (readContents_takes (fun _ _ _ _ => ih) (.inl rfl) h).mono fun _ _ => trivial
      next tail =>
        exact (readContents_takes (fun _ _ _ _ => ih) (.inr rfl) h).mono fun _ _ => trivial
      next hbracket hbrace =>
        obtain ⟨front, rfl, hfront⟩ := readValue_zero_takes hvalue
        refine ⟨front, rfl, fun n rest' hfuel hrest => ?_⟩
        have hlike := hrest.append front
        dsimp only
        rw [readValue]
        · exact hfront n rest' hfuel hrest
        · exact hlike.ne_cons hbracket
        · exact hlike.ne_cons hbrace

end

/-! ## Objects -/

section

variable {fuel depth : Nat} {cs rest : List Char} {members : List (String × Json)}

theorem not_isObject_of_readValue_zero {v : Json} (h : readValue fuel 0 cs = some (v, rest)) :
    v.isObject = false := by
  unfold readValue at h
  split at h
  next =>
    obtain ⟨⟨s, tail⟩, -, heq⟩ := Option.map_eq_some_iff.mp h
    cases heq
    rfl
  next => rw [(readWord_eq_some_iff.mp h).1]; rfl
  next => rw [(readWord_eq_some_iff.mp h).1]; rfl
  next => rw [(readWord_eq_some_iff.mp h).1]; rfl
  next =>
    obtain ⟨⟨n, tail⟩, -, heq⟩ := Option.map_eq_some_iff.mp h
    cases heq
    rfl

theorem exists_brace_of_readValue
    (h : readValue fuel (depth + 1) cs = some (.object members, rest)) :
    ∃ tail, cs = '{' :: tail := by
  unfold readValue at h
  split at h
  next tail =>
    have hitems : readValue fuel (depth + 1) ('[' :: tail) = some (.object members, rest) := by
      rw [readValue]
      exact h
    rw [readValue_bracket] at hitems
    obtain ⟨⟨items, tail⟩, -, heq⟩ := Option.map_eq_some_iff.mp hitems
    cases heq
  next tail => exact ⟨tail, rfl⟩
  next => exact absurd (not_isObject_of_readValue_zero h) (by simp [isObject])

/-- An object is read in the same way whatever stands behind it. -/
theorem readObject_takes (h : readValue fuel (depth + 1) cs = some (.object members, rest)) :
    Takes Anything (fun n => readValue n (depth + 1)) cs (.object members) rest := by
  obtain ⟨tail, rfl⟩ := exists_brace_of_readValue h
  exact readContents_takes (fun _ _ _ _ => readValue_takes) (.inr rfl) h

theorem readObject_closing (h : readValue fuel (depth + 1) cs = some (.object members, rest)) :
    '}' :: rest <:+ cs := by
  obtain ⟨tail, rfl⟩ := exists_brace_of_readValue h
  rw [readValue_brace] at h
  obtain ⟨⟨ms, tail'⟩, hms, heq⟩ := Option.map_eq_some_iff.mp h
  cases heq
  refine List.IsSuffix.trans (readEnclosed_closing (fun cs ms rest hseries => ?_) hms)
    (List.suffix_cons '{' tail)
  rw [readMembers_eq] at hseries
  refine readSeries_closing (fun _ _ _ hmember => ?_) hseries
  exact (readMember_takes (fun _ _ _ _ => readValue_takes) hmember).suffix

end

end NodeTrial.Json
