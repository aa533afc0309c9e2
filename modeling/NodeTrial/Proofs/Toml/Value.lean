import NodeTrial.Proofs.Toml.Text
import NodeTrial.Toml.Reader

namespace NodeTrial.Toml

theorem isDigit_iff {c : Char} : c.isDigit = true ↔ '0' ≤ c ∧ c ≤ '9' := by
  simp [Char.isDigit, Char.le_def]

theorem digit?_of_isDigit {c : Char} (h : c.isDigit = true) :
    Hexadecimal.digit? c = some (c.toNat - 48) :=
  if_pos (isDigit_iff.mp h)

theorem digitRow_of_digits {cs : List Char} (hne : cs ≠ [])
    (hdigits : ∀ c ∈ cs, c.isDigit = true) : digitRow Char.isDigit cs = some cs := by
  induction cs with
  | nil => exact absurd rfl hne
  | cons c cs ih =>
      obtain ⟨hc, hrest⟩ := List.forall_mem_cons.mp hdigits
      cases cs with
      | nil => rw [digitRow, if_pos hc]
      | cons d cs =>
          have hmark : d ≠ '_' := by
            rintro rfl
            exact absurd (hrest _ List.mem_cons_self) (by decide)
          rw [digitRow, if_pos hc, ih (List.cons_ne_nil d cs) hrest]
          · rfl
          · exact nofun
          · rintro rest h
            exact hmark (List.cons_eq_cons.mp h).1

theorem foldl_digits {cs : List Char} (hdigits : ∀ c ∈ cs, c.isDigit = true) (n : Nat) :
    cs.foldl (fun n c => n * 10 + (Hexadecimal.digit? c).getD 0) n = Nat.ofDigitChars 10 cs n := by
  induction cs generalizing n with
  | nil => rfl
  | cons c cs ih =>
      obtain ⟨hc, hrest⟩ := List.forall_mem_cons.mp hdigits
      rw [List.foldl_cons, digit?_of_isDigit hc, ih hrest, Nat.ofDigitChars_cons, Nat.mul_comm]
      rfl

theorem head?_toDigits {n : Nat} (hn : 0 < n) : (Nat.toDigits 10 n).head? ≠ some '0' := by
  induction n using Nat.strongRecOn with
  | ind n ih =>
      by_cases hlt : n < 10
      · have hdigit : ∀ n < 10, 0 < n → [n.digitChar].head? ≠ some '0' := by decide
        rw [Nat.toDigits_of_lt_base hlt]
        exact hdigit n hlt hn
      · rw [Nat.toDigits_of_base_le (by decide) (by omega), List.head?_append_of_ne_nil]
        · exact ih (n / 10) (by omega) (by omega)
        · exact Nat.toDigits_ne_nil

theorem isDigit_toDigits {n : Nat} : ∀ c ∈ Nat.toDigits 10 n, c.isDigit = true :=
  fun _ => Nat.isDigit_of_mem_toDigits (by decide) (by decide)

theorem decimalRow_toDigits (n : Nat) :
    decimalRow (Nat.toDigits 10 n) = some (Nat.toDigits 10 n) := by
  rw [decimalRow, digitRow_of_digits Nat.toDigits_ne_nil isDigit_toDigits]
  rcases Nat.eq_zero_or_pos n with rfl | hn
  · rfl
  · have hhead := head?_toDigits hn
    generalize Nat.toDigits 10 n = ds at hhead
    split
    next h =>
      cases h
      exact absurd rfl hhead
    next => rfl

theorem markedInteger?_of_digits {cs : List Char} (hdigits : ∀ c ∈ cs, c.isDigit = true) :
    markedInteger? cs = none := by
  unfold markedInteger?
  split
  next => exact absurd (hdigits 'x' (by simp)) (by decide)
  next => exact absurd (hdigits 'o' (by simp)) (by decide)
  next => exact absurd (hdigits 'b' (by simp)) (by decide)
  next => rfl

theorem splitSign_of_digits {cs : List Char} (hdigits : ∀ c ∈ cs, c.isDigit = true) :
    splitSign cs = (false, cs) := by
  unfold splitSign
  split
  next => exact absurd (hdigits '-' (by simp)) (by decide)
  next => exact absurd (hdigits '+' (by simp)) (by decide)
  next => rfl

theorem integer?_toDigits (n : Nat) : integer? (Nat.toDigits 10 n) = some (n : Int) := by
  have hdigits := isDigit_toDigits (n := n)
  have hvalue : rowValue 10 (Nat.toDigits 10 n) = n :=
    (foldl_digits hdigits 0).trans Nat.ofDigitChars_ten_toDigits
  simp [integer?, markedInteger?_of_digits hdigits, splitSign_of_digits hdigits,
    decimalRow_toDigits, hvalue]

theorem scalar?_toDigits (n : Nat) : scalar? (Nat.toDigits 10 n) = some (.integer n) := by
  have hword {word : List Char} {c : Char} (hc : c ∈ word) (hdigit : c.isDigit = false) :
      Nat.toDigits 10 n ≠ word := by
    rintro rfl
    rw [isDigit_toDigits c hc] at hdigit
    cases hdigit
  rw [scalar?, if_neg (hword (c := 't') (by decide) (by decide)),
    if_neg (hword (c := 'f') (by decide) (by decide)), integer?_toDigits]

theorem not_endsScalar_of_isDigit {c : Char} (h : c.isDigit = true) : endsScalar c = false := by
  have hne {d : Char} (hd : d.isDigit = false) : c ≠ d := by
    rintro rfl
    rw [h] at hd
    cases hd
  simp [endsScalar, hne]

theorem readScalar_toDigits (n : Nat) (rest : List Char) :
    readScalar (Nat.toDigits 10 n ++ '\n' :: rest) = some (.integer n, '\n' :: rest) := by
  have hdigits : ∀ c ∈ Nat.toDigits 10 n, (!endsScalar c) = true := fun c hc => by
    rw [not_endsScalar_of_isDigit (isDigit_toDigits c hc)]
    rfl
  have htake : (Nat.toDigits 10 n ++ '\n' :: rest).takeWhile (!endsScalar ·) =
      Nat.toDigits 10 n := by
    rw [List.takeWhile_append_of_pos hdigits, List.takeWhile_cons_of_neg (by decide),
      List.append_nil]
  have hdrop : (Nat.toDigits 10 n ++ '\n' :: rest).dropWhile (!endsScalar ·) = '\n' :: rest := by
    rw [List.dropWhile_append_of_pos hdigits, List.dropWhile_cons_of_neg (by decide)]
  rw [readScalar, htake, hdrop]
  simp [scalar?_toDigits]

theorem skipVoid_gap {c : Char} (hc : c = ' ' ∨ c = '\n') (cs : List Char) :
    skipVoid false (c :: cs) = skipVoid false cs := by
  rcases hc with rfl | rfl <;> rfl

/-- A character that is neither white space nor the start of a comment. -/
def Solid (c : Char) : Prop := c ≠ '\n' ∧ c ≠ '\r' ∧ isGap c = false ∧ c ≠ '#'

instance (c : Char) : Decidable (Solid c) :=
  inferInstanceAs (Decidable (c ≠ '\n' ∧ c ≠ '\r' ∧ isGap c = false ∧ c ≠ '#'))

theorem skipVoid_solid {c : Char} (h : Solid c) (cs : List Char) :
    skipVoid false (c :: cs) = some (c :: cs) := by
  obtain ⟨hfeed, hreturn, hgap, hcomment⟩ := h
  simp [skipVoid, hfeed, hreturn, hgap, hcomment]

theorem writeText_cons (text : String) :
    ∃ q body, writeText text = q :: body ∧ Solid q ∧ (q = '"' ∨ q = '\'') ∧ q ≠ ']' := by
  unfold writeText
  dsimp only
  split
  · exact ⟨_, _, rfl, by decide, .inl rfl, by decide⟩
  · exact ⟨_, _, rfl, by decide, .inr rfl, by decide⟩
  · exact ⟨_, _, rfl, by decide, .inl rfl, by decide⟩
  · exact ⟨_, _, rfl, by decide, .inr rfl, by decide⟩

theorem readValue_succ {fuel depth : Nat} {c : Char} {cs : List Char} (hbracket : c ≠ '[')
    (hbrace : c ≠ '\x7b') : readValue fuel (depth + 1) (c :: cs) = readValue fuel 0 (c :: cs) := by
  rw [readValue.eq_def]
  split
  next h => cases h
  next h =>
    cases h
    split
    next h => exact absurd (List.cons_eq_cons.mp h).1 hbracket
    next h => exact absurd (List.cons_eq_cons.mp h).1 hbrace
    next => rfl

theorem readValue_writeText (fuel depth : Nat) (text : String) {rest : List Char}
    (hquote : rest.head? ≠ some '"') (happly : rest.head? ≠ some '\'') :
    readValue fuel depth (writeText text ++ rest) = some (.string text, rest) := by
  have hread := readText_writeText text hquote happly
  obtain ⟨q, body, hq, -, hbegin, -⟩ := writeText_cons text
  rw [hq, List.cons_append] at hread ⊢
  have hzero : readValue fuel 0 (q :: (body ++ rest)) = some (.string text, rest) := by
    rcases hbegin with rfl | rfl <;> rw [readValue, hread] <;> rfl
  cases depth with
  | zero => exact hzero
  | succ depth =>
      rw [readValue_succ, hzero]
      · rcases hbegin with rfl | rfl <;> decide
      · rcases hbegin with rfl | rfl <;> decide

/-- How an array goes on behind an item. -/
def afterItem (item : Read Value) (n : Nat) (acc : List Value) : Read (List Value)
  | ',' :: rest => readItems item n acc rest
  | ']' :: rest => some (acc.reverse, rest)
  | _ => none

theorem readItems_item {item : Read Value} (n : Nat) (acc : List Value) {c : Char}
    (hc : Solid c) (hclose : c ≠ ']') {cs rest : List Char} {d : Char} {v : Value} (hd : Solid d)
    (hitem : item (c :: cs) = some (v, d :: rest)) :
    readItems item (n + 1) acc (c :: cs) = afterItem item n (v :: acc) (d :: rest) := by
  rw [readItems, skipVoid_solid hc]
  simp only [Option.bind_eq_bind, Option.bind_some]
  split
  next h => exact absurd (List.cons_eq_cons.mp h).1 hclose
  next =>
    simp only [hitem, Option.bind_some, skipVoid_solid hd]
    rfl

theorem readItems_comma (fuel depth n : Nat) (acc : List Value) (text : String)
    (rest : List Char) :
    readItems (readValue fuel depth) (n + 1) acc (writeText text ++ ',' :: rest) =
      readItems (readValue fuel depth) n (.string text :: acc) rest := by
  have hread : readValue fuel depth (writeText text ++ ',' :: rest) =
      some (.string text, ',' :: rest) := readValue_writeText fuel depth text nofun nofun
  obtain ⟨q, body, hq, hsolid, -, hclose⟩ := writeText_cons text
  rw [hq, List.cons_append] at hread ⊢
  exact readItems_item n acc hsolid hclose (by decide) hread

theorem readItems_last (fuel depth n : Nat) (acc : List Value) (text : String)
    (rest : List Char) :
    readItems (readValue fuel depth) (n + 1) acc (writeText text ++ ']' :: rest) =
      some ((.string text :: acc).reverse, rest) := by
  have hread : readValue fuel depth (writeText text ++ ']' :: rest) =
      some (.string text, ']' :: rest) := readValue_writeText fuel depth text nofun nofun
  obtain ⟨q, body, hq, hsolid, -, hclose⟩ := writeText_cons text
  rw [hq, List.cons_append] at hread ⊢
  exact readItems_item n acc hsolid hclose (by decide) hread

theorem readItems_gap {item : Read Value} (n : Nat) (acc : List Value) {c : Char}
    (hc : c = ' ' ∨ c = '\n') (cs : List Char) :
    readItems item n acc (c :: cs) = readItems item n acc cs := by
  cases n with
  | zero => rfl
  | succ n => rw [readItems, readItems, skipVoid_gap hc]

def itemLine (text : String) : List Char := "    ".toList ++ writeText text ++ [',', '\n']

theorem readItems_lines (fuel depth : Nat) (acc : List Value) (texts : List String)
    (rest : List Char) {n : Nat} (hn : texts.length < n) :
    readItems (readValue fuel depth) n acc ('\n' :: (texts.flatMap itemLine ++ ']' :: rest)) =
      some (acc.reverse ++ texts.map Value.string, rest) := by
  induction texts generalizing acc n with
  | nil =>
      obtain ⟨n, rfl⟩ := Nat.exists_eq_succ_of_ne_zero (Nat.ne_of_gt hn)
      rw [readItems_gap _ _ (.inr rfl), List.flatMap_nil, List.nil_append, readItems,
        skipVoid_solid (by decide), List.map_nil, List.append_nil]
      rfl
  | cons text texts ih =>
      obtain ⟨n, rfl⟩ := Nat.exists_eq_succ_of_ne_zero (Nat.ne_of_gt (Nat.zero_lt_of_lt hn))
      have hline : (text :: texts).flatMap itemLine ++ ']' :: rest = ' ' :: ' ' :: ' ' :: ' ' ::
          (writeText text ++ ',' :: '\n' :: (texts.flatMap itemLine ++ ']' :: rest)) := by
        simp [itemLine]
      rw [hline, readItems_gap _ _ (.inr rfl), readItems_gap _ _ (.inl rfl),
        readItems_gap _ _ (.inl rfl), readItems_gap _ _ (.inl rfl), readItems_gap _ _ (.inl rfl),
        readItems_comma, ih _ (Nat.lt_of_succ_lt_succ hn), List.reverse_cons, List.append_assoc]
      rfl

theorem readValue_writeTexts {fuel depth : Nat} (texts : List String)
    (hfuel : texts.length < fuel) (rest : List Char) :
    readValue fuel (depth + 1) (writeTexts texts ++ rest) =
      some (.array (texts.map Value.string), rest) := by
  obtain ⟨n, rfl⟩ := Nat.exists_eq_succ_of_ne_zero (Nat.ne_of_gt (Nat.zero_lt_of_lt hfuel))
  rcases texts with _ | ⟨text, _ | ⟨next, texts⟩⟩
  · rw [writeTexts, List.cons_append, List.singleton_append, readValue, readItems,
      skipVoid_solid (by decide)]
    rfl
  · have hwritten : writeTexts [text] ++ rest = '[' :: (writeText text ++ ']' :: rest) := by
      simp [writeTexts]
    rw [hwritten, readValue, readItems_last]
    rfl
  · have hitems := readItems_lines (n + 1) depth [] (text :: next :: texts) rest hfuel
    have hwritten : writeTexts (text :: next :: texts) ++ rest =
        '[' :: '\n' :: ((text :: next :: texts).flatMap itemLine ++ ']' :: rest) :=
      congrArg ('[' :: '\n' :: ·) (List.append_assoc _ [']'] rest)
    rw [hwritten, readValue, hitems]
    rfl

def Setting.value : Setting → Value
  | .text s => .string s
  | .number n => .integer n
  | .texts values => .array (values.map Value.string)

def Setting.size : Setting → Nat
  | .texts values => values.length
  | _ => 0

theorem readValue_scalar (fuel depth : Nat) {c : Char} (hc : c.isDigit = true) (cs : List Char) :
    readValue fuel depth (c :: cs) = readScalar (c :: cs) := by
  have hne {d : Char} (hd : d.isDigit = false) : c ≠ d := by
    rintro rfl
    rw [hc] at hd
    cases hd
  have hzero : readValue fuel 0 (c :: cs) = readScalar (c :: cs) := by
    rw [readValue]
    · exact fun rest h => hne (by decide) (List.cons_eq_cons.mp h).1
    · exact fun rest h => hne (by decide) (List.cons_eq_cons.mp h).1
  cases depth with
  | zero => exact hzero
  | succ depth => exact (readValue_succ (hne (by decide)) (hne (by decide))).trans hzero

/-- A setting at the end of a line is read as its value. -/
theorem readValue_write {fuel depth : Nat} (v : Setting) (hfuel : v.size < fuel)
    (rest : List Char) :
    readValue fuel (depth + 1) (v.write ++ '\n' :: rest) = some (v.value, '\n' :: rest) := by
  cases v with
  | text s => exact readValue_writeText fuel (depth + 1) s nofun nofun
  | texts values => exact readValue_writeTexts values hfuel ('\n' :: rest)
  | number n =>
      have hread := readScalar_toDigits n rest
      obtain ⟨c, cs, hc⟩ := List.exists_cons_of_ne_nil (Nat.toDigits_ne_nil (n := n) (b := 10))
      have hdigit : c.isDigit = true := isDigit_toDigits (n := n) c (hc ▸ List.mem_cons_self)
      rw [Setting.write]
      rw [hc, List.cons_append] at hread ⊢
      exact (readValue_scalar fuel (depth + 1) hdigit _).trans hread

end NodeTrial.Toml
