import NodeTrial.Proofs.Toml.Shape

namespace NodeTrial.Toml

/-- What stands behind a backslash is read as a character, whatever follows, and does not end the
line. -/
structure Escapes (esc : List Char) (c : Char) : Prop where
  read : ∀ rest, escape? (esc ++ rest) = some (c, esc.length)
  goes_on : ∀ rest, lineIsOver (esc ++ rest) = false

theorem escapes_quote : Escapes ['"'] '"' := ⟨fun _ => rfl, fun _ => rfl⟩

theorem escapeCode_read : ∀ n < 128, isControl (Char.ofNat n) = true →
    (escapeCode (Char.ofNat n)).take 2 = ['\\', 'u'] ∧
      ((escapeCode (Char.ofNat n)).drop 2).length = 4 ∧
      (Hexadecimal.value? ((escapeCode (Char.ofNat n)).drop 2)).bind scalarValue? =
        some (Char.ofNat n) := by
  decide

theorem escapes_code {c : Char} (h : isControl c = true) :
    ∃ esc, escapeCode c = '\\' :: esc ∧ Escapes esc c := by
  have hlt : c.toNat < 128 := by
    simp only [isControl, Bool.or_eq_true, Bool.and_eq_true, decide_eq_true_eq, beq_iff_eq] at h
    omega
  have hread := escapeCode_read c.toNat hlt
  rw [Char.ofNat_toNat] at hread
  obtain ⟨hmark, hlength, hvalue⟩ := hread h
  have hcode : escapeCode c = ['\\', 'u'] ++ (escapeCode c).drop 2 := by
    rw [← hmark, List.take_append_drop]
  generalize (escapeCode c).drop 2 = digits at hcode hlength hvalue
  refine ⟨'u' :: digits, hcode, fun rest => ?_, fun rest => rfl⟩
  have htake : (digits ++ rest).take 4 = digits := List.take_left' hlength
  change escape?.code 4 (digits ++ rest) = _
  rw [escape?.code, htake, if_pos hlength, hvalue, List.length_cons, hlength]
  rfl

theorem escapeChar_cases (multi : Bool) {c : Char} (hquote : c ≠ '"') :
    (∃ esc, escapeChar multi c = '\\' :: esc ∧ Escapes esc c) ∨
      escapeChar multi c = [c] ∧ c ≠ '\\' ∧ c ≠ '\r' ∧
        (isControl c = true → multi = true ∧ c = '\n') := by
  unfold escapeChar
  split
  next h => exact .inl ⟨['b'], rfl, h ▸ ⟨fun _ => rfl, fun _ => rfl⟩⟩
  split
  next h => exact .inl ⟨['t'], rfl, h ▸ ⟨fun _ => rfl, fun _ => rfl⟩⟩
  split
  next h =>
    subst h
    cases multi with
    | false => exact .inl ⟨['n'], rfl, ⟨fun _ => rfl, fun _ => rfl⟩⟩
    | true => exact .inr ⟨rfl, by decide, by decide, fun _ => ⟨rfl, rfl⟩⟩
  split
  next h => exact .inl ⟨['f'], rfl, h ▸ ⟨fun _ => rfl, fun _ => rfl⟩⟩
  split
  next h => exact .inl ⟨['r'], rfl, h ▸ ⟨fun _ => rfl, fun _ => rfl⟩⟩
  next hreturn =>
    split
    next h =>
      subst h
      exact .inl ⟨['\\'], rfl, ⟨fun _ => rfl, fun _ => rfl⟩⟩
    next hbackslash =>
      split
      next h => exact .inl (escapes_code h)
      next h => exact .inr ⟨rfl, hbackslash, hreturn, fun hcontrol => absurd hcontrol h⟩

theorem readBasic_skip (acc front rest : List Char) :
    readBasic front.length acc (front ++ rest) = readBasic 0 acc rest := by
  induction front with
  | nil => rfl
  | cons c front ih =>
      rw [List.length_cons, List.cons_append, readBasic]
      exact ih

theorem readBasic_escape {esc : List Char} {c : Char} (h : Escapes esc c) (acc rest : List Char) :
    readBasic 0 acc ('\\' :: (esc ++ rest)) = readBasic 0 (c :: acc) rest := by
  rw [readBasic]
  simp only [h.read]
  exact readBasic_skip (c :: acc) esc rest

theorem readBasic_escapeText (acc cs rest : List Char) :
    readBasic 0 acc (escapeText false 0 0 cs ++ '"' :: rest) =
      some (String.ofList (acc.reverse ++ cs), rest) := by
  induction cs generalizing acc with
  | nil =>
      rw [escapeText, List.nil_append, readBasic, List.append_nil]
      rfl
  | cons c cs ih =>
      have hcons : acc.reverse ++ c :: cs = (c :: acc).reverse ++ cs := by simp
      rw [hcons, ← ih, escapeText]
      by_cases hquote : c = '"'
      · subst hquote
        exact readBasic_escape escapes_quote acc _
      · rw [if_neg hquote, List.append_assoc]
        rcases escapeChar_cases false hquote with
          ⟨esc, hesc, hescapes⟩ | ⟨hesc, hbackslash, -, hcontrol⟩
        · rw [hesc]
          exact readBasic_escape hescapes acc _
        · have hplain : isControl c = false := by
            rw [Bool.eq_false_iff]
            exact fun h => Bool.false_ne_true (hcontrol h).1
          rw [hesc, List.singleton_append, readBasic]
          simp only [hquote, hbackslash, hplain, if_false, Bool.false_eq_true]

theorem readLiteral_append (acc : List Char) {cs : List Char}
    (hplain : ∀ c ∈ cs, isControl c = false) (hquote : '\'' ∉ cs) (rest : List Char) :
    readLiteral acc (cs ++ '\'' :: rest) = some (String.ofList (acc.reverse ++ cs), rest) := by
  induction cs generalizing acc with
  | nil =>
      rw [List.nil_append, readLiteral, List.append_nil]
      rfl
  | cons c cs ih =>
      obtain ⟨hc, hrest⟩ := List.forall_mem_cons.mp hplain
      rw [List.mem_cons, not_or] at hquote
      have hcons : acc.reverse ++ c :: cs = (c :: acc).reverse ++ cs := by simp
      rw [hcons, ← ih (c :: acc) hrest hquote.2, List.cons_append, readLiteral,
        if_neg (Ne.symm hquote.1), hc]
      rfl

theorem takeWhile_replicate_append (n : Nat) {quote : Char} {rest : List Char}
    (hrest : rest.head? ≠ some quote) :
    (List.replicate n quote ++ rest).takeWhile (· = quote) = List.replicate n quote := by
  rw [List.takeWhile_append_of_pos (by simp)]
  cases rest with
  | nil => rw [List.takeWhile_nil, List.append_nil]
  | cons d rest =>
      have hd : d ≠ quote := fun h => hrest (congrArg some h)
      rw [List.takeWhile_cons_of_neg (by simpa using hd), List.append_nil]

theorem quotesKept_closing {n : Nat} (hn : n ≤ 2) {quote : Char} {rest : List Char}
    (hrest : rest.head? ≠ some quote) :
    quotesKept quote (List.replicate (n + 3) quote ++ rest) = some n := by
  rw [quotesKept, takeWhile_replicate_append _ hrest, List.length_replicate, if_neg (by omega)]
  exact congrArg some (by omega)

theorem drop_closing {n : Nat} (quote : Char) (rest : List Char) :
    (List.replicate (n + 2) quote ++ rest).drop (n + 2) = rest := by
  rw [List.drop_left']
  exact List.length_replicate

theorem quotesKept_eq_none {quote : Char} {cs : List Char}
    (h : (cs.takeWhile (· = quote)).length ≤ 2) : quotesKept quote cs = none := by
  rw [quotesKept]
  exact if_pos (by omega)

theorem eq_replicate_or (quote : Char) (cs : List Char) :
    cs = List.replicate cs.length quote ∨
      ∀ rest, (cs ++ rest).takeWhile (· = quote) = cs.takeWhile (· = quote) := by
  induction cs with
  | nil => exact .inl rfl
  | cons c cs ih =>
      by_cases hc : c = quote
      · subst hc
        rcases ih with h | h
        · left
          rw [List.length_cons, List.replicate_succ, ← h]
        · right
          intro rest
          rw [List.cons_append, List.takeWhile_cons_of_pos (by simp), h,
            List.takeWhile_cons_of_pos (by simp)]
      · right
        intro rest
        rw [List.cons_append, List.takeWhile_cons_of_neg (by simp [hc]),
          List.takeWhile_cons_of_neg (by simp [hc])]

theorem readMultiLiteral_closing (acc : List Char) {n : Nat} (hn : n ≤ 2) {rest : List Char}
    (hrest : rest.head? ≠ some '\'') :
    readMultiLiteral acc (List.replicate (n + 3) '\'' ++ rest) =
      some (String.ofList (acc.reverse ++ List.replicate n '\''), rest) := by
  have hkept := quotesKept_closing hn hrest
  rw [List.replicate_succ, List.cons_append] at hkept
  rw [List.replicate_succ, List.cons_append, readMultiLiteral, if_pos rfl, hkept]
  simp only [drop_closing, List.reverse_append, List.reverse_replicate]

theorem readMultiLiteral_append (acc : List Char) {cs : List Char} (hplain : Plain cs)
    (hruns : RunsAtMost 2 '\'' cs) {rest : List Char} (hrest : rest.head? ≠ some '\'') :
    readMultiLiteral acc (cs ++ (List.replicate 3 '\'' ++ rest)) =
      some (String.ofList (acc.reverse ++ cs), rest) := by
  induction cs generalizing acc with
  | nil => exact readMultiLiteral_closing acc (Nat.zero_le 2) hrest
  | cons c cs ih =>
      rcases eq_replicate_or '\'' (c :: cs) with hquotes | hbounded
      · -- The quotes that the text ends with are read together with those that close it.
        have hlength : (c :: cs).length ≤ 2 := by
          have hhead := hruns.head
          rw [hquotes, List.takeWhile_eq_self_iff.mpr (by simp), List.length_replicate] at hhead
          exact hhead
        rw [hquotes, ← List.append_assoc, List.replicate_append_replicate]
        exact readMultiLiteral_closing acc hlength hrest
      · have hcons : acc.reverse ++ c :: cs = (c :: acc).reverse ++ cs := by simp
        rw [hcons, ← ih (c :: acc) (List.forall_mem_cons.mp hplain).2 hruns.tail, List.cons_append]
        by_cases hquote : c = '\''
        · subst hquote
          have hkept := quotesKept_eq_none ((congrArg List.length
            (hbounded (List.replicate 3 '\'' ++ rest))).trans_le hruns.head)
          rw [List.cons_append] at hkept
          rw [readMultiLiteral, if_pos rfl, hkept]
        · have hcontrol := (List.forall_mem_cons.mp hplain).1
          have hreturn : c ≠ '\r' := by
            rintro rfl
            exact absurd (hcontrol rfl) (by decide)
          have hallowed : (isControl c && c != '\n') = false := by
            rw [Bool.and_eq_false_imp]
            intro h
            rw [hcontrol h]
            rfl
          rw [readMultiLiteral, if_neg hquote, if_neg hreturn, hallowed]
          rfl

theorem readMultiBasic_skip (acc front rest : List Char) :
    readMultiBasic (.count front.length) acc (front ++ rest) =
      readMultiBasic .nothing acc rest := by
  induction front with
  | nil =>
      cases rest with
      | nil => rfl
      | cons c rest => simp [readMultiBasic]
  | cons c front ih =>
      rw [List.length_cons, List.cons_append, readMultiBasic]
      exact ih

theorem readMultiBasic_escape {esc : List Char} {c : Char} (h : Escapes esc c)
    (acc rest : List Char) :
    readMultiBasic .nothing acc ('\\' :: (esc ++ rest)) =
      readMultiBasic .nothing (c :: acc) rest := by
  simp [readMultiBasic, h.read, h.goes_on, readMultiBasic_skip]

theorem readMultiBasic_plain {c : Char} (hquote : c ≠ '"') (hbackslash : c ≠ '\\')
    (hreturn : c ≠ '\r') (hcontrol : isControl c = true → c = '\n') (acc rest : List Char) :
    readMultiBasic .nothing acc (c :: rest) = readMultiBasic .nothing (c :: acc) rest := by
  have hallowed : ¬ (isControl c = true ∧ ¬ c = '\n') := fun h => h.2 (hcontrol h.1)
  simp [readMultiBasic, hquote, hbackslash, hreturn, hallowed]

theorem readMultiBasic_quote {acc rest : List Char} (h : quotesKept '"' ('"' :: rest) = none) :
    readMultiBasic .nothing acc ('"' :: rest) = readMultiBasic .nothing ('"' :: acc) rest := by
  simp [readMultiBasic, h]

theorem readMultiBasic_closing (acc : List Char) {n : Nat} (hn : n ≤ 2) {rest : List Char}
    (hrest : rest.head? ≠ some '"') :
    readMultiBasic .nothing acc (List.replicate (n + 3) '"' ++ rest) =
      some (String.ofList (acc.reverse ++ List.replicate n '"'), rest) := by
  have hkept := quotesKept_closing hn hrest
  rw [List.replicate_succ, List.cons_append] at hkept
  rw [List.replicate_succ, List.cons_append]
  simp [readMultiBasic, hkept]

/-- With few quotes before it, a text that is written with escapes either is a few quotes more,
which stand as they are, or shows another character before there are too many. -/
theorem escapeText_quotes {run : Nat} (hrun : run ≤ 2) (cs : List Char) :
    (run + cs.length ≤ 2 ∧ cs = List.replicate cs.length '"' ∧ escapeText true 2 run cs = cs) ∨
      ∀ tail, ((escapeText true 2 run cs ++ tail).takeWhile (· = '"')).length + run ≤ 2 := by
  induction cs generalizing run with
  | nil => exact .inl ⟨hrun, rfl, rfl⟩
  | cons c cs ih =>
      rw [escapeText]
      by_cases hquote : c = '"'
      · subst hquote
        by_cases hfew : run < 2
        · rw [if_pos rfl, if_pos hfew]
          rcases @ih (run + 1) hfew with ⟨hlength, hquotes, hcs⟩ | hbounded
          · refine .inl ⟨?_, ?_, congrArg _ hcs⟩
            · rw [List.length_cons]
              omega
            · rw [List.length_cons, List.replicate_succ, ← hquotes]
          · refine .inr fun tail => ?_
            have hrest := hbounded tail
            rw [List.cons_append, List.takeWhile_cons_of_pos (by simp), List.length_cons]
            omega
        · refine .inr fun tail => ?_
          rw [if_pos rfl, if_neg hfew, List.cons_append, List.takeWhile_cons_of_neg (by simp),
            List.length_nil]
          omega
      · refine .inr fun tail => ?_
        rw [if_neg hquote, List.append_assoc]
        rcases escapeChar_cases true hquote with ⟨esc, hesc, -⟩ | ⟨hesc, -⟩
        · rw [hesc, List.cons_append, List.takeWhile_cons_of_neg (by simp), List.length_nil]
          omega
        · rw [hesc, List.singleton_append, List.takeWhile_cons_of_neg (by simpa using hquote),
            List.length_nil]
          omega

theorem readMultiBasic_escapeText (acc : List Char) {run : Nat} (hrun : run ≤ 2) (cs : List Char)
    {rest : List Char} (hrest : rest.head? ≠ some '"') :
    readMultiBasic .nothing acc (escapeText true 2 run cs ++ (List.replicate 3 '"' ++ rest)) =
      some (String.ofList (acc.reverse ++ cs), rest) := by
  induction cs generalizing acc run with
  | nil => exact readMultiBasic_closing acc (Nat.zero_le 2) hrest
  | cons c cs ih =>
      rcases escapeText_quotes hrun (c :: cs) with ⟨hlength, hquotes, hcs⟩ | hbounded
      · rw [hcs, hquotes, ← List.append_assoc, List.replicate_append_replicate]
        exact readMultiBasic_closing acc (by omega) hrest
      · have hcons : acc.reverse ++ c :: cs = (c :: acc).reverse ++ cs := by simp
        rw [hcons]
        have hkept := hbounded (List.replicate 3 '"' ++ rest)
        rw [escapeText] at hkept ⊢
        by_cases hquote : c = '"'
        · subst hquote
          by_cases hfew : run < 2
          · rw [if_pos rfl, if_pos hfew, List.cons_append] at hkept
            rw [if_pos rfl, if_pos hfew, List.cons_append,
              readMultiBasic_quote (quotesKept_eq_none (by omega))]
            exact ih _ hfew
          · rw [if_pos rfl, if_neg hfew]
            exact (readMultiBasic_escape escapes_quote acc _).trans (ih _ (Nat.zero_le 2))
        · rw [if_neg hquote, List.append_assoc]
          rcases escapeChar_cases true hquote with
            ⟨esc, hesc, hescapes⟩ | ⟨hesc, hbackslash, hreturn, hcontrol⟩
          · rw [hesc]
            exact (readMultiBasic_escape hescapes acc _).trans (ih _ (Nat.zero_le 2))
          · rw [hesc, List.singleton_append,
              readMultiBasic_plain hquote hbackslash hreturn fun h => (hcontrol h).2]
            exact ih _ (Nat.zero_le 2)

theorem escapeText_cons (multi : Bool) (allowed run : Nat) (c : Char) (cs : List Char) :
    ∃ d ds, escapeText multi allowed run (c :: cs) = d :: ds ∧
      (d = '\\' ∨ d = c ∧ c ≠ '\r' ∧ (c = '"' → run < allowed)) := by
  rw [escapeText]
  by_cases hquote : c = '"'
  · subst hquote
    by_cases hfew : run < allowed
    · rw [if_pos rfl, if_pos hfew]
      exact ⟨_, _, rfl, .inr ⟨rfl, by decide, fun _ => hfew⟩⟩
    · rw [if_pos rfl, if_neg hfew]
      exact ⟨_, _, rfl, .inl rfl⟩
  · rw [if_neg hquote]
    rcases escapeChar_cases multi hquote with ⟨esc, hesc, -⟩ | ⟨hesc, -, hreturn, -⟩
    · rw [hesc]
      exact ⟨_, _, rfl, .inl rfl⟩
    · rw [hesc]
      exact ⟨_, _, rfl, .inr ⟨rfl, hreturn, fun h => absurd h hquote⟩⟩

theorem readText_basic {body : List Char} (h : ∀ rest, body ≠ '"' :: '"' :: rest) :
    readText ('"' :: body) = readBasic 0 [] body := by
  rw [readText]
  exact fun rest => h rest

theorem readText_literal {body : List Char} (h : ∀ rest, body ≠ '\'' :: '\'' :: rest) :
    readText ('\'' :: body) = readLiteral [] body := by
  rw [readText]
  exact fun rest => h rest

theorem dropFirstLine_of_head {cs : List Char} (hfeed : cs.head? ≠ some '\n')
    (hreturn : cs.head? ≠ some '\r') : dropFirstLine cs = cs := by
  rw [dropFirstLine]
  · rintro rest rfl
    exact hfeed rfl
  · rintro rest rfl
    exact hreturn rfl

theorem dropFirstLine_opening (cs : List Char) {body : List Char} (hreturn : body.head? ≠ some '\r')
    (hfeed : '\n' ∉ cs → body.head? ≠ some '\n') :
    dropFirstLine (opening (Shape.ofText cs) ++ body) = body := by
  unfold opening
  split
  · rfl
  next h =>
    have hnone := not_mem_of_hasLineFeed (Bool.eq_false_iff.mpr h)
    exact dropFirstLine_of_head (hfeed hnone) hreturn

theorem readText_writeText_basic (cs : List Char) {rest : List Char}
    (hrest : rest.head? ≠ some '"') :
    readText ('"' :: (escapeText false 0 0 cs ++ '"' :: rest)) =
      some (String.ofList cs, rest) := by
  rw [readText_basic, readBasic_escapeText]
  · rfl
  · intro more hmore
    cases cs with
    | nil =>
        obtain ⟨-, rfl⟩ := List.cons_eq_cons.mp hmore
        exact hrest rfl
    | cons c cs =>
        obtain ⟨d, ds, hwritten, hd⟩ := escapeText_cons false 0 0 c cs
        rw [hwritten] at hmore
        obtain ⟨rfl, -⟩ := List.cons_eq_cons.mp hmore
        rcases hd with hd | ⟨rfl, -, hfew⟩
        · exact absurd hd (by decide)
        · exact absurd (hfew rfl) (Nat.not_lt_zero 0)

theorem readText_writeText_literal {cs : List Char} (hplain : ∀ c ∈ cs, isControl c = false)
    (hquote : '\'' ∉ cs) {rest : List Char} (hrest : rest.head? ≠ some '\'') :
    readText ('\'' :: (cs ++ '\'' :: rest)) = some (String.ofList cs, rest) := by
  rw [readText_literal, readLiteral_append [] hplain hquote]
  · rfl
  · intro more hmore
    cases cs with
    | nil =>
        obtain ⟨-, rfl⟩ := List.cons_eq_cons.mp hmore
        exact hrest rfl
    | cons c cs =>
        obtain ⟨rfl, -⟩ := List.cons_eq_cons.mp hmore
        exact hquote List.mem_cons_self

theorem readText_writeText_multiBasic (cs : List Char) {rest : List Char}
    (hrest : rest.head? ≠ some '"') :
    readText ('"' :: '"' :: '"' :: (opening (Shape.ofText cs) ++
      (escapeText true 2 0 cs ++ (List.replicate 3 '"' ++ rest)))) =
      some (String.ofList cs, rest) := by
  rw [readText, dropFirstLine_opening, readMultiBasic_escapeText [] (Nat.zero_le 2) cs hrest]
  · rfl
  · cases cs with
    | nil => exact nofun
    | cons c cs =>
        obtain ⟨d, ds, hwritten, hd⟩ := escapeText_cons true 2 0 c cs
        rw [hwritten]
        rintro ⟨⟩
        rcases hd with hd | ⟨rfl, hreturn, -⟩
        · exact absurd hd (by decide)
        · exact hreturn rfl
  · cases cs with
    | nil => exact fun _ => nofun
    | cons c cs =>
        obtain ⟨d, ds, hwritten, hd⟩ := escapeText_cons true 2 0 c cs
        rw [hwritten]
        rintro hnone ⟨⟩
        rcases hd with hd | ⟨rfl, -⟩
        · exact absurd hd (by decide)
        · exact hnone List.mem_cons_self

theorem readText_writeText_multiLiteral {cs : List Char} (hplain : Plain cs)
    (hruns : RunsAtMost 2 '\'' cs) {rest : List Char} (hrest : rest.head? ≠ some '\'') :
    readText ('\'' :: '\'' :: '\'' :: (opening (Shape.ofText cs) ++
      (cs ++ (List.replicate 3 '\'' ++ rest)))) = some (String.ofList cs, rest) := by
  rw [readText, dropFirstLine_opening, readMultiLiteral_append [] hplain hruns hrest]
  · rfl
  · cases cs with
    | nil => exact nofun
    | cons c cs =>
        rintro ⟨⟩
        exact absurd ((List.forall_mem_cons.mp hplain).1 rfl) (by decide)
  · cases cs with
    | nil => exact fun _ => nofun
    | cons c cs =>
        rintro hnone ⟨⟩
        exact hnone List.mem_cons_self

/-- A written text is read as that text, whatever follows but another quote. -/
theorem readText_writeText (text : String) {rest : List Char} (hquote : rest.head? ≠ some '"')
    (happly : rest.head? ≠ some '\'') :
    readText (writeText text ++ rest) = some (text, rest) := by
  unfold writeText
  rcases form_cases text.toList with h | ⟨h, hplain, hnone, hline⟩ | h | ⟨h, hplain, hruns⟩
  · have hread := readText_writeText_basic text.toList hquote
    simpa [h] using hread
  · have hallowed : ∀ c ∈ text.toList, isControl c = false := by
      intro c hc
      rw [Bool.eq_false_iff]
      intro hcontrol
      exact hline (hplain c hc hcontrol ▸ hc)
    have hread := readText_writeText_literal hallowed hnone happly
    simpa [h] using hread
  · have hread := readText_writeText_multiBasic text.toList hquote
    simpa [h] using hread
  · have hread := readText_writeText_multiLiteral hplain hruns happly
    simpa [h] using hread

end NodeTrial.Toml
