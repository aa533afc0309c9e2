import NodeTrial.Proofs.Toml.Value

namespace NodeTrial.Toml

/-- A key that needs no quotes. -/
def Bare (key : String) : Prop := key.toList ≠ [] ∧ ∀ c ∈ key.toList, isBare c = true

-- Decided over the characters of the key, where an instance that is searched for may go through
-- all characters that there are.
instance (key : String) : Decidable (Bare key) :=
  have := List.decidableBAll (fun c => isBare c = true) key.toList
  instDecidableAnd

theorem ne_of_isBare {c d : Char} (hc : isBare c = true) (hd : isBare d = false) : c ≠ d := by
  rintro rfl
  rw [hc] at hd
  cases hd

theorem solid_of_isBare {c : Char} (h : isBare c = true) : Solid c := by
  refine ⟨ne_of_isBare h (by decide), ne_of_isBare h (by decide), ?_, ne_of_isBare h (by decide)⟩
  have hblank := ne_of_isBare (d := ' ') h (by decide)
  have htab := ne_of_isBare (d := '\t') h (by decide)
  simp [isGap, hblank, htab]

theorem skipGap_solid {c : Char} (h : Solid c) (cs : List Char) : skipGap (c :: cs) = c :: cs :=
  List.dropWhile_cons_of_neg (by simp [h.2.2.1])

theorem Bare.exists_cons {key : String} (h : Bare key) :
    ∃ c cs, key.toList = c :: cs ∧ isBare c = true := by
  obtain ⟨c, cs, hc⟩ := List.exists_cons_of_ne_nil h.1
  exact ⟨c, cs, hc, h.2 c (hc ▸ List.mem_cons_self)⟩

theorem readSimpleKey_bare {key : String} (hkey : Bare key) {d : Char} (hd : isBare d = false)
    (rest : List Char) : readSimpleKey (key.toList ++ d :: rest) = some (key, d :: rest) := by
  have htake : (key.toList ++ d :: rest).takeWhile isBare = key.toList := by
    rw [List.takeWhile_append_of_pos hkey.2, List.takeWhile_cons_of_neg (by simp [hd]),
      List.append_nil]
  obtain ⟨c, cs, hcs, hc⟩ := hkey.exists_cons
  rw [readSimpleKey, htake]
  · rw [hcs]
    dsimp only
    rw [← hcs, String.ofList_toList, List.drop_left]
  · rw [hcs]
    exact fun rest h => ne_of_isBare hc (by decide) (List.cons_eq_cons.mp h).1
  · rw [hcs]
    exact fun rest h => ne_of_isBare hc (by decide) (List.cons_eq_cons.mp h).1

theorem readKey_bare (fuel : Nat) {key : String} (hkey : Bare key) {d e : Char}
    (hd : isBare d = false) (he : e ≠ '.') {rest more : List Char}
    (hrest : skipGap (d :: rest) = e :: more) :
    readKey (fuel + 1) (key.toList ++ d :: rest) = some ([key], e :: more) := by
  obtain ⟨c, cs, hcs, hc⟩ := hkey.exists_cons
  have hskip : skipGap (key.toList ++ d :: rest) = key.toList ++ d :: rest := by
    rw [hcs]
    exact skipGap_solid (solid_of_isBare hc) _
  rw [readKey, hskip, readSimpleKey_bare hkey hd]
  simp only [Option.bind_eq_bind, Option.bind_some, hrest]
  split
  next h => exact absurd (List.cons_eq_cons.mp h).1 he
  next => rfl

theorem write_cons (v : Setting) : ∃ c cs, v.write = c :: cs ∧ Solid c := by
  cases v with
  | text s =>
      obtain ⟨q, body, hq, hsolid, -⟩ := writeText_cons s
      exact ⟨q, body, hq, hsolid⟩
  | number n =>
      obtain ⟨c, cs, hc⟩ := List.exists_cons_of_ne_nil (Nat.toDigits_ne_nil (n := n) (b := 10))
      have hdigit : c.isDigit = true := isDigit_toDigits (n := n) c (hc ▸ List.mem_cons_self)
      refine ⟨c, cs, hc, solid_of_isBare ?_⟩
      simp [isBare, Char.isAlphanum, hdigit]
  | texts values =>
      rcases values with _ | ⟨text, _ | ⟨next, texts⟩⟩ <;> exact ⟨'[', _, rfl, by decide⟩

theorem readPair_writePair (fuel : Nat) {size : Nat} {key : String} (hkey : Bare key) (v : Setting)
    (hsize : v.size < size) (rest : List Char) :
    readPair (fuel + 1) (readValue size maxDepth) (writePair (key, v) ++ rest) =
      some ((([], key), v.value), '\n' :: rest) := by
  have hwritten : writePair (key, v) ++ rest =
      key.toList ++ ' ' :: '=' :: ' ' :: (v.write ++ '\n' :: rest) := by
    simp [writePair]
  have hgap : skipGap (' ' :: '=' :: ' ' :: (v.write ++ '\n' :: rest)) =
      '=' :: ' ' :: (v.write ++ '\n' :: rest) := rfl
  have hvalue : skipGap (' ' :: (v.write ++ '\n' :: rest)) = v.write ++ '\n' :: rest := by
    obtain ⟨c, cs, hc, hsolid⟩ := write_cons v
    rw [hc]
    exact skipGap_solid hsolid _
  rw [readPair, hwritten, readKey_bare fuel hkey (by decide) (by decide) hgap]
  simp only [Option.bind_eq_bind, Option.bind_some, hvalue, maxDepth, readValue_write v hsize]
  rfl

theorem readLines_pair {size fuel : Nat} {key : String} (hkey : Bare key) (v : Setting)
    (hsize : v.size < size) (header : List String) (ps : Parts) (rest : List Char) :
    readLines size (fuel + 1) header ps (writePair (key, v) ++ rest) =
      (Part.descend (Part.addNew key (.value v.value)) header ps).bind fun ps =>
        readLines size fuel header ps rest := by
  obtain ⟨size, rfl⟩ := Nat.exists_eq_succ_of_ne_zero (Nat.ne_of_gt (Nat.zero_lt_of_lt hsize))
  have hread := readPair_writePair size hkey v hsize rest
  obtain ⟨c, cs, hcs, hc⟩ := hkey.exists_cons
  have hwritten : ∃ more, writePair (key, v) ++ rest = c :: more := by
    rw [writePair, hcs]
    exact ⟨_, rfl⟩
  obtain ⟨more, hmore⟩ := hwritten
  rw [hmore] at hread ⊢
  rw [readLines, skipVoid_solid (solid_of_isBare hc)]
  simp only [Option.bind_eq_bind, Option.bind_some]
  split
  next h => cases h
  next h => exact absurd (List.cons_eq_cons.mp h).1 (ne_of_isBare hc (by decide))
  next h => exact absurd (List.cons_eq_cons.mp h).1 (ne_of_isBare hc (by decide))
  next =>
    simp only [hread, Option.bind_some]
    rfl

def headerLine (name : String) : List Char := '\n' :: '[' :: name.toList ++ [']', '\n']

theorem readLines_header {size fuel : Nat} {name : String} (hname : Bare name)
    (header : List String) (ps : Parts) (rest : List Char) :
    readLines (size + 1) (fuel + 1) header ps (headerLine name ++ rest) =
      (Part.openTable name ps).bind fun ps => readLines (size + 1) fuel [name] ps rest := by
  have hwritten : headerLine name ++ rest =
      '\n' :: '[' :: (name.toList ++ ']' :: '\n' :: rest) := by
    simp [headerLine]
  have hbracket : skipGap (']' :: '\n' :: rest) = ']' :: '\n' :: rest := rfl
  have hkey := readKey_bare size hname (by decide) (by decide) hbracket
  have hread : readHeader (size + 1) (name.toList ++ ']' :: '\n' :: rest) =
      some (([], name), '\n' :: rest) := by
    rw [readHeader, hkey]
    rfl
  obtain ⟨c, cs, hcs, hc⟩ := hname.exists_cons
  rw [hcs, List.cons_append] at hread
  rw [hwritten, readLines, skipVoid_gap (.inr rfl), skipVoid_solid (by decide), hcs,
    List.cons_append]
  simp only [Option.bind_eq_bind, Option.bind_some]
  split
  next h => cases h
  next h =>
    have hsecond := (List.cons_eq_cons.mp (List.cons_eq_cons.mp h).2).1
    exact absurd hsecond (ne_of_isBare hc (by decide))
  next h =>
    obtain ⟨-, rfl⟩ := List.cons_eq_cons.mp h
    simp only [hread, Option.bind_some]
    rfl
  next h => exact absurd rfl (h _)

def pairParts (pairs : List (String × Setting)) : Parts :=
  pairs.map fun p => (p.1, .value p.2.value)

theorem alter_append {key : String} {f : Option Part → Option Part} {before : Parts}
    (h : key ∉ before.map Prod.fst) (rest : Parts) :
    Part.alter key f (before ++ rest) = (Part.alter key f rest).map (before ++ ·) := by
  induction before with
  | nil => exact (Option.map_id' (x := Part.alter key f rest)).symm
  | cons p before ih =>
      obtain ⟨other, part⟩ := p
      rw [List.map_cons, List.mem_cons, not_or] at h
      rw [List.cons_append, Part.alter, if_neg (Ne.symm h.1), ih h.2, Option.map_map]
      rfl

theorem alter_new {key : String} {f : Option Part → Option Part} {ps : Parts}
    (h : key ∉ ps.map Prod.fst) {p : Part} (hf : f none = some p) :
    Part.alter key f ps = some (ps ++ [(key, p)]) := by
  have halter := alter_append (f := f) h []
  rw [List.append_nil, Part.alter, hf] at halter
  exact halter

theorem fresh_of_nodup {keys rest : List String} {key : String}
    (h : (keys ++ key :: rest).Nodup) : key ∉ keys :=
  fun hmem => (List.nodup_append.mp h).2.2 key hmem key List.mem_cons_self rfl

/-- The parts that lines under a header are about, and how they stand among all parts. -/
def Under (header : List String) (around : Parts → Parts) : Prop :=
  ∀ (f : Parts → Option Parts) (ps : Parts),
    Part.descend f header (around ps) = (f ps).map around

theorem under_nil : Under [] id := fun f ps => (Option.map_id' (x := f ps)).symm

theorem under_table {name : String} {before : Parts} (h : name ∉ before.map Prod.fst) :
    Under [name] fun ps => before ++ [(name, .table .header ps)] := by
  intro f ps
  rw [Part.descend, alter_append h, Part.alter, if_pos rfl, Option.map_map]
  change Option.map _ ((f ps).map (Part.table .header)) = _
  rw [Option.map_map]
  rfl

/-- Lines with different keys add their entries, in order. -/
theorem readLines_pairs (size fuel : Nat) {header : List String} {around : Parts → Parts}
    (hunder : Under header around) {pairs : List (String × Setting)} (ps : Parts)
    (hbare : ∀ p ∈ pairs, Bare p.1) (hsize : ∀ p ∈ pairs, p.2.size < size)
    (hnew : (ps.map Prod.fst ++ pairs.map Prod.fst).Nodup) (rest : List Char) :
    readLines size (fuel + pairs.length) header (around ps) (pairs.flatMap writePair ++ rest) =
      readLines size fuel header (around (ps ++ pairParts pairs)) rest := by
  induction pairs generalizing ps with
  | nil =>
      rw [pairParts, List.map_nil, List.append_nil]
      rfl
  | cons p pairs ih =>
      obtain ⟨key, v⟩ := p
      obtain ⟨hkey, hbare⟩ := List.forall_mem_cons.mp hbare
      obtain ⟨hv, hsize⟩ := List.forall_mem_cons.mp hsize
      have hfresh : key ∉ ps.map Prod.fst := fresh_of_nodup hnew
      have hlast : (ps ++ [(key, Part.value v.value)]).map Prod.fst ++ pairs.map Prod.fst =
          ps.map Prod.fst ++ ((key, v) :: pairs).map Prod.fst := by
        simp
      have hadded : Part.addNew key (.value v.value) ps = some (ps ++ [(key, .value v.value)]) :=
        alter_new hfresh rfl
      rw [List.flatMap_cons, List.append_assoc, List.length_cons, ← Nat.add_assoc,
        readLines_pair hkey v hv, hunder, hadded]
      have hrest := ih _ hbare hsize (hlast ▸ hnew)
      rw [List.append_assoc] at hrest
      exact hrest

def tablePart (table : String × List (String × Setting)) : String × Part :=
  (table.1, .table .header (pairParts table.2))

def lineCount : List (String × List (String × Setting)) → Nat
  | [] => 0
  | table :: tables => table.2.length + 1 + lineCount tables

theorem readLines_tables (size fuel : Nat) {tables : List (String × List (String × Setting))}
    {ps : Parts} (hnames : ∀ table ∈ tables, Bare table.1)
    (hbare : ∀ table ∈ tables, ∀ p ∈ table.2, Bare p.1)
    (hsize : ∀ table ∈ tables, ∀ p ∈ table.2, p.2.size < size + 1)
    (hnew : (ps.map Prod.fst ++ tables.map Prod.fst).Nodup)
    (hnodup : ∀ table ∈ tables, (table.2.map Prod.fst).Nodup) (header : List String)
    (hfuel : lineCount tables < fuel) :
    readLines (size + 1) fuel header ps (tables.flatMap writeTable) =
      some (ps ++ tables.map tablePart) := by
  induction tables generalizing ps fuel header with
  | nil =>
      obtain ⟨fuel, rfl⟩ := Nat.exists_eq_succ_of_ne_zero (Nat.ne_of_gt hfuel)
      rw [List.map_nil, List.append_nil]
      rfl
  | cons table tables ih =>
      -- A header opens an empty table, its lines fill it, and the other tables come behind it.
      obtain ⟨name, pairs⟩ := table
      obtain ⟨hname, hnames⟩ := List.forall_mem_cons.mp hnames
      obtain ⟨hpairs, hbare⟩ := List.forall_mem_cons.mp hbare
      obtain ⟨hv, hsize⟩ := List.forall_mem_cons.mp hsize
      obtain ⟨hkeys, hnodup⟩ := List.forall_mem_cons.mp hnodup
      have hfresh : name ∉ ps.map Prod.fst := fresh_of_nodup hnew
      have hlast : (ps ++ [tablePart (name, pairs)]).map Prod.fst ++ tables.map Prod.fst =
          ps.map Prod.fst ++ ((name, pairs) :: tables).map Prod.fst := by
        simp [tablePart]
      have hopen : Part.openTable name ps = some (ps ++ [(name, .table .header [])]) :=
        alter_new hfresh rfl
      have hwritten : ((name, pairs) :: tables).flatMap writeTable =
          headerLine name ++ (pairs.flatMap writePair ++ tables.flatMap writeTable) := by
        simp [writeTable, headerLine]
      have hcount : lineCount ((name, pairs) :: tables) = pairs.length + 1 + lineCount tables := rfl
      have hlines : lineCount tables + pairs.length + 1 < fuel := by omega
      obtain ⟨fuel, rfl⟩ := Nat.exists_eq_add_of_lt hlines
      have hown := readLines_pairs (size + 1) (lineCount tables + fuel + 1)
        (under_table hfresh) [] hpairs hv hkeys (tables.flatMap writeTable)
      rw [hwritten, show lineCount tables + pairs.length + 1 + fuel + 1 =
          lineCount tables + fuel + 1 + pairs.length + 1 by omega, readLines_header hname, hopen,
        Option.bind_some, hown]
      have hrest := ih (lineCount tables + fuel + 1) hnames hbare hsize (hlast ▸ hnew) hnodup
        [name] (by omega)
      rw [List.append_assoc] at hrest
      exact hrest

def pairEntries (pairs : List (String × Setting)) : List (String × Value) :=
  pairs.map fun p => (p.1, p.2.value)

def tableEntry (table : String × List (String × Setting)) : String × Value :=
  (table.1, .table (pairEntries table.2))

theorem entries_append (ps qs : Parts) :
    Part.entries (ps ++ qs) = Part.entries ps ++ Part.entries qs := by
  induction ps with
  | nil => rw [List.nil_append, Part.entries, List.nil_append]
  | cons p ps ih =>
      obtain ⟨key, part⟩ := p
      rw [List.cons_append, Part.entries, Part.entries, ih, List.cons_append]

theorem entries_pairParts (pairs : List (String × Setting)) :
    Part.entries (pairParts pairs) = pairEntries pairs := by
  induction pairs with
  | nil => rw [pairParts, List.map_nil, Part.entries, pairEntries, List.map_nil]
  | cons p pairs ih =>
      rw [pairParts, List.map_cons, Part.entries, Part.toValue, ← pairParts, ih]
      rfl

theorem entries_tableParts (tables : List (String × List (String × Setting))) :
    Part.entries (tables.map tablePart) = tables.map tableEntry := by
  induction tables with
  | nil => rw [List.map_nil, Part.entries, List.map_nil]
  | cons table tables ih =>
      rw [List.map_cons, tablePart, Part.entries, Part.toValue, entries_pairParts, ih]
      rfl

theorem length_le_length_flatMap {α β : Type} {f : α → List β} (h : ∀ x, 1 ≤ (f x).length)
    (xs : List α) : xs.length ≤ (xs.flatMap f).length := by
  induction xs with
  | nil => exact Nat.le_refl 0
  | cons x xs ih =>
      have hfirst := h x
      rw [List.length_cons, List.flatMap_cons, List.length_append]
      omega

theorem length_le_of_mem {α β : Type} (f : α → List β) {x : α} {xs : List α} (h : x ∈ xs) :
    (f x).length ≤ (xs.flatMap f).length := by
  rw [List.flatMap_def]
  exact (List.sublist_flatten_of_mem (List.mem_map_of_mem h)).length_le

theorem length_writePair (p : String × Setting) :
    p.2.write.length + 1 ≤ (writePair p).length := by
  simp only [writePair, List.length_append, List.length_singleton]
  omega

theorem length_writeTable (table : String × List (String × Setting)) :
    (table.2.flatMap writePair).length + 1 ≤ (writeTable table).length := by
  simp only [writeTable, List.length_append, List.length_cons]
  omega

theorem size_le_length (v : Setting) : v.size ≤ v.write.length := by
  cases v with
  | text s => exact Nat.zero_le _
  | number n => exact Nat.zero_le _
  | texts values =>
      rcases values with _ | ⟨text, _ | ⟨next, texts⟩⟩
      · exact Nat.zero_le _
      · exact Nat.succ_le_succ (Nat.zero_le _)
      · have hlines : (text :: next :: texts).length ≤
            ((text :: next :: texts).flatMap itemLine).length :=
          length_le_length_flatMap (fun text => by simp [itemLine]) _
        have hwritten : (Setting.texts (text :: next :: texts)).write =
            '[' :: '\n' :: (text :: next :: texts).flatMap itemLine ++ [']'] := rfl
        rw [hwritten, List.length_append, List.length_cons, List.length_cons, Setting.size]
        omega

theorem lineCount_le (tables : List (String × List (String × Setting))) :
    lineCount tables ≤ (tables.flatMap writeTable).length := by
  induction tables with
  | nil => exact Nat.le_refl 0
  | cons table tables ih =>
      have hpairs : table.2.length ≤ (table.2.flatMap writePair).length :=
        length_le_length_flatMap (fun p => by have := length_writePair p; omega) _
      have htable := length_writeTable table
      rw [lineCount, List.flatMap_cons, List.length_append]
      omega

theorem size_lt_of_mem {pairs : List (String × Setting)} {p : String × Setting}
    (h : p ∈ pairs) : p.2.size < (pairs.flatMap writePair).length := by
  have hsize := size_le_length p.2
  have hline := length_writePair p
  have hmem := length_le_of_mem writePair h
  omega

theorem size_lt_of_mem_table {tables : List (String × List (String × Setting))}
    {table : String × List (String × Setting)} (htable : table ∈ tables) {p : String × Setting}
    (h : p ∈ table.2) : p.2.size < (tables.flatMap writeTable).length := by
  have hsize := size_lt_of_mem h
  have hlines := length_writeTable table
  have hmem := length_le_of_mem writeTable htable
  omega

/-- A document whose keys are bare, and different wherever they stand in one table: its own keys,
and the names of its tables with theirs. -/
structure Legible (keys : List String) (tables : List (String × List String)) : Prop where
  bare : ∀ key ∈ keys, Bare key
  names_bare : ∀ table ∈ tables, Bare table.1
  tables_bare : ∀ table ∈ tables, ∀ key ∈ table.2, Bare key
  nodup : (keys ++ tables.map Prod.fst).Nodup
  tables_nodup : ∀ table ∈ tables, table.2.Nodup

instance (keys : List String) (tables : List (String × List String)) :
    Decidable (Legible keys tables) :=
  decidable_of_iff
    ((∀ key ∈ keys, Bare key) ∧ (∀ table ∈ tables, Bare table.1) ∧
      (∀ table ∈ tables, ∀ key ∈ table.2, Bare key) ∧ (keys ++ tables.map Prod.fst).Nodup ∧
      ∀ table ∈ tables, table.2.Nodup)
    ⟨fun ⟨h₁, h₂, h₃, h₄, h₅⟩ => ⟨h₁, h₂, h₃, h₄, h₅⟩,
      fun ⟨h₁, h₂, h₃, h₄, h₅⟩ => ⟨h₁, h₂, h₃, h₄, h₅⟩⟩

/-- The name of a table with its keys. -/
def outline (table : String × List (String × Setting)) : String × List String :=
  (table.1, table.2.map Prod.fst)

section

variable {pairs : List (String × Setting)} {tables : List (String × List (String × Setting))}
  (h : Legible (pairs.map Prod.fst) (tables.map outline))

include h

theorem Legible.no_mark (rest : List Char) :
    pairs.flatMap writePair ++ tables.flatMap writeTable ≠ '\uFEFF' :: rest := by
  rcases pairs with _ | ⟨⟨key, v⟩, pairs⟩
  · cases tables with
    | nil => exact nofun
    | cons table tables =>
        intro heq
        exact absurd (List.cons_eq_cons.mp heq).1 (by decide)
  · obtain ⟨c, cs, hcs, hc⟩ := (h.bare key List.mem_cons_self).exists_cons
    rw [List.flatMap_cons, writePair, hcs]
    intro heq
    exact ne_of_isBare hc (by decide) (List.cons_eq_cons.mp heq).1

theorem readLines_document {size : Nat}
    (hsize : (pairs.flatMap writePair).length + (tables.flatMap writeTable).length ≤ size) :
    readLines (size + 1) (size + 1) [] []
      (pairs.flatMap writePair ++ tables.flatMap writeTable) =
        some (pairParts pairs ++ tables.map tablePart) := by
  have hpairs : pairs.length ≤ (pairs.flatMap writePair).length :=
    length_le_length_flatMap (fun p => by have := length_writePair p; omega) _
  have htables := lineCount_le tables
  obtain ⟨fuel, hfuel⟩ : ∃ fuel, size + 1 = fuel + pairs.length :=
    ⟨_, (Nat.sub_add_cancel (by omega)).symm⟩
  have hkeys : (pairParts pairs).map Prod.fst = pairs.map Prod.fst := by simp [pairParts]
  have hnames : (tables.map outline).map Prod.fst = tables.map Prod.fst := by simp [outline]
  have hnodup := h.nodup
  rw [hnames] at hnodup
  have hown := readLines_pairs (size + 1) fuel under_nil []
    (List.forall_mem_map.mp h.bare) (fun p hp => by have := size_lt_of_mem hp; omega)
    (List.nodup_append.mp hnodup).1 (tables.flatMap writeTable)
  have hothers := readLines_tables size fuel
    (fun table ht => h.names_bare (outline table) (List.mem_map_of_mem ht))
    (fun table ht =>
      List.forall_mem_map.mp (h.tables_bare (outline table) (List.mem_map_of_mem ht)))
    (fun table ht p hp => by have := size_lt_of_mem_table ht hp; omega) (hkeys.symm ▸ hnodup)
    (fun table ht => h.tables_nodup (outline table) (List.mem_map_of_mem ht)) [] (by omega)
  rw [← hfuel] at hown
  exact hown.trans hothers

/-- A document that was written is read as the entries it was written from. -/
theorem ofText?_writeDocument :
    ofText? (writeDocument pairs tables) = some (pairEntries pairs ++ tables.map tableEntry) := by
  have hread := readLines_document h (Nat.le_of_eq List.length_append.symm)
  rw [ofText?, writeDocument, String.toList_ofList]
  split
  next hmark => exact absurd hmark (h.no_mark _)
  next => rw [hread, Option.map_some, entries_append, entries_pairParts, entries_tableParts]

end

end NodeTrial.Toml
