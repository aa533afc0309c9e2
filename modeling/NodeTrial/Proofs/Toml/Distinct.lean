import NodeTrial.Toml.Reader
import Mathlib.Data.List.Nodup

/-!
In a document that is read, no table has a key twice, at whatever depth it stands and whether
headers, dotted keys or braces made it. All that is ever added to a table goes through one function,
which adds a key only where it is missing.
-/

namespace NodeTrial.Toml

/-- No key stands twice among some entries, and every value among them has a property. -/
structure Once {α : Type} (P : α → Prop) (entries : List (String × α)) : Prop where
  keys : (entries.map Prod.fst).Nodup
  values : ∀ e ∈ entries, P e.2

theorem Once.nil {α : Type} (P : α → Prop) : Once P [] :=
  ⟨List.nodup_nil, fun _ he => absurd he List.not_mem_nil⟩

/-- No table in a value has a key twice. -/
inductive Value.Distinct : Value → Prop
  | string (text : String) : Distinct (.string text)
  | integer (value : Int) : Distinct (.integer value)
  | real (value : Real) : Distinct (.real value)
  | bool (value : Bool) : Distinct (.bool value)
  | moment (text : String) : Distinct (.moment text)
  | array {items : List Value} (hitems : ∀ v ∈ items, Distinct v) : Distinct (.array items)
  | table {entries : List (String × Value)} (hkeys : (entries.map Prod.fst).Nodup)
      (hvalues : ∀ e ∈ entries, Distinct e.2) : Distinct (.table entries)

theorem Value.distinct_table_iff {entries : List (String × Value)} :
    (Value.table entries).Distinct ↔ Once Value.Distinct entries := by
  constructor
  · rintro (_ | _ | _ | _ | _ | _ | ⟨hkeys, hvalues⟩)
    exact ⟨hkeys, hvalues⟩
  · rintro ⟨hkeys, hvalues⟩
    exact .table hkeys hvalues

namespace Part

/-- No table in a part has a key twice. -/
inductive Distinct : Part → Prop
  | value {v : Value} (hv : v.Distinct) : Distinct (.value v)
  | table {origin : Origin} {ps : Parts} (hkeys : (ps.map Prod.fst).Nodup)
      (hparts : ∀ p ∈ ps, Distinct p.2) : Distinct (.table origin ps)
  | tables {items : List Parts} (hkeys : ∀ ps ∈ items, (ps.map Prod.fst).Nodup)
      (hparts : ∀ ps ∈ items, ∀ p ∈ ps, Distinct p.2) : Distinct (.tables items)

theorem distinct_table_iff {origin : Origin} {ps : Parts} :
    (Part.table origin ps).Distinct ↔ Once Distinct ps := by
  constructor
  · rintro (_ | ⟨hkeys, hparts⟩ | _)
    exact ⟨hkeys, hparts⟩
  · rintro ⟨hkeys, hparts⟩
    exact .table hkeys hparts

theorem distinct_tables_iff {items : List Parts} :
    (Part.tables items).Distinct ↔ ∀ ps ∈ items, Once Distinct ps := by
  constructor
  · rintro (_ | _ | ⟨hkeys, hparts⟩)
    exact fun ps hps => ⟨hkeys ps hps, hparts ps hps⟩
  · exact fun h => .tables (fun ps hps => (h ps hps).keys) fun ps hps => (h ps hps).values

theorem entries_eq_map (ps : Parts) : entries ps = ps.map fun p => (p.1, toValue p.2) := by
  induction ps with
  | nil => rw [entries, List.map_nil]
  | cons p ps ih => rw [entries, ih, List.map_cons]

theorem itemValues_eq_map (items : List Parts) :
    itemValues items = items.map fun ps => .table (entries ps) := by
  induction items with
  | nil => rw [itemValues, List.map_nil]
  | cons ps items ih => rw [itemValues, ih, List.map_cons]

theorem once_entries {ps : Parts} (hkeys : (ps.map Prod.fst).Nodup)
    (hvalues : ∀ p ∈ ps, (toValue p.2).Distinct) : Once Value.Distinct (entries ps) := by
  rw [entries_eq_map]
  refine ⟨?_, ?_⟩
  · rwa [List.map_map]
  · intro e he
    obtain ⟨p, hp, rfl⟩ := List.mem_map.mp he
    exact hvalues p hp

theorem Distinct.toValue {p : Part} (h : p.Distinct) : p.toValue.Distinct := by
  induction h with
  | value hv =>
      rw [Part.toValue]
      exact hv
  | table hkeys _ ih =>
      rw [Part.toValue]
      exact Value.distinct_table_iff.mpr (once_entries hkeys ih)
  | tables hkeys _ ih =>
      rw [Part.toValue, itemValues_eq_map]
      refine .array fun v hv => ?_
      obtain ⟨ps, hps, rfl⟩ := List.mem_map.mp hv
      exact Value.distinct_table_iff.mpr (once_entries (hkeys ps hps) (ih ps hps))

theorem keys_alter {key : String} {f : Option Part → Option Part} {ps ps' : Parts}
    (h : alter key f ps = some ps') :
    ps'.map Prod.fst = ps.map Prod.fst ∨
      key ∉ ps.map Prod.fst ∧ ps'.map Prod.fst = ps.map Prod.fst ++ [key] := by
  induction ps generalizing ps' with
  | nil =>
      obtain ⟨p, -, rfl⟩ := Option.map_eq_some_iff.mp h
      exact .inr ⟨List.not_mem_nil, rfl⟩
  | cons first ps ih =>
      obtain ⟨other, p⟩ := first
      rw [alter] at h
      split at h
      next =>
        obtain ⟨p', -, rfl⟩ := Option.map_eq_some_iff.mp h
        exact .inl rfl
      next hne =>
        obtain ⟨rest, hrest, rfl⟩ := Option.map_eq_some_iff.mp h
        rcases ih hrest with hsame | ⟨hnew, hadded⟩
        · exact .inl (congrArg (other :: ·) hsame)
        · refine .inr ⟨?_, congrArg (other :: ·) hadded⟩
          exact fun hmem => (List.mem_cons.mp hmem).elim (fun h => hne h.symm) hnew

theorem mem_alter {key : String} {f : Option Part → Option Part} {ps ps' : Parts}
    (h : alter key f ps = some ps') {e : String × Part} (he : e ∈ ps') :
    e ∈ ps ∨ ∃ q, (∀ p ∈ q, (key, p) ∈ ps) ∧ f q = some e.2 := by
  induction ps generalizing ps' with
  | nil =>
      obtain ⟨p, hp, rfl⟩ := Option.map_eq_some_iff.mp h
      obtain rfl := List.mem_singleton.mp he
      exact .inr ⟨none, fun _ hq => absurd hq (Option.not_mem_none _), hp⟩
  | cons first ps ih =>
      obtain ⟨other, p⟩ := first
      rw [alter] at h
      split at h
      next heq =>
        subst heq
        obtain ⟨p', hp', rfl⟩ := Option.map_eq_some_iff.mp h
        rcases List.mem_cons.mp he with rfl | he
        · refine .inr ⟨some p, fun q hq => ?_, hp'⟩
          obtain rfl := Option.mem_some_iff.mp hq
          exact List.mem_cons_self
        · exact .inl (List.mem_cons_of_mem _ he)
      next =>
        obtain ⟨rest, hrest, rfl⟩ := Option.map_eq_some_iff.mp h
        rcases List.mem_cons.mp he with rfl | he
        · exact .inl List.mem_cons_self
        · rcases ih hrest he with hold | ⟨q, hq, hf⟩
          · exact .inl (List.mem_cons_of_mem _ hold)
          · exact .inr ⟨q, fun p hp => List.mem_cons_of_mem _ (hq p hp), hf⟩

/-- A change of a table that gives no key twice where there was none. -/
def Keeps (f : Parts → Option Parts) : Prop :=
  ∀ ps ps', Once Distinct ps → f ps = some ps' → Once Distinct ps'

theorem keeps_alter {key : String} {f : Option Part → Option Part}
    (hf : ∀ q p, (∀ p ∈ q, p.Distinct) → f q = some p → p.Distinct) : Keeps (alter key f) := by
  intro ps ps' hps h
  refine ⟨?_, fun e he => ?_⟩
  · rcases keys_alter h with hsame | ⟨hnew, hadded⟩
    · rw [hsame]
      exact hps.keys
    · rw [hadded]
      have hfront : (key :: ps.map Prod.fst).Nodup := List.nodup_cons.mpr ⟨hnew, hps.keys⟩
      exact List.nodup_append_comm.mp hfront
  · rcases mem_alter h he with hold | ⟨q, hq, hfq⟩
    · exact hps.values e hold
    · exact hf q e.2 (fun p hp => hps.values _ (hq p hp)) hfq

theorem distinct_alterLast {f : Parts → Option Parts} (hf : Keeps f) {items items' : List Parts}
    (hitems : ∀ ps ∈ items, Once Distinct ps) (h : alterLast f items = some items') :
    ∀ ps ∈ items', Once Distinct ps := by
  induction items generalizing items' with
  | nil => cases h
  | cons ps items ih =>
      obtain ⟨hps, hitems⟩ := List.forall_mem_cons.mp hitems
      cases items with
      | nil =>
          obtain ⟨ps', hps', rfl⟩ := Option.map_eq_some_iff.mp h
          exact List.forall_mem_singleton.mpr (hf ps ps' hps hps')
      | cons next items =>
          obtain ⟨rest, hrest, rfl⟩ := Option.map_eq_some_iff.mp h
          exact List.forall_mem_cons.mpr ⟨hps, ih hitems hrest⟩

theorem Keeps.table {f : Parts → Option Parts} (hf : Keeps f) {origin : Origin} {ps : Parts}
    {p : Part} (hps : Once Distinct ps) (h : (f ps).map (.table origin) = some p) :
    p.Distinct := by
  obtain ⟨ps', hps', rfl⟩ := Option.map_eq_some_iff.mp h
  exact distinct_table_iff.mpr (hf ps ps' hps hps')

theorem Keeps.tables {f : Parts → Option Parts} (hf : Keeps f) {items : List Parts} {p : Part}
    (hitems : (Part.tables items).Distinct) (h : (alterLast f items).map .tables = some p) :
    p.Distinct := by
  obtain ⟨items', hitems', rfl⟩ := Option.map_eq_some_iff.mp h
  exact distinct_tables_iff.mpr (distinct_alterLast hf (distinct_tables_iff.mp hitems) hitems')

theorem keeps_descend {f : Parts → Option Parts} (hf : Keeps f) (keys : List String) :
    Keeps (descend f keys) := by
  induction keys with
  | nil => exact hf
  | cons key keys ih =>
      refine keeps_alter fun q p hq h => ?_
      split at h
      next => exact ih.table (.nil _) h
      next => exact ih.table (distinct_table_iff.mp (hq _ rfl)) h
      next => exact ih.tables (hq _ rfl) h
      next => cases h

theorem keeps_addNew (key : String) {p : Part} (hp : p.Distinct) : Keeps (addNew key p) := by
  refine keeps_alter fun q p' _ h => ?_
  split at h
  next =>
    cases h
    exact hp
  next => cases h

theorem keeps_addDotted (key : String) {v : Value} (hv : v.Distinct) (keys : List String) :
    Keeps (addDotted key v keys) := by
  induction keys with
  | nil => exact keeps_addNew key (.value hv)
  | cons k keys ih =>
      refine keeps_alter fun q p hq h => ?_
      split at h
      next => exact ih.table (.nil _) h
      next =>
        split at h
        next => cases h
        next => exact ih.table (distinct_table_iff.mp (hq _ rfl)) h
      next =>
        split at h
        next => cases h
        next => exact ih.tables (hq _ rfl) h
      next => cases h

theorem keeps_openTable (key : String) : Keeps (openTable key) := by
  refine keeps_alter fun q p hq h => ?_
  split at h
  next =>
    cases h
    exact distinct_table_iff.mpr (.nil _)
  next ps =>
    cases h
    exact distinct_table_iff.mpr (distinct_table_iff.mp (hq _ rfl))
  next => cases h

theorem keeps_openItem (key : String) : Keeps (openItem key) := by
  refine keeps_alter fun q p hq h => ?_
  split at h
  next =>
    cases h
    exact distinct_tables_iff.mpr (List.forall_mem_singleton.mpr (.nil _))
  next items =>
    cases h
    have hitems := distinct_tables_iff.mp (hq _ rfl)
    exact distinct_tables_iff.mpr
      (List.forall_mem_append.mpr ⟨hitems, List.forall_mem_singleton.mpr (.nil _)⟩)
  next => cases h

end Part

/-- Whatever a reader gives has a property. -/
def Yields {α : Type} (P : α → Prop) (read : Read α) : Prop :=
  ∀ cs x rest, read cs = some (x, rest) → P x

theorem scalar?_distinct {cs : List Char} {v : Value} (h : scalar? cs = some v) : v.Distinct := by
  rw [scalar?] at h
  repeat' split at h
  all_goals cases h
  · exact .bool true
  · exact .bool false
  · exact .integer _
  · exact .real _
  · exact .moment _

theorem readScalar_yields : Yields Value.Distinct readScalar := by
  intro cs v rest h
  rw [readScalar] at h
  have hmap : ∀ {word more : List Char}, (scalar? word).map (·, more) = some (v, rest) →
      v.Distinct := by
    intro word more h
    obtain ⟨w, hw, heq⟩ := Option.map_eq_some_iff.mp h
    cases heq
    exact scalar?_distinct hw
  repeat' split at h
  all_goals exact hmap h

theorem readPair_yields (fuel : Nat) {item : Read Value} (hitem : Yields Value.Distinct item) :
    Yields (fun pair => pair.2.Distinct) (readPair fuel item) := by
  intro cs pair rest h
  rw [readPair] at h
  obtain ⟨⟨keys, more⟩, -, h⟩ := Option.bind_eq_some_iff.mp h
  dsimp only at h
  split at h
  next more =>
    obtain ⟨⟨v, more⟩, hv, h⟩ := Option.bind_eq_some_iff.mp h
    obtain ⟨last, -, h⟩ := Option.bind_eq_some_iff.mp h
    cases h
    exact hitem _ _ _ hv
  next => cases h

theorem readItems_yields {item : Read Value} (hitem : Yields Value.Distinct item) (fuel : Nat)
    {acc : List Value} (hacc : ∀ v ∈ acc, v.Distinct) :
    Yields (fun items => ∀ v ∈ items, v.Distinct) (readItems item fuel acc) := by
  induction fuel generalizing acc with
  | zero =>
      intro cs items rest h
      cases h
  | succ fuel ih =>
      intro cs items rest h
      rw [readItems] at h
      obtain ⟨start, -, h⟩ := Option.bind_eq_some_iff.mp h
      have hreverse : ∀ {acc : List Value}, (∀ v ∈ acc, v.Distinct) →
          ∀ v ∈ acc.reverse, v.Distinct :=
        fun hacc v hv => hacc v (List.mem_reverse.mp hv)
      split at h
      next =>
        cases h
        exact hreverse hacc
      next =>
        obtain ⟨⟨v, more⟩, hv, h⟩ := Option.bind_eq_some_iff.mp h
        obtain ⟨more, -, h⟩ := Option.bind_eq_some_iff.mp h
        have hmore : ∀ w ∈ v :: acc, w.Distinct :=
          List.forall_mem_cons.mpr ⟨hitem _ _ _ hv, hacc⟩
        split at h
        next => exact ih hmore _ _ _ h
        next =>
          cases h
          exact hreverse hmore
        next => cases h

theorem readEntries_yields {item : Read Value} (hitem : Yields Value.Distinct item) (fuel : Nat)
    {acc : Parts} (hacc : Once Part.Distinct acc) :
    Yields (Once Part.Distinct) (readEntries item fuel acc) := by
  induction fuel generalizing acc with
  | zero =>
      intro cs ps rest h
      cases h
  | succ fuel ih =>
      intro cs ps rest h
      rw [readEntries] at h
      obtain ⟨start, -, h⟩ := Option.bind_eq_some_iff.mp h
      split at h
      next =>
        cases h
        exact hacc
      next =>
        obtain ⟨⟨⟨⟨keys, key⟩, v⟩, more⟩, hpair, h⟩ := Option.bind_eq_some_iff.mp h
        obtain ⟨added, hadded, h⟩ := Option.bind_eq_some_iff.mp h
        obtain ⟨more, -, h⟩ := Option.bind_eq_some_iff.mp h
        have hv := readPair_yields fuel hitem _ _ _ hpair
        have hmore := Part.keeps_addDotted key hv keys _ _ hacc hadded
        split at h
        next => exact ih hmore _ _ _ h
        next =>
          cases h
          exact hmore
        next => cases h

theorem readValue_yields (fuel depth : Nat) : Yields Value.Distinct (readValue fuel depth) := by
  have hplain : Yields Value.Distinct (readValue fuel 0) := by
    intro cs v rest h
    rw [readValue.eq_def] at h
    dsimp only at h
    split at h
    · obtain ⟨⟨s, more⟩, -, heq⟩ := Option.map_eq_some_iff.mp h
      cases heq
      exact .string s
    · obtain ⟨⟨s, more⟩, -, heq⟩ := Option.map_eq_some_iff.mp h
      cases heq
      exact .string s
    · exact readScalar_yields _ _ _ h
  induction depth with
  | zero => exact hplain
  | succ depth ih =>
      intro cs v rest h
      rw [readValue.eq_def] at h
      dsimp only at h
      split at h
      next =>
        obtain ⟨⟨items, more⟩, hitems, heq⟩ := Option.map_eq_some_iff.mp h
        cases heq
        exact .array (readItems_yields ih fuel (by simp) _ _ _ hitems)
      next =>
        obtain ⟨⟨ps, more⟩, hps, heq⟩ := Option.map_eq_some_iff.mp h
        cases heq
        have honce := readEntries_yields ih fuel (.nil _) _ _ _ hps
        have htable : (Part.table .header ps).Distinct := Part.distinct_table_iff.mpr honce
        exact htable.toValue
      next => exact hplain _ _ _ h

theorem readLines_distinct (size fuel : Nat) {header : List String} {ps ps' : Parts}
    {cs : List Char} (hps : Once Part.Distinct ps)
    (h : readLines size fuel header ps cs = some ps') : Once Part.Distinct ps' := by
  induction fuel generalizing header ps cs with
  | zero => cases h
  | succ fuel ih =>
      rw [readLines] at h
      obtain ⟨start, -, h⟩ := Option.bind_eq_some_iff.mp h
      split at h
      next =>
        cases h
        exact hps
      next =>
        obtain ⟨⟨⟨keys, key⟩, more⟩, -, h⟩ := Option.bind_eq_some_iff.mp h
        dsimp only at h
        split at h
        next =>
          obtain ⟨opened, hopened, h⟩ := Option.bind_eq_some_iff.mp h
          obtain ⟨more, -, h⟩ := Option.bind_eq_some_iff.mp h
          exact ih (Part.keeps_descend (Part.keeps_openItem key) keys _ _ hps hopened) h
        next => cases h
      next =>
        obtain ⟨⟨⟨keys, key⟩, more⟩, -, h⟩ := Option.bind_eq_some_iff.mp h
        obtain ⟨opened, hopened, h⟩ := Option.bind_eq_some_iff.mp h
        obtain ⟨more, -, h⟩ := Option.bind_eq_some_iff.mp h
        exact ih (Part.keeps_descend (Part.keeps_openTable key) keys _ _ hps hopened) h
      next =>
        obtain ⟨⟨⟨⟨keys, key⟩, v⟩, more⟩, hpair, h⟩ := Option.bind_eq_some_iff.mp h
        obtain ⟨added, hadded, h⟩ := Option.bind_eq_some_iff.mp h
        obtain ⟨more, -, h⟩ := Option.bind_eq_some_iff.mp h
        have hv := readPair_yields size (readValue_yields size maxDepth) _ _ _ hpair
        exact ih (Part.keeps_descend (Part.keeps_addDotted key hv keys) header _ _ hps hadded) h

theorem ofText?_once {text : String} {entries : List (String × Value)}
    (h : ofText? text = some entries) : Once Value.Distinct entries := by
  obtain ⟨ps, hps, rfl⟩ := Option.map_eq_some_iff.mp h
  have honce := readLines_distinct _ _ (.nil _) hps
  exact Part.once_entries honce.keys fun p hp => (honce.values p hp).toValue

end NodeTrial.Toml
