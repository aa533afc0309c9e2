import NodeTrial.FileTree.Text
import NodeTrial.Proofs.FileTree.Lookup
import NodeTrial.Proofs.Text.Pieces
import NodeTrial.Proofs.Text.Utf8

namespace NodeTrial

section Beside

variable {u : String} (hu : '/' ∉ u.toList) (hlong : 2 < u.toList.length)

include hu hlong

theorem Path.parts_beside (p : String) :
    ∃ front last, parts (p ++ u) = front ++ [last ++ u] ∧ last ++ u ≠ "." ∧ last ++ u ≠ ".." ∧
      last ≠ last ++ u ∧ (parts p = front ∨ parts p = front ++ [last]) ∧
      (p ≠ "" → endsInSlash p = false → parts p = front ++ [last]) := by
  obtain ⟨front, last, hp, hpu, hlast⟩ := Text.pieces_append hu p.toList
  have hlonger (name : String) (hname : name.toList.length ≤ 2) :
      String.ofList last ++ u ≠ name := by
    rintro rfl
    rw [String.toList_append, List.length_append] at hname
    omega
  have hother : String.ofList last ≠ String.ofList last ++ u := by
    intro heq
    have hlength := congrArg (fun s : String => s.toList.length) heq
    simp only [String.toList_append, List.length_append] at hlength
    omega
  refine ⟨(front.filter (!·.isEmpty)).map String.ofList, String.ofList last, ?_,
    hlonger "." (by decide), hlonger ".." (by decide), hother, ?_, fun hp₀ hslash => ?_⟩
  · have hfull : last ++ u.toList ≠ [] := by
      intro hnil
      rw [(List.append_eq_nil_iff.mp hnil).2] at hlong
      simp at hlong
    simp [parts, hpu, hfull]
  · by_cases hempty : last = []
    · exact .inl (by simp [parts, hp, hempty])
    · exact .inr (by simp [parts, hp, hempty])
  · have hfull : last ≠ [] := by
      intro hempty
      rcases hlast hempty with hnil | hend
      · exact hp₀ (String.toList_eq_nil_iff.mp hnil)
      · simp [endsInSlash, hend] at hslash
    simp [parts, hp, hfull]

theorem Path.endsInSlash_beside (p : String) : endsInSlash (p ++ u) = false := by
  have hne : u.toList ≠ [] := by
    intro hnil
    simp [hnil] at hlong
  refine decide_eq_false fun hlast => hu ?_
  rw [String.toList_append, List.getLast?_append_of_ne_nil _ hne] at hlast
  exact List.mem_of_getLast? hlast

end Beside

namespace FileTree

variable {t t' : FileTree} {here p : Place} {path : String}

/-- A path that can be followed at all. -/
def Spelled (path : String) : Prop :=
  path ≠ "" ∧ '\x00' ∉ path.toList ∧ path.utf8ByteSize < pathBytesBound

theorem resolve_eq_ok_iff {target : Target} :
    t.resolve here path = .ok target ↔
      Spelled path ∧ t.walk (origin here path) (Path.parts path) = .ok target := by
  unfold resolve Spelled
  rw [← Nat.not_le (a := pathBytesBound)]
  split_ifs <;> simp_all

theorem resolve_snoc_iff {front : List String} {last : String} {target : Target}
    (hparts : Path.parts path = front ++ [last]) (hdot : last ≠ ".") (hdots : last ≠ "..") :
    t.resolve here path = .ok target ↔
      Spelled path ∧ last.utf8ByteSize ≤ maxNameBytes ∧
        ∃ d, t.directoryAt? (origin here path) front = some d ∧
          target = t.targetAt (d ++ [last]) := by
  rw [resolve_eq_ok_iff, hparts, walk_snoc_iff hdot hdots]

theorem entry?_changeContent (new : FileTree) {f : File} (hp : p ≠ [])
    (change : List UInt8 → List UInt8) (hput : new.entries = (t.put p (.file f)).entries) :
    entry? (new.changeContent f.id change) p = some (.file { f with content := change f.content }) ∧
      ∀ q, q ≠ p → entry? (new.changeContent f.id change) q = t.entry? q := by
  have hfile : new.fileOf? f.id = some (p, f) := by
    simp [fileOf?, hput, put]
  rw [changeContent, hfile]
  refine ⟨entry?_put_self hp, fun q hq => ?_⟩
  rw [entry?_put_of_ne hq, ← entry?_put_of_ne (t := t) (e := .file f) hq, entry?, entry?, hput]

/-- A file that is opened anew is at one place, and nothing else changes. -/
theorem overwrite_ok {content : List UInt8} (hresolve : t.resolve here path = .ok (t.targetAt p))
    (h : t.overwrite here path content = .ok t') :
    t.entry? p ≠ some .directory ∧
      (∃ f : File, f.content = content ∧ t'.entry? p = some (.file f)) ∧
      ∀ q, q ≠ p → t'.entry? q = t.entry? q := by
  rw [overwrite, openForWriting, hresolve] at h
  dsimp only at h
  cases hslash : Path.endsInSlash path with
  | true =>
      rw [hslash] at h
      cases h
  | false =>
      rw [hslash] at h
      cases hentry : t.entry? p with
      | none =>
          rw [targetAt_of_none hentry] at h
          obtain rfl := Except.ok.inj h
          have hp : p ≠ [] := ne_nil_of_entry? hentry (by simp)
          obtain ⟨hself, hothers⟩ :=
            entry?_changeContent (t.putNew p [] false) hp (fun _ => content) rfl
          exact ⟨by simp, ⟨_, rfl, hself⟩, hothers⟩
      | some e =>
          rw [targetAt_of_some hentry] at h
          cases e with
          | directory => cases h
          | file f =>
              obtain rfl := Except.ok.inj h
              have hp : p ≠ [] := ne_nil_of_entry? hentry (by simp)
              obtain ⟨hself, hothers⟩ :=
                entry?_changeContent (t.put p (.file { f with content := [] })) hp
                  (fun _ => content) rfl
              exact ⟨by simp, ⟨_, rfl, hself⟩, hothers⟩

theorem overwrite_of_write {content : List UInt8} {room : Room}
    (h : t.write here path content room = (t', .ok ())) : t.overwrite here path content = .ok t' := by
  unfold write at h
  cases room with
  | ample =>
      cases hopen : t.overwrite here path content with
      | error e => simp [Room.taken, hopen] at h
      | ok t₁ =>
          simp only [Room.taken, hopen] at h
          rw [(Prod.mk.inj h).1]
  | upTo size cause =>
      cases hopen : t.overwrite here path (content.take size) with
      | error e => simp [Room.taken, hopen] at h
      | ok t₁ =>
          simp only [Room.taken, hopen, Room.answer] at h
          obtain ⟨rfl, hanswer⟩ := Prod.mk.inj h
          split at hanswer
          next hsize => rwa [List.take_of_length_le hsize] at hopen
          next => cases hanswer

/-- A failure to write leaves everything as it was, or the file with a part of the content. -/
theorem write_error_cases {content : List UInt8} {room : Room} {e : FileError}
    (h : t.write here path content room = (t', .error e)) :
    t' = t ∨ ∃ n < content.length, t.overwrite here path (content.take n) = .ok t' := by
  unfold write at h
  cases hopen : t.overwrite here path (room.taken content) with
  | error e' =>
      simp only [hopen] at h
      exact .inl (Prod.mk.inj h).1.symm
  | ok t₁ =>
      simp only [hopen] at h
      obtain ⟨rfl, hanswer⟩ := Prod.mk.inj h
      cases room with
      | ample => cases hanswer
      | upTo size cause =>
          simp only [Room.answer] at hanswer
          split at hanswer
          next => cases hanswer
          next hsize => exact .inr ⟨size, Nat.lt_of_not_le hsize, hopen⟩

theorem moveFileTo_ok {source : Place} (hne : p ≠ source) (hsource : source ≠ [])
    (h : t.moveFileTo source (t.targetAt p) = .ok t') :
    t.entry? p ≠ some .directory ∧ t'.entry? p = t.entry? source ∧
      ∀ q, ¬ source <+: q → ¬ p <+: q → t'.entry? q = t.entry? q := by
  cases hentry : t.entry? p with
  | none =>
      rw [targetAt_of_none hentry] at h
      obtain rfl := Except.ok.inj h
      refine ⟨by simp, entry?_relocate_target hsource hentry, fun q hq hpq => ?_⟩
      exact entry?_relocate_of_apart hq hpq
  | some e =>
      rw [targetAt_of_some hentry] at h
      cases e with
      | directory => cases h
      | file f =>
          have hp : p ≠ [] := ne_nil_of_entry? hentry (by simp)
          rw [moveFileTo, if_neg hne] at h
          obtain rfl := Except.ok.inj h
          refine ⟨by simp, ?_, fun q hq hpq => ?_⟩
          · rw [entry?_relocate_target hsource (entry?_erase_self hp),
              entry?_erase_of_ne (Ne.symm hne)]
          · have hqp : q ≠ p := fun heq => hpq (heq ▸ List.prefix_rfl)
            rw [entry?_relocate_of_apart hq hpq, entry?_erase_of_ne hqp]

theorem move_file {source : String} {place : Place} {f : File}
    (hfind : t.find here source = .ok (place, .file f)) (h : t.move here source path = .ok t') :
    Path.endsInName path = true ∧ Path.endsInSlash path = false ∧
      ∃ target, t.resolve here path = .ok target ∧ t.moveFileTo place target = .ok t' := by
  rw [move, hfind] at h
  cases hresolve : t.resolve here path with
  | error e =>
      rw [hresolve] at h
      cases h
  | ok target =>
      rw [hresolve] at h
      dsimp only at h
      split_ifs at h with hname hslash
      exact ⟨by simpa using hname, by simpa using hslash, target, rfl, h⟩

theorem find_of_present {f : File} (h : t.resolve here path = .ok (.present p (.file f)))
    (hslash : Path.endsInSlash path = false) : t.find here path = .ok (p, .file f) := by
  rw [find, h]
  simp [hslash]

theorem origin_append {u : String} (h : path ≠ "") : origin here (path ++ u) = origin here path := by
  have hhead : (path ++ u).toList.head? = path.toList.head? := by
    rw [String.toList_append]
    exact List.head?_append_of_ne_nil _ fun hnil => h (String.toList_eq_nil_iff.mp hnil)
  rw [origin, origin, Path.isAbsolute, Path.isAbsolute, hhead]

theorem resolve_after_overwrite {front : List String} {name : String} {content : List UInt8}
    (hparts : Path.parts path = front ++ [name]) (hdot : name ≠ ".") (hdots : name ≠ "..")
    (h : t.overwrite here path content = .ok t') :
    ∃ d, ∃ f : File, f.content = content ∧ t'.directoryAt? (origin here path) front = some d ∧
      t'.entry? (d ++ [name]) = some (.file f) ∧
      t'.resolve here path = .ok (.present (d ++ [name]) (.file f)) := by
  cases hresolve : t.resolve here path with
  | error e =>
      rw [overwrite, openForWriting, hresolve] at h
      cases h
  | ok target =>
      obtain ⟨hspelled, hsize, d, hd, rfl⟩ := (resolve_snoc_iff hparts hdot hdots).mp hresolve
      obtain ⟨hplace, ⟨f, hcontent, hf⟩, hothers⟩ := overwrite_ok hresolve h
      -- The place that is written was no directory, and so all directories are still there.
      have hkept : ∀ q, t.entry? q = some .directory → t'.entry? q = some .directory := by
        intro q hq
        rw [hothers q fun heq => hplace (heq ▸ hq), hq]
      have hd' : t'.directoryAt? (origin here path) front = some d :=
        (directoryAt?_transfer (List.forall_mem_nil _) (fun q hq _ => hkept q hq) hd
          (List.forall_mem_nil _)).1
      refine ⟨d, f, hcontent, hd', hf, ?_⟩
      rw [resolve_snoc_iff hparts hdot hdots]
      exact ⟨hspelled, hsize, d, hd', (targetAt_of_some hf).symm⟩

theorem resolve_after_move {front : List String} {name last : String} {d : Place} {f : File}
    {target : Target} (hparts : Path.parts path = front ++ [last]) (hdot : last ≠ ".")
    (hdots : last ≠ "..") (hd : t.directoryAt? (origin here path) front = some d)
    (hname : last ≠ name) (hf : t.entry? (d ++ [name]) = some (.file f))
    (hresolve : t.resolve here path = .ok target)
    (h : t.moveFileTo (d ++ [name]) target = .ok t') :
    t'.resolve here path = .ok (.present (d ++ [last]) (.file f)) := by
  obtain ⟨hspelled, hsize, d', hd', rfl⟩ := (resolve_snoc_iff hparts hdot hdots).mp hresolve
  obtain rfl := Option.some.inj (hd.symm.trans hd')
  have hne : d ++ [last] ≠ d ++ [name] := by simpa using hname
  obtain ⟨htarget, hmoved, hothers⟩ := moveFileTo_ok hne (by simp) h
  have hblocked : ∀ b ∈ [d ++ [name], d ++ [last]], t.entry? b ≠ some .directory := by
    simp [hf, htarget]
  have hkept : ∀ q, t.entry? q = some .directory →
      (∀ b ∈ [d ++ [name], d ++ [last]], ¬ b <+: q) → t'.entry? q = some .directory := by
    intro q hq hout
    rw [hothers q (hout _ (by simp)) (hout _ (by simp)), hq]
  have hdone : t'.directoryAt? (origin here path) front = some d :=
    (directoryAt?_transfer hblocked hkept hd (by simp [not_prefix_of_snoc])).1
  rw [resolve_snoc_iff hparts hdot hdots]
  exact ⟨hspelled, hsize, d, hdone, (targetAt_of_some (hmoved.trans hf)).symm⟩

/-- What was written to a file beside another is read under the path of the other after a move. -/
theorem readText_of_replaced {u text : String} {t₁ t₂ : FileTree} (hu : '/' ∉ u.toList)
    (hlong : 2 < u.toList.length)
    (hwrite : t.overwrite here (path ++ u) (Utf8.encode text.toList) = .ok t₁)
    (hmove : t₁.move here (path ++ u) path = .ok t₂) : t₂.readText here path = .ok text := by
  obtain ⟨front, last, hbeside, hdot, hdots, hother, -, hpath⟩ := Path.parts_beside hu hlong path
  have hslash := Path.endsInSlash_beside hu hlong path
  obtain ⟨d, f, hcontent, hd, hf, hsource⟩ := resolve_after_overwrite hbeside hdot hdots hwrite
  obtain ⟨hends, hnoslash, target, hresolve, hmoved⟩ :=
    move_file (find_of_present hsource hslash) hmove
  have hne : path ≠ "" := (resolve_eq_ok_iff.mp hresolve).1.1
  have hparts := hpath hne hnoslash
  have hname : last ≠ "." ∧ last ≠ ".." := by
    simpa [Path.endsInName, hparts] using hends
  rw [origin_append hne] at hd
  have hread := find_of_present
    (resolve_after_move hparts hname.1 hname.2 hd hother hf hresolve hmoved) hnoslash
  rw [readText, read, hread]
  simp [hcontent, Utf8.decode?_encode]

end FileTree

end NodeTrial
