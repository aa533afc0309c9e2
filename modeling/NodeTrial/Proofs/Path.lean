import NodeTrial.FileTree.Lookup
import NodeTrial.Proofs.Text.Pieces
import Mathlib.Data.List.Basic

namespace NodeTrial.Path

/-- The parts of a text that lead anywhere, which a part of one dot does not. -/
def stepsOf (cs : List Char) : List String :=
  (((Text.pieces '/' cs).filter (!·.isEmpty)).map String.ofList).filter (· != ".")

def steps (path : String) : List String := (parts path).filter (· != ".")

variable {path directory : String} {cs ds : List Char}

theorem steps_eq (path : String) : steps path = stepsOf path.toList := rfl

theorem stepsOf_append_slash (cs ds : List Char) :
    stepsOf (cs ++ '/' :: ds) = stepsOf cs ++ stepsOf ds := by
  simp [stepsOf, Text.pieces_append_separator]

theorem stepsOf_slash_end (cs : List Char) : stepsOf (cs ++ ['/']) = stepsOf cs := by
  rw [stepsOf_append_slash]
  exact List.append_nil _

theorem stepsOf_dot_end (cs : List Char) : stepsOf (cs ++ ['/', '.']) = stepsOf cs := by
  rw [stepsOf_append_slash]
  exact List.append_nil _

theorem stepsOf_ne_nil (hslash : '/' ∉ cs) (hne : cs ≠ []) (hdot : cs ≠ ['.']) :
    stepsOf cs ≠ [] := by
  have hpieces := Text.pieces_intercalate (List.forall_mem_singleton.mpr hslash)
    (List.cons_ne_nil cs [])
  rw [List.intercalate_singleton] at hpieces
  have hname : String.ofList cs ≠ "." := fun h => hdot (by simpa using congrArg String.toList h)
  simp [stepsOf, hpieces, hne, hname]

theorem stepsOf_trimTail (cs : List Char) : stepsOf (trimTail cs).reverse = stepsOf cs.reverse := by
  fun_induction trimTail cs with
  | case1 rest hempty =>
      rw [List.isEmpty_iff.mp hempty]
  | case2 rest hne ih =>
      rw [ih, List.reverse_cons, stepsOf_slash_end]
  | case3 rest hempty =>
      rw [List.isEmpty_iff.mp hempty]
      rfl
  | case4 rest hne ih =>
      rw [ih, List.reverse_cons, List.reverse_cons, List.reverse_cons, List.append_assoc]
      exact (stepsOf_slash_end _).trans (stepsOf_dot_end _).symm
  | case5 => rfl

theorem getLast?_trimTail (cs : List Char) : (trimTail cs).getLast? = cs.getLast? := by
  fun_induction trimTail cs with
  | case1 rest hempty => rw [List.isEmpty_iff.mp hempty]
  | case2 rest hne ih =>
      rw [ih, List.getLast?_cons_of_ne_nil (by simpa using hne)]
  | case3 rest hempty =>
      rw [List.isEmpty_iff.mp hempty]
      rfl
  | case4 rest hne ih =>
      rw [ih, List.getLast?_cons_cons]
  | case5 => rfl

theorem trimTail_cases (cs : List Char) :
    trimTail cs = ['/'] ∨
      (∀ rest, trimTail cs ≠ '/' :: rest) ∧ ∀ rest, trimTail cs ≠ '.' :: '/' :: rest := by
  fun_induction trimTail cs with
  | case1 => exact .inl rfl
  | case2 rest hne ih => exact ih
  | case3 => exact .inl rfl
  | case4 rest hne ih => exact ih
  | case5 cs hslash hdot => exact .inr ⟨hslash, hdot⟩

/-- A path that has a parent is cut in front of its last part, behind the last slash. -/
theorem parent?_eq_some (h : parent? path = some directory) :
    ∃ front last, '/' ∉ last ∧ (front = [] ∨ front.getLast? = some '/' ∧ last ≠ [] ∧ last ≠ ['.']) ∧
      stepsOf path.toList = stepsOf (front ++ last) ∧
      path.toList.head? = (front ++ last).head? ∧
      stepsOf directory.toList = stepsOf front ∧ directory.toList.head? = front.head? := by
  unfold parent? at h
  have hcases := trimTail_cases path.toList.reverse
  have hsteps := stepsOf_trimTail path.toList.reverse
  have hlast := getLast?_trimTail path.toList.reverse
  generalize trimTail path.toList.reverse = cs at h hcases hsteps hlast
  have hparts := List.takeWhile_append_dropWhile (p := (· ≠ '/')) (l := cs)
  split at h
  next => cases h
  next => cases h
  next hne hslash =>
    obtain rfl := Option.some.inj h
    have hshape := hcases.resolve_left hslash
    refine ⟨(cs.dropWhile (· ≠ '/')).reverse, (cs.takeWhile (· ≠ '/')).reverse,
      ?_, ?_, ?_, ?_, ?_, ?_⟩
    · intro hmem
      simpa using List.mem_takeWhile_imp (List.mem_reverse.mp hmem)
    · cases hrest : cs.dropWhile (· ≠ '/') with
      | nil => exact .inl rfl
      | cons c rest =>
          have hc := List.head?_dropWhile_not (· ≠ '/') cs
          rw [hrest] at hc hparts
          obtain rfl : c = '/' := by simpa using hc
          refine .inr ⟨by simp, fun hnil => ?_, fun hdot => ?_⟩
          · rw [List.reverse_eq_nil_iff.mp hnil] at hparts
            exact hshape.1 rest hparts.symm
          · rw [List.reverse_eq_iff.mp hdot] at hparts
            exact hshape.2 rest hparts.symm
    · rw [← List.reverse_append, hparts, hsteps, List.reverse_reverse]
    · rw [← List.reverse_append, hparts, List.head?_reverse, hlast, List.getLast?_reverse]
    · rw [String.toList_ofList, stepsOf_trimTail]
    · rw [String.toList_ofList, List.head?_reverse, getLast?_trimTail, List.head?_reverse]

theorem steps_parent (h : parent? path = some directory) :
    ∃ last, steps path = steps directory ++ last ∧ (last = [] → steps directory = []) := by
  obtain ⟨front, last, hslash, hfront, hpath, -, hdirectory, -⟩ := parent?_eq_some h
  rw [steps_eq, steps_eq, hpath, hdirectory]
  obtain rfl | ⟨hend, hne, hdot⟩ := hfront
  · exact ⟨stepsOf last, rfl, fun _ => rfl⟩
  · obtain ⟨front, rfl⟩ := List.getLast?_eq_some_iff.mp hend
    refine ⟨stepsOf last, ?_, fun hnil => absurd hnil (stepsOf_ne_nil hslash hne hdot)⟩
    rw [List.append_assoc, stepsOf_slash_end]
    exact stepsOf_append_slash front last

theorem isAbsolute_parent (h : parent? path = some directory) :
    isAbsolute directory = isAbsolute path := by
  obtain ⟨front, last, hslash, hfront, -, hpath, -, hdirectory⟩ := parent?_eq_some h
  rw [isAbsolute, isAbsolute, hpath, hdirectory]
  obtain rfl | ⟨hend, -, -⟩ := hfront
  · cases last with
    | nil => rfl
    | cons c last =>
        have hc : c ≠ '/' := fun heq => hslash (heq ▸ List.mem_cons_self)
        simp [hc]
  · have hne : front ≠ [] := by
      rintro rfl
      cases hend
    rw [List.head?_append_of_ne_nil _ hne]

end NodeTrial.Path
