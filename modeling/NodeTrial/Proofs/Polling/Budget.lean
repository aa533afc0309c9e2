import NodeTrial.Polling
import Mathlib.Data.List.Range

/-!
What a poll costs, whatever is polled. Something that is polled has a state, which changes with each
call and while time passes, so that its replies may come in any sequence. The poll calls it until a
reply holds a value or the budget is spent, and it sleeps only between two calls.
-/

namespace NodeTrial

/-- Something that is polled: what it replies to a call and what the call leaves of it, and what
becomes of it while some time passes. -/
structure Pollable (σ ρ : Type) where
  call : σ → ρ × σ
  pass : (time : Nat) → σ → σ

/-- What a poll does: it gets the reply to a call, or it sleeps for some time. -/
inductive PollAct (ρ : Type)
  | called (reply : ρ)
  | slept (time : Nat)
  deriving DecidableEq, Repr

namespace PollAct

variable {ρ : Type}

def reply? : PollAct ρ → Option ρ
  | called r => some r
  | slept _ => none

def isSleep : PollAct ρ → Bool
  | called _ => false
  | slept _ => true

def timeSlept : List (PollAct ρ) → Nat
  | [] => 0
  | called _ :: acts => timeSlept acts
  | slept time :: acts => time + timeSlept acts

theorem timeSlept_append (acts acts' : List (PollAct ρ)) :
    timeSlept (acts ++ acts') = timeSlept acts + timeSlept acts' := by
  induction acts with
  | nil => simp [timeSlept]
  | cons act acts ih =>
      cases act with
      | called r => exact ih
      | slept time => simp [timeSlept, ih, Nat.add_assoc]

end PollAct

/-- The state of what is polled, and what was done so far. -/
structure Poll (σ ρ : Type) where
  state : σ
  acts : List (PollAct ρ)

namespace Pollable

variable {σ ρ α : Type} (p : Pollable σ ρ) (b : PollBudget)

def afterCall (w : Poll σ ρ) : Poll σ ρ :=
  ⟨(p.call w.state).2, w.acts ++ [.called (p.call w.state).1]⟩

def afterSleep (time : Nat) (w : Poll σ ρ) : Poll σ ρ :=
  ⟨p.pass time w.state, w.acts ++ [.slept time]⟩

def probe : StateM (Poll σ ρ) ρ := fun w => ((p.call w.state).1, p.afterCall w)

def sleep (time : Nat) : StateM (Poll σ ρ) Unit := fun w => ((), p.afterSleep time w)

/-- A probe of which each reply is read as a value or as empty. -/
def reading (value : ρ → Option α) : StateM (Poll σ ρ) (Option α) := do
  let r ← p.probe
  pure (value r)

/-- The state in which the call of a number, from zero on, finds what is polled, if it comes to that
call. -/
def before (s : σ) : Nat → σ
  | 0 => s
  | k + 1 =>
    let left := (p.call (before s k)).2
    if b.interval = 0 then left else p.pass b.interval left

def reply (s : σ) (k : Nat) : ρ := (p.call (p.before b s k)).1

end Pollable

namespace PollBudget

variable {ρ : Type} (b : PollBudget)

def pause : List (PollAct ρ) := if b.interval = 0 then [] else [.slept b.interval]

/-- The calls with these replies, and what is done between them. -/
def course : (replies : List ρ) → List (PollAct ρ)
  | [] => []
  | [r] => [.called r]
  | r :: next :: rest => .called r :: (b.pause ++ course (next :: rest))

end PollBudget

/-- From the call of number `k` on, with `left` of them to go, some calls are made, up to the first
that yields a value. -/
inductive Searched {α : Type} (yields : Nat → Option α) : (left k made : Nat) → Option α → Prop
  | spent {k : Nat} : Searched yields 0 k 0 none
  | found {left k : Nat} {v : α} (value : yields k = some v) :
      Searched yields (left + 1) k 1 (some v)
  | empty {left k made : Nat} {found : Option α} (value : yields k = none)
      (rest : Searched yields left (k + 1) made found) :
      Searched yields (left + 1) k (made + 1) found

section

variable {σ ρ α : Type} {p : Pollable σ ρ} {b : PollBudget} {s : σ} {value : ρ → Option α}

@[simp]
theorem Pollable.run_reading (w : Poll σ ρ) :
    (p.reading value).run w = pure (value (p.call w.state).1, p.afterCall w) :=
  rfl

@[simp]
theorem Pollable.run_sleep (time : Nat) (w : Poll σ ρ) :
    (p.sleep time).run w = pure ((), p.afterSleep time w) :=
  rfl

theorem pollFrom_found {left attempt : Nat} {w : Poll σ ρ} {v : α}
    (hvalue : value (p.call w.state).1 = some v) :
    (pollFrom b p.sleep (p.reading value) (left + 1) attempt).run w =
      pure ((some v, attempt), p.afterCall w) := by
  simp [pollFrom, hvalue]

theorem pollFrom_empty {left attempt : Nat} {w : Poll σ ρ}
    (hvalue : value (p.call w.state).1 = none) :
    (pollFrom b p.sleep (p.reading value) (left + 1) attempt).run w =
      (pollFrom b p.sleep (p.reading value) left (attempt + 1)).run
        (if left ≠ 0 ∧ b.interval ≠ 0 then p.afterSleep b.interval (p.afterCall w)
        else p.afterCall w) := by
  by_cases hpause : left ≠ 0 ∧ b.interval ≠ 0
  · simp [pollFrom, hvalue, hpause]
  · rw [if_neg hpause]
    simp [pollFrom, hvalue, if_neg hpause]

theorem Searched.made_pos {yields : Nat → Option α} {left k made : Nat} {found : Option α}
    (h : Searched yields (left + 1) k made found) : 0 < made := by
  cases h with
  | found => exact Nat.one_pos
  | empty => exact Nat.succ_pos _

/-- How a search ends: all calls that were to go are empty, or the last of those that were made is
the first to yield a value. -/
theorem Searched.cases {yields : Nat → Option α} {left k made : Nat} {found : Option α}
    (h : Searched yields left k made found) :
    (found = none ∧ made = left ∧ ∀ j < left, yields (k + j) = none) ∨
      ∃ v j, found = some v ∧ made = j + 1 ∧ j < left ∧ yields (k + j) = some v ∧
        ∀ i < j, yields (k + i) = none := by
  induction h with
  | spent =>
      left
      simp
  | @found left k v value =>
      right
      exact ⟨v, 0, rfl, rfl, Nat.succ_pos left, value, by simp⟩
  | @empty left k made found value rest ih =>
      have hnext {n : Nat} (h : ∀ j < n, yields (k + 1 + j) = none) :
          ∀ j < n + 1, yields (k + j) = none := by
        intro j hj
        cases j with
        | zero => exact value
        | succ j =>
            rw [Nat.add_comm j 1, ← Nat.add_assoc]
            exact h j (Nat.lt_of_succ_lt_succ hj)
      obtain ⟨hnone, hmade, hempty⟩ | ⟨v, j, hfound, hmade, hj, hv, hempty⟩ := ih
      · left
        exact ⟨hnone, congrArg (· + 1) hmade, hnext hempty⟩
      · right
        refine ⟨v, j + 1, hfound, congrArg (· + 1) hmade, Nat.succ_lt_succ hj, ?_, hnext hempty⟩
        rwa [Nat.add_comm j 1, ← Nat.add_assoc]

section

variable {yields : Nat → Option α} {limit made : Nat} {found : Option α}

theorem Searched.cases_zero (h : Searched yields limit 0 made found) :
    (found = none ∧ made = limit ∧ ∀ j < limit, yields j = none) ∨
      ∃ v j, found = some v ∧ made = j + 1 ∧ j < limit ∧ yields j = some v ∧
        ∀ i < j, yields i = none := by
  have hends := h.cases
  simpa only [Nat.zero_add] using hends

theorem Searched.made_le (h : Searched yields limit 0 made found) : made ≤ limit := by
  obtain ⟨-, rfl, -⟩ | ⟨v, j, -, rfl, hj, -⟩ := h.cases_zero
  · exact Nat.le_refl _
  · exact hj

theorem Searched.empty_before (h : Searched yields limit 0 made found) {k : Nat}
    (hk : k + 1 < made) : yields k = none := by
  obtain ⟨-, hmade, hnone⟩ | ⟨v, j, -, hmade, -, -, hempty⟩ := h.cases_zero
  · apply hnone
    omega
  · apply hempty
    omega

theorem Searched.found_iff (h : Searched yields limit 0 made found) {v : α} {n : Nat} :
    found = some v ∧ made = n ↔
      ∃ k < limit, n = k + 1 ∧ yields k = some v ∧ ∀ j < k, yields j = none := by
  constructor
  · rintro ⟨rfl, rfl⟩
    obtain ⟨hnone, -⟩ | ⟨v', j, hfound, hmade, hj, hvalue, hempty⟩ := h.cases_zero
    · cases hnone
    · rw [← Option.some.inj hfound] at hvalue
      exact ⟨j, hj, hmade, hvalue, hempty⟩
  · rintro ⟨k, hk, rfl, hvalue, hempty⟩
    obtain ⟨-, -, hnone⟩ | ⟨v', j, rfl, rfl, -, hvalue', hempty'⟩ := h.cases_zero
    · rw [hnone k hk] at hvalue
      cases hvalue
    · obtain hlt | rfl | hlt := Nat.lt_trichotomy j k
      · rw [hempty j hlt] at hvalue'
        cases hvalue'
      · exact ⟨hvalue'.symm.trans hvalue, rfl⟩
      · rw [hempty' k hlt] at hvalue
        cases hvalue

theorem Searched.none_iff (h : Searched yields limit 0 made found) :
    found = none ∧ made = limit ↔ ∀ k < limit, yields k = none := by
  constructor
  · rintro ⟨rfl, -⟩
    obtain ⟨-, -, hnone⟩ | ⟨v, j, hfound, -⟩ := h.cases_zero
    · exact hnone
    · cases hfound
  · intro hnone
    obtain ⟨hfound, hmade, -⟩ | ⟨v, j, -, -, hj, hvalue, -⟩ := h.cases_zero
    · exact ⟨hfound, hmade⟩
    · rw [hnone j hj] at hvalue
      cases hvalue

end

theorem PollBudget.course_cons (r : ρ) {rs : List ρ} (h : rs ≠ []) :
    b.course (r :: rs) = .called r :: (b.pause ++ b.course rs) := by
  cases rs with
  | nil => exact absurd rfl h
  | cons next rest => rfl

theorem Pollable.before_succ (k : Nat) (acts : List (PollAct ρ)) :
    (if b.interval ≠ 0 then p.afterSleep b.interval (p.afterCall ⟨p.before b s k, acts⟩)
      else p.afterCall ⟨p.before b s k, acts⟩) =
      ⟨p.before b s (k + 1), acts ++ .called (p.reply b s k) :: b.pause⟩ := by
  by_cases hinterval : b.interval = 0
  · simp [hinterval, afterCall, before, reply, PollBudget.pause]
  · simp [hinterval, afterCall, afterSleep, before, reply, PollBudget.pause]

/-- A poll makes calls until one yields a value, and what it does is their course. -/
theorem pollFrom_run (p : Pollable σ ρ) (b : PollBudget) (value : ρ → Option α) (s : σ)
    (left k : Nat) (acts : List (PollAct ρ)) :
    ∃ made found w, Searched (fun j => value (p.reply b s j)) left k made found ∧
      (pollFrom b p.sleep (p.reading value) left (k + 1)).run ⟨p.before b s k, acts⟩ =
        pure ((found, found.elim b.maxAttempts fun _ => k + made), w) ∧
      w.acts = acts ++ b.course ((List.range' k made).map (p.reply b s)) := by
  induction left generalizing k acts with
  | zero =>
      refine ⟨0, none, ⟨p.before b s k, acts⟩, .spent, rfl, ?_⟩
      simp [PollBudget.course]
  | succ left ih =>
      cases hvalue : value (p.reply b s k) with
      | some v => exact ⟨1, some v, _, .found hvalue, pollFrom_found hvalue, rfl⟩
      | none =>
          cases left with
          | zero => exact ⟨1, none, _, .empty hvalue .spent, pollFrom_empty hvalue, rfl⟩
          | succ left =>
              obtain ⟨made, found, w, hsearched, hrun, hacts⟩ :=
                ih (k + 1) (acts ++ .called (p.reply b s k) :: b.pause)
              refine ⟨made + 1, found, w, .empty hvalue hsearched, ?_, ?_⟩
              · rw [pollFrom_empty hvalue]
                simp only [ne_eq, Nat.succ_ne_zero, not_false_eq_true, true_and]
                rw [Pollable.before_succ, hrun, Nat.add_right_comm, Nat.add_assoc]
              · have hmore : (List.range' (k + 1) made).map (p.reply b s) ≠ [] := by
                  simp [Nat.pos_iff_ne_zero.mp hsearched.made_pos]
                rw [hacts, List.range'_succ, List.map_cons, PollBudget.course_cons _ hmore]
                simp

namespace PollBudget

theorem replies_pause : (b.pause : List (PollAct ρ)).filterMap PollAct.reply? = [] := by
  unfold pause
  split <;> rfl

theorem sleeps_pause :
    (b.pause : List (PollAct ρ)).countP PollAct.isSleep = if b.interval = 0 then 0 else 1 := by
  unfold pause
  split <;> rfl

theorem timeSlept_pause : PollAct.timeSlept (b.pause : List (PollAct ρ)) = b.interval := by
  unfold pause
  split
  · rename_i hinterval
    exact hinterval.symm
  · simp [PollAct.timeSlept]

theorem replies_course (rs : List ρ) : (b.course rs).filterMap PollAct.reply? = rs := by
  induction rs with
  | nil => rfl
  | cons r rs ih =>
      cases rs with
      | nil => rfl
      | cons next rest => simp [course, PollAct.reply?, replies_pause, ih]

theorem sleeps_course (rs : List ρ) :
    (b.course rs).countP PollAct.isSleep = if b.interval = 0 then 0 else rs.length - 1 := by
  induction rs with
  | nil => simp [course]
  | cons r rs ih =>
      cases rs with
      | nil => simp [course, PollAct.isSleep]
      | cons next rest =>
          simp only [course, List.countP_cons, List.countP_append, sleeps_pause, ih]
          split <;> simp [PollAct.isSleep, Nat.add_comm]

theorem timeSlept_course (rs : List ρ) :
    PollAct.timeSlept (b.course rs) = b.interval * (rs.length - 1) := by
  induction rs with
  | nil => simp [course, PollAct.timeSlept]
  | cons r rs ih =>
      cases rs with
      | nil => simp [course, PollAct.timeSlept]
      | cons next rest =>
          simp [course, PollAct.timeSlept, PollAct.timeSlept_append, timeSlept_pause, ih,
            Nat.mul_succ, Nat.add_comm]

theorem head?_course (r : ρ) (rs : List ρ) : (b.course (r :: rs)).head? = some (.called r) := by
  cases rs <;> rfl

theorem course_cut {rs : List ρ} {before after : List (PollAct ρ)} {time : Nat}
    (h : b.course rs = before ++ .slept time :: after) :
    time = b.interval ∧ ∃ k r r', rs[k]? = some r ∧ rs[k + 1]? = some r' ∧
      before.getLast? = some (.called r) ∧ after.head? = some (.called r') := by
  induction rs generalizing before with
  | nil => simp [course] at h
  | cons r rs ih =>
      cases rs with
      | nil => cases before <;> simp [course] at h
      | cons next rest =>
          cases before with
          | nil => simp [course] at h
          | cons first before =>
              rw [course, List.cons_append] at h
              obtain ⟨rfl, hrest⟩ := List.cons.inj h
              -- A sleep that is not the one right behind the first call is one of the later course.
              have hlater (front before' : List (PollAct ρ)) (hbefore : before = front ++ before')
                  (h' : b.course (next :: rest) = before' ++ .slept time :: after) :
                  time = b.interval ∧ ∃ k r₁ r₂, (r :: next :: rest)[k]? = some r₁ ∧
                    (r :: next :: rest)[k + 1]? = some r₂ ∧
                    (.called r :: before).getLast? = some (.called r₁) ∧
                    after.head? = some (.called r₂) := by
                obtain ⟨htime, k, r₁, r₂, hr₁, hr₂, hlast, hhead⟩ := ih h'
                refine ⟨htime, k + 1, r₁, r₂, hr₁, hr₂, ?_, hhead⟩
                simp [hbefore, List.getLast?_cons, List.getLast?_append, hlast]
              unfold pause at hrest
              split at hrest
              · exact hlater [] before rfl hrest
              · cases before with
                | nil =>
                    obtain ⟨hslept, rfl⟩ := List.cons.inj hrest
                    exact ⟨(PollAct.slept.inj hslept).symm, 0, r, next, rfl, rfl, rfl,
                      head?_course next rest⟩
                | cons second before =>
                    obtain ⟨rfl, hafter⟩ := List.cons.inj hrest
                    exact hlater [.slept b.interval] before rfl hafter

end PollBudget

/-- What a poll found, how many attempts it made and what it did, given the reply to each call, if
it comes to that call, and the value that a reply yields. -/
structure PollLaw (b : PollBudget) (value : ρ → Option α) (reply : Nat → ρ) (found : Option α)
    (attempts : Nat) (acts : List (PollAct ρ)) : Prop where
  /-- As many calls are made as there are attempts. -/
  calls : acts.filterMap PollAct.reply? = (List.range attempts).map reply
  /-- A value is found in an attempt exactly if its call is the first to yield one. -/
  found_iff : ∀ v n, found = some v ∧ attempts = n ↔
    ∃ k < b.maxAttempts, n = k + 1 ∧ value (reply k) = some v ∧ ∀ j < k, value (reply j) = none
  none_iff : found = none ∧ attempts = b.maxAttempts ↔
    ∀ k < b.maxAttempts, value (reply k) = none
  /-- No call is made after one that yields a value. -/
  empty_before : ∀ k, k + 1 < attempts → value (reply k) = none
  sleeps : acts.countP PollAct.isSleep = if b.interval = 0 then 0 else attempts - 1
  /-- A sleep takes the interval, and it lies between two calls. -/
  between : ∀ before time after, acts = before ++ .slept time :: after → time = b.interval ∧
    ∃ k, k + 1 < attempts ∧ before.getLast? = some (.called (reply k)) ∧
      after.head? = some (.called (reply (k + 1)))
  slept_le : PollAct.timeSlept acts ≤ b.interval * (b.maxAttempts - 1)
  /-- This bound is the budget that is told, if its whole seconds fit into 64 bits, whatever the unit
  of time is. -/
  budget : ∀ perSecond, b.interval * (b.maxAttempts - 1) / perSecond < Nat.pow 2 64 →
    b.sleepBudgetIn perSecond = some (b.interval * (b.maxAttempts - 1))

theorem pollLaw_of_searched {reply : Nat → ρ} {made : Nat} {found : Option α}
    {acts : List (PollAct ρ)}
    (hsearched : Searched (fun j => value (reply j)) b.maxAttempts 0 made found)
    (hacts : acts = b.course ((List.range made).map reply)) :
    PollLaw b value reply found made acts := by
  constructor
  case calls => rw [hacts, PollBudget.replies_course]
  case found_iff => exact fun _ _ => hsearched.found_iff
  case none_iff => exact hsearched.none_iff
  case empty_before => exact fun _ hk => hsearched.empty_before hk
  case sleeps => simp [hacts, PollBudget.sleeps_course]
  case between =>
    intro before time after hcut
    rw [hacts] at hcut
    obtain ⟨htime, k, r, r', hr, hr', hlast, hhead⟩ := PollBudget.course_cut hcut
    have hreply {i : Nat} {r : ρ} (h : ((List.range made).map reply)[i]? = some r) :
        i < made ∧ r = reply i := by
      obtain ⟨hi, rfl⟩ := List.getElem?_eq_some_iff.mp h
      simpa using hi
    rw [(hreply hr).2] at hlast
    rw [(hreply hr').2] at hhead
    exact ⟨htime, k, (hreply hr').1, hlast, hhead⟩
  case slept_le =>
    rw [hacts, PollBudget.timeSlept_course, List.length_map, List.length_range]
    apply Nat.mul_le_mul_left
    exact Nat.sub_le_sub_right hsearched.made_le 1
  case budget =>
    intro perSecond hfits
    exact if_pos hfits

theorem pollFrom_law (p : Pollable σ ρ) (b : PollBudget) (value : ρ → Option α) (s : σ) :
    let run := (pollFrom b p.sleep (p.reading value) b.maxAttempts 1).run ⟨s, []⟩
    PollLaw b value (p.reply b s) run.1.1 run.1.2 run.2.acts := by
  intro run
  obtain ⟨made, found, w, hsearched, hrun, hacts⟩ :=
    pollFrom_run p b value s b.maxAttempts 0 []
  have hattempts : (found.elim b.maxAttempts fun _ => 0 + made) = made := by
    obtain ⟨rfl, rfl, -⟩ | ⟨v, j, rfl, -⟩ := hsearched.cases_zero
    · rfl
    · exact Nat.zero_add made
  have hends : run = ((found, made), w) := by
    rw [hattempts] at hrun
    exact hrun
  rw [hends]
  apply pollLaw_of_searched hsearched
  rw [hacts, List.range_eq_range', List.nil_append]

end

namespace PollEnd

/-- A condition that holds yields a value. An error yields none, nor does a condition that does not
hold. -/
def value? {ε : Type} : Except ε Bool → Option Unit
  | .ok true => some ()
  | _ => none

/-- The end of a poll for a condition that found it to hold, or did not, after some attempts. -/
def ofSearch : Option Unit × Nat → PollEnd
  | (some (), n) => ready n
  | (none, n) => timedOut n

def found : PollEnd → Option Unit
  | ready _ => some ()
  | timedOut _ => none

theorem found_ofSearch (r : Option Unit × Nat) : (ofSearch r).found = r.1 := by
  obtain ⟨_ | _, n⟩ := r <;> rfl

theorem attempts_ofSearch (r : Option Unit × Nat) : (ofSearch r).attempts = r.2 := by
  obtain ⟨_ | _, n⟩ := r <;> rfl

end PollEnd

theorem pollUntil_eq {σ ε : Type} (p : Pollable σ (Except ε Bool)) (b : PollBudget) :
    pollUntil b p.sleep p.probe =
      PollEnd.ofSearch <$> pollFrom b p.sleep (p.reading PollEnd.value?) b.maxAttempts 1 := by
  have hprobe : (p.probe >>= fun r =>
      match r with
      | .ok true => pure (some ())
      | _ => pure none) = p.reading PollEnd.value? := by
    unfold Pollable.reading
    congr 1
    funext r
    cases r with
    | error e => rfl
    | ok holds => cases holds <;> rfl
  rw [map_eq_pure_bind, ← hprobe]
  unfold pollUntil
  congr 1
  funext ⟨found, n⟩
  cases found <;> rfl

/-- The law of polls, for every budget and whatever is polled. -/
theorem poll_law (b : PollBudget) :
    (∀ (σ α : Type) (p : Pollable σ (Option α)) (s : σ),
      let run := (pollValue b p.sleep p.probe).run ⟨s, []⟩
      PollLaw b id (p.reply b s) run.1.1 run.1.2 run.2.acts) ∧
    ∀ (σ ε : Type) (p : Pollable σ (Except ε Bool)) (s : σ),
      let run := (pollUntil b p.sleep p.probe).run ⟨s, []⟩
      PollLaw b PollEnd.value? (p.reply b s) run.1.found run.1.attempts run.2.acts := by
  constructor
  · intro σ α p s
    exact pollFrom_law p b id s
  · intro σ ε p s run
    let search := (pollFrom b p.sleep (p.reading PollEnd.value?) b.maxAttempts 1).run ⟨s, []⟩
    have hrun : run = (PollEnd.ofSearch search.1, search.2) := by
      change (pollUntil b p.sleep p.probe).run ⟨s, []⟩ = _
      rw [pollUntil_eq]
      rfl
    rw [hrun]
    dsimp only
    rw [PollEnd.found_ofSearch, PollEnd.attempts_ofSearch]
    exact pollFrom_law p b PollEnd.value? s

/-- A probe that yields a value in the last of three attempts. -/
example :
    let p : Pollable Nat (Option Nat) := ⟨fun n => (if n = 2 then some n else none, n + 1), fun _ => id⟩
    let run := (pollValue ⟨5, 3⟩ p.sleep p.probe).run ⟨0, []⟩
    run.1 = (some 2, 3) ∧
      run.2.acts = [.called none, .slept 5, .called none, .slept 5, .called (some 2)] :=
  ⟨rfl, rfl⟩

end NodeTrial
