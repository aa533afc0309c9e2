import NodeTrial.Proofs.Dialogue.Determined
import NodeTrial.Proofs.Number.Quantity
import NodeTrial.Proofs.Polling
import NodeTrial.Proofs.Run.Cascade

namespace NodeTrial

abbrev Reply : Type := Except NetworkFailure Json

/-- A header with the number of its block: an object that has it as a member, or an array of it
alone. -/
inductive HasNumber : Json → String → Prop
  | object {members : List (String × Json)} {number : String}
      (member : Json.member? "number" members = some (.string number)) :
      HasNumber (.object members) number
  | array (number : String) : HasNumber (.array [.string number]) number

/-- An answer is a header whose number is a quantity. -/
def TellsHeight (r : Reply) (height : Nat) : Prop :=
  ∃ header number, r = .ok header ∧ HasNumber header number ∧ Quantity.Tells number height

def heightOf? : Reply → Option Nat
  | .ok header => heightOfHeader? header
  | .error _ => none

theorem Json.text?_eq_some_iff {j : Json} {text : String} :
    j.text? = some text ↔ j = .string text := by
  cases j <;> simp [Json.text?]

theorem heightOfHeader?_eq_some_iff {header : Json} {height : Nat} :
    heightOfHeader? header = some height ↔
      ∃ number, HasNumber header number ∧ Quantity.Tells number height := by
  constructor
  · intro h
    unfold heightOfHeader? at h
    split at h
    · obtain ⟨number, hnumber, hread⟩ := Option.bind_eq_some_iff.mp h
      obtain ⟨j, hmember, htext⟩ := Option.bind_eq_some_iff.mp hnumber
      obtain rfl := Json.text?_eq_some_iff.mp htext
      exact ⟨number, .object hmember, Quantity.read?_eq_some_iff.mp hread⟩
    · obtain ⟨number, htext, hread⟩ := Option.bind_eq_some_iff.mp h
      obtain rfl := Json.text?_eq_some_iff.mp htext
      exact ⟨number, .array number, Quantity.read?_eq_some_iff.mp hread⟩
    · cases h
  · rintro ⟨number, hnumber, htells⟩
    have hread := Quantity.read?_eq_some_iff.mpr htells
    cases hnumber with
    | object member =>
        rw [heightOfHeader?, member, Option.bind_some, Json.text?, Option.bind_some, hread]
    | array => rw [heightOfHeader?, Json.text?, Option.bind_some, hread]

theorem heightOf?_eq_some_iff {r : Reply} {height : Nat} :
    heightOf? r = some height ↔ TellsHeight r height := by
  cases r with
  | error e => simp [heightOf?, TellsHeight]
  | ok header => simp [heightOf?, TellsHeight, heightOfHeader?_eq_some_iff]

theorem heightOf?_eq_none_iff {r : Reply} :
    heightOf? r = none ↔ ∀ height, ¬ TellsHeight r height := by
  simp only [← heightOf?_eq_some_iff, Option.eq_none_iff_forall_ne_some, ne_eq]

/-- Behind the first `before` calls, the first of at most `attempts` answers that tells a height is
the one to a call. Calls are counted from one on. -/
structure FirstHeight (answers : Nat → Reply) (before attempts call height : Nat) : Prop where
  behind : before < call
  within : call ≤ before + attempts
  tells : TellsHeight (answers call) height
  first : ∀ k, before < k → k < call → ∀ h, ¬ TellsHeight (answers k) h

/-- None of the `attempts` answers behind the first `before` calls tells a height. -/
def NoHeight (answers : Nat → Reply) (before attempts : Nat) : Prop :=
  ∀ k, before < k → k ≤ before + attempts → ∀ h, ¬ TellsHeight (answers k) h

variable {answers : Nat → Reply} {before attempts call call' height height' : Nat}

theorem NoHeight.not_first (h : NoHeight answers before attempts) :
    ¬ FirstHeight answers before attempts call height := fun hfirst =>
  h call hfirst.behind hfirst.within height hfirst.tells

theorem FirstHeight.unique (h : FirstHeight answers before attempts call height)
    (h' : FirstHeight answers before attempts call' height') : call' = call ∧ height' = height := by
  obtain hlt | rfl | hlt := Nat.lt_trichotomy call call'
  · exact absurd h.tells (h'.first call h.behind hlt height)
  · have hread := heightOf?_eq_some_iff.mpr h.tells
    rw [heightOf?_eq_some_iff.mpr h'.tells] at hread
    exact ⟨rfl, Option.some.inj hread⟩
  · exact absurd h'.tells (h.first call' h'.behind hlt height')

/-- What the answers to calls make of the check for block production, and how many calls it takes. -/
structure JudgedBySamples (answers : Nat → Reply) (attempts calls : Nat) (f : Finding) : Prop where
  noFirst : NoHeight answers 0 attempts →
    calls = attempts ∧ f = .fail .checkFailed "Could not read block height (first sample)"
  noSecond : ∀ i first, FirstHeight answers 0 attempts i first → NoHeight answers i attempts →
    calls = i + attempts ∧ f = .fail .checkFailed "Could not read block height (second sample)"
  unchanged : ∀ i j height, FirstHeight answers 0 attempts i height →
    FirstHeight answers i attempts j height →
    calls = j ∧ f = .fail .checkFailed s!"No new blocks produced (height stuck at {height})"
  grown : ∀ i j first second, FirstHeight answers 0 attempts i first →
    FirstHeight answers i attempts j second → first < second →
    calls = j ∧
      f = .pass ("Block height " ++ (toString first ++ " -> " ++ toString second))
  shrunk : ∀ i j first second, FirstHeight answers 0 attempts i first →
    FirstHeight answers i attempts j second → second < first →
    calls = j ∧
      f = .pass ("Block height changed " ++ (toString first ++ " -> " ++ toString second) ++
        " (decreased)")

/-- The answer to a call. -/
def reply? : Exchange Request Request.Answer → Option Reply
  | ⟨.call .., answer⟩ => some answer
  | _ => none

def replies (t : Transcript) : List Reply := t.filterMap reply?

theorem replies_append (t u : Transcript) : replies (t ++ u) = replies t ++ replies u :=
  List.filterMap_append

theorem replies_quiet (t : Transcript) : replies (quiet t) = replies t := by
  rw [replies, quiet, List.filterMap_filter]
  refine List.filterMap_congr fun e _ => ?_
  obtain ⟨q, a⟩ := e
  cases q <;> rfl

theorem replies_of_pause {time : Nat} {t : Transcript} (h : (Trial.pause time).Leads t ()) :
    replies t = [] := by
  rw [Dialogue.leads_question_iff.mp h]
  rfl

theorem replies_of_blockHeight {url : String} {t : Transcript} {height? : Option Nat}
    (h : (Trial.blockHeight? url).Leads t height?) : (replies t).map heightOf? = [height?] := by
  obtain ⟨t₁, t₂, answer, rfl, hcall, hdone⟩ := Dialogue.leads_bind_iff.mp h
  obtain rfl := Dialogue.leads_question_iff.mp hcall
  cases answer with
  | ok header =>
      obtain ⟨rfl, rfl⟩ := Dialogue.leads_pure_iff.mp hdone
      rfl
  | error e =>
      obtain ⟨rfl, rfl⟩ := Dialogue.leads_pure_iff.mp hdone
      rfl

/-- Surroundings that give the answers of a sequence to calls, one after the other. -/
def answering (answers : Nat → Reply) : (q : Request) → Nat → q.Answer × Nat
  | .call .., calls => (answers (calls + 1), calls + 1)
  | q, calls => (Run.barren q, calls)

theorem replies_answering {t : Transcript} {m n : Nat}
    (h : Dialogue.Follows (Dialogue.functional (answering answers)) m t n) :
    ∃ calls, n = m + calls ∧ replies t = (List.range' (m + 1) calls).map answers := by
  induction t generalizing m with
  | nil =>
      obtain rfl := h
      exact ⟨0, rfl, rfl⟩
  | cons e t ih =>
      obtain ⟨k, hstep, hrest⟩ := h
      obtain ⟨calls, rfl, hreplies⟩ := ih hrest
      obtain ⟨q, a⟩ := e
      cases q with
      | call url method params =>
          obtain ⟨rfl, rfl⟩ := Prod.mk.inj hstep
          refine ⟨calls + 1, by omega, ?_⟩
          rw [List.range'_succ, List.map_cons, ← hreplies]
          rfl
      | _ =>
          obtain ⟨-, rfl⟩ := Prod.mk.inj hstep
          exact ⟨calls, rfl, hreplies⟩

namespace Phase.Runtime

theorem sample_leads {s : Setting} {t : Transcript} {height? : Option Nat}
    (h : (sample s).Leads t height?) :
    (height? = none ∧
      (replies t).map heightOf? = List.replicate s.config.readiness.rpcAttempts none) ∨
    ∃ k height, k < s.config.readiness.rpcAttempts ∧ height? = some height ∧
      (replies t).map heightOf? = List.replicate k none ++ [some height] := by
  obtain ⟨t₁, t₂, ⟨found, n⟩, rfl, hpoll, hdone⟩ := Dialogue.leads_bind_iff.mp h
  obtain ⟨rfl, rfl⟩ := Dialogue.leads_pure_iff.mp hdone
  obtain ⟨rs, hpolled, hend⟩ := pollFrom_leads hpoll
  have hreplies : (replies t₁).map heightOf? = rs :=
    hpolled.filterMap_eq (fun _ _ => replies_of_blockHeight) fun _ => replies_of_pause
  rw [List.append_nil, hreplies]
  obtain ⟨hnone, hrs, -⟩ | ⟨k, v, hk, hv, hrs, -⟩ := hend
  · exact .inl ⟨hnone, hrs⟩
  · exact .inr ⟨k, v, hk, hv, hrs⟩

theorem sample_of_replies {s : Setting} {t : Transcript} {height? : Option Nat} {calls : Nat}
    (h : (sample s).Leads t height?)
    (hreplies : replies t = (List.range' (before + 1) calls).map answers) :
    (height? = none ∧ calls = s.config.readiness.rpcAttempts ∧
      NoHeight answers before s.config.readiness.rpcAttempts) ∨
    ∃ height, height? = some height ∧
      FirstHeight answers before s.config.readiness.rpcAttempts (before + calls) height := by
  have hread : ∀ m, (∀ r ∈ (List.range' (before + 1) m).map answers, heightOf? r = none) →
      ∀ k, before < k → k ≤ before + m → ∀ h, ¬ TellsHeight (answers k) h := by
    intro m hm k hlow hhigh
    refine heightOf?_eq_none_iff.mp (hm _ (List.mem_map_of_mem ?_))
    exact List.mem_range'_1.mpr ⟨hlow, by omega⟩
  obtain ⟨hnone, hheights⟩ | ⟨k, height, hk, hsome, hheights⟩ := sample_leads h
  · obtain ⟨hlength, hempty⟩ := List.eq_replicate_iff.mp hheights
    rw [hreplies, List.length_map, List.length_map, List.length_range'] at hlength
    subst hlength
    refine .inl ⟨hnone, rfl, hread _ fun r hr => ?_⟩
    rw [hreplies] at hempty
    exact hempty _ (List.mem_map_of_mem hr)
  · have hcalls : calls = k + 1 := by
      have hlength := congrArg List.length hheights
      rwa [hreplies, List.length_map, List.length_map, List.length_range', List.length_append,
        List.length_replicate, List.length_singleton] at hlength
    subst hcalls
    rw [hreplies, List.range'_1_concat, List.map_append, List.map_append] at hheights
    obtain ⟨hempty, hlast⟩ := List.append_inj' hheights rfl
    refine .inr ⟨height, hsome, by omega, by omega, ?_, fun j hlow hhigh => ?_⟩
    · have htells := List.head_eq_of_cons_eq hlast
      rw [Nat.add_right_comm, Nat.add_assoc] at htells
      exact heightOf?_eq_some_iff.mp htells
    · refine hread k (fun r hr => ?_) j hlow (by omega)
      exact List.eq_of_mem_replicate (hempty ▸ List.mem_map_of_mem hr)

theorem productionFinding_unchanged (height : Nat) :
    productionFinding (.ofSamples (some height) (some height)) =
      .fail .checkFailed s!"No new blocks produced (height stuck at {height})" := by
  have hunchanged : Progress.ofSamples (some height) (some height) = .unchanged height :=
    if_pos rfl
  rw [hunchanged]
  rfl

theorem productionFinding_grown {first second : Nat} (h : first < second) :
    productionFinding (.ofSamples (some first) (some second)) =
      .pass ("Block height " ++ (toString first ++ " -> " ++ toString second)) := by
  have hchanged : Progress.ofSamples (some first) (some second) = .changed first second :=
    if_neg (Nat.ne_of_lt h)
  rw [hchanged]
  exact congrArg Finding.pass (if_neg (Nat.lt_asymm h))

theorem productionFinding_shrunk {first second : Nat} (h : second < first) :
    productionFinding (.ofSamples (some first) (some second)) =
      .pass ("Block height changed " ++ (toString first ++ " -> " ++ toString second) ++
        " (decreased)") := by
  have hchanged : Progress.ofSamples (some first) (some second) = .changed first second :=
    if_neg (Nat.ne_of_gt h)
  rw [hchanged]
  exact congrArg Finding.pass (if_pos h)

theorem judged_of_noHeight {attempts : Nat} (h : NoHeight answers 0 attempts) :
    JudgedBySamples answers attempts attempts (productionFinding (.ofSamples none none)) where
  noFirst _ := ⟨rfl, rfl⟩
  noSecond _ _ hfirst := absurd hfirst h.not_first
  unchanged _ _ _ hfirst := absurd hfirst h.not_first
  grown _ _ _ _ hfirst := absurd hfirst h.not_first
  shrunk _ _ _ _ hfirst := absurd hfirst h.not_first

theorem judged_of_firstHeight {attempts i first : Nat}
    (h : FirstHeight answers 0 attempts i first) (h' : NoHeight answers i attempts) :
    JudgedBySamples answers attempts (i + attempts)
      (productionFinding (.ofSamples (some first) none)) where
  noFirst hno := absurd h hno.not_first
  noSecond _ _ hfirst _ := by
    obtain ⟨rfl, -⟩ := h.unique hfirst
    exact ⟨rfl, rfl⟩
  unchanged _ _ _ hfirst hsecond := by
    obtain ⟨rfl, rfl⟩ := h.unique hfirst
    exact absurd hsecond h'.not_first
  grown _ _ _ _ hfirst hsecond := by
    obtain ⟨rfl, rfl⟩ := h.unique hfirst
    exact absurd hsecond h'.not_first
  shrunk _ _ _ _ hfirst hsecond := by
    obtain ⟨rfl, rfl⟩ := h.unique hfirst
    exact absurd hsecond h'.not_first

theorem judged_of_both {attempts i j first second : Nat}
    (h : FirstHeight answers 0 attempts i first) (h' : FirstHeight answers i attempts j second) :
    JudgedBySamples answers attempts j
      (productionFinding (.ofSamples (some first) (some second))) where
  noFirst hno := absurd h hno.not_first
  noSecond _ _ hfirst hno := by
    obtain ⟨rfl, rfl⟩ := h.unique hfirst
    exact absurd h' hno.not_first
  unchanged _ _ height hfirst hsecond := by
    obtain ⟨rfl, rfl⟩ := h.unique hfirst
    obtain ⟨rfl, rfl⟩ := h'.unique hsecond
    exact ⟨rfl, productionFinding_unchanged height⟩
  grown _ _ _ _ hfirst hsecond hlt := by
    obtain ⟨rfl, rfl⟩ := h.unique hfirst
    obtain ⟨rfl, rfl⟩ := h'.unique hsecond
    exact ⟨rfl, productionFinding_grown hlt⟩
  shrunk _ _ _ _ hfirst hsecond hlt := by
    obtain ⟨rfl, rfl⟩ := h.unique hfirst
    obtain ⟨rfl, rfl⟩ := h'.unique hsecond
    exact ⟨rfl, productionFinding_shrunk hlt⟩

theorem exists_calls_of_append {xs ys : List Reply} {calls : Nat}
    (h : xs ++ ys = (List.range' 1 calls).map answers) :
    ∃ i k, calls = i + k ∧ xs = (List.range' 1 i).map answers ∧
      ys = (List.range' (i + 1) k).map answers := by
  obtain ⟨us, vs, hrange, rfl, rfl⟩ := List.map_eq_append_iff.mp h.symm
  obtain ⟨i, hi, rfl, rfl⟩ := List.range'_eq_append_iff.mp hrange
  refine ⟨i, calls - i, by omega, rfl, ?_⟩
  rw [Nat.mul_one, Nat.add_comm 1 i]

theorem samples_of_replies {s : Setting} {t : Transcript} {p : Progress} {calls : Nat}
    (h : (samples s).Leads t p) (hreplies : replies t = (List.range' 1 calls).map answers) :
    JudgedBySamples answers s.config.readiness.rpcAttempts calls (productionFinding p) := by
  obtain ⟨t₁, t₂, first?, rfl, hfirst, hafter⟩ := Dialogue.leads_bind_iff.mp h
  rw [replies_append] at hreplies
  obtain ⟨i, k, rfl, hreplies₁, hreplies₂⟩ := exists_calls_of_append hreplies
  rw [← Nat.zero_add 1] at hreplies₁
  obtain ⟨rfl, rfl, hno⟩ | ⟨first, rfl, hheight⟩ := sample_of_replies hfirst hreplies₁
  · obtain ⟨rfl, rfl⟩ := Dialogue.leads_pure_iff.mp hafter
    have hk : k = 0 := by simpa [replies] using hreplies₂
    rw [hk, Nat.add_zero]
    exact judged_of_noHeight hno
  · rw [Nat.zero_add] at hheight
    have hpaused : ∃ u v second?, t₂ = u ++ v ∧ replies u = [] ∧ (sample s).Leads v second? ∧
        p = .ofSamples (some first) second? := by
      dsimp only at hafter
      split at hafter
      · obtain ⟨u, v', _, rfl, hpause, hrest⟩ := Dialogue.leads_bind_iff.mp hafter
        obtain ⟨v, w, second?, rfl, hsecond, hdone⟩ := Dialogue.leads_bind_iff.mp hrest
        obtain ⟨rfl, rfl⟩ := Dialogue.leads_pure_iff.mp hdone
        exact ⟨u, v, second?, by rw [List.append_nil], replies_of_pause hpause, hsecond, rfl⟩
      · obtain ⟨v, w, second?, rfl, hsecond, hdone⟩ := Dialogue.leads_bind_iff.mp hafter
        obtain ⟨rfl, rfl⟩ := Dialogue.leads_pure_iff.mp hdone
        exact ⟨[], v, second?, by rw [List.append_nil]; rfl, rfl, hsecond, rfl⟩
    obtain ⟨u, v, second?, rfl, hu, hsecond, rfl⟩ := hpaused
    rw [replies_append, hu, List.nil_append] at hreplies₂
    obtain ⟨rfl, rfl, hno⟩ | ⟨second, rfl, hheight'⟩ := sample_of_replies hsecond hreplies₂
    · exact judged_of_firstHeight hheight hno
    · exact judged_of_both hheight hheight'

/-- With a node that is ready, block production is decided by two samples: whatever a node answers,
the check ends, and it enters the finding that the answers make of it after as many calls. -/
theorem production_decided (s : Setting) (st : Standing) (answers : Nat → Reply)
    (hready : st.nodeReady = true) :
    (∃ t st' calls, (st.carryOut s productionName (production s st.nodeReady)).Leads t st' ∧
      replies t = (List.range' 1 calls).map answers) ∧
    ∀ t st' calls, (st.carryOut s productionName (production s st.nodeReady)).Leads t st' →
      replies t = (List.range' 1 calls).map answers →
      ∃ f, JudgedBySamples answers s.config.readiness.rpcAttempts calls f ∧
        st'.ledger.records = st.ledger.records ++
          [f.recordAt (st.ledger.records.length + 1) productionName] := by
  constructor
  · obtain ⟨t, st', calls, h, hfollows⟩ := Dialogue.exists_follows_functional (answering answers)
      (st.carryOut s productionName (production s st.nodeReady)) 0
    obtain ⟨calls, -, hreplies⟩ := replies_answering hfollows
    exact ⟨t, st', calls, h, hreplies⟩
  · intro t st' calls h hreplies
    obtain ⟨f, t', hcheck, hquiet, rfl⟩ := Standing.carryOut_leads h
    rw [← replies_quiet, hquiet, replies_quiet] at hreplies
    rw [production, if_pos hready] at hcheck
    obtain ⟨u, v, p, rfl, hsamples, hdone⟩ := Dialogue.leads_bind_iff.mp hcheck
    obtain ⟨rfl, rfl⟩ := Dialogue.leads_pure_iff.mp hdone
    rw [List.append_nil] at hreplies
    exact ⟨productionFinding p, samples_of_replies hsamples hreplies, rfl⟩

/-- A node that fails first, then tells a height, then nonsense, and at last a lower height. -/
def faltering : Nat → Reply
  | 2 => .ok (.object [("number", .string "0x1f")])
  | 3 => .ok (.object [("number", .string "0x")])
  | 4 => .ok (.array [.string " 1E"])
  | _ => .error (.unansweredCall "http://127.0.0.1:9944" headerMethod)

theorem production_decided_faltering :
    ∃ t st', ((⟨.empty, true⟩ : Standing).carryOut Run.sharedAddress productionName
        (production Run.sharedAddress true)).Leads t st' ∧
      replies t = (List.range' 1 4).map faltering ∧
      st'.ledger.records = [⟨1, "Block production", .pass, none,
        some "Block height changed 31 -> 30 (decreased)"⟩] := by
  obtain ⟨⟨t, st', calls, h, hreplies⟩, hjudged⟩ :=
    production_decided Run.sharedAddress ⟨.empty, true⟩ faltering rfl
  obtain ⟨f, hf, hrecords⟩ := hjudged t st' calls h hreplies
  have hfirst : FirstHeight faltering 0 Run.sharedAddress.config.readiness.rpcAttempts 2 31 := by
    refine ⟨by decide, by decide, heightOf?_eq_some_iff.mp (by decide), fun k hlow hhigh => ?_⟩
    obtain rfl : k = 1 := by omega
    exact heightOf?_eq_none_iff.mp rfl
  have hsecond : FirstHeight faltering 2 Run.sharedAddress.config.readiness.rpcAttempts 4 30 := by
    refine ⟨by decide, by decide, heightOf?_eq_some_iff.mp (by decide), fun k hlow hhigh => ?_⟩
    obtain rfl : k = 3 := by omega
    exact heightOf?_eq_none_iff.mp (by decide)
  obtain ⟨rfl, rfl⟩ := hf.shrunk 2 4 31 30 hfirst hsecond (by decide)
  refine ⟨t, st', h, hreplies, hrecords.trans ?_⟩
  decide

end Phase.Runtime

end NodeTrial
