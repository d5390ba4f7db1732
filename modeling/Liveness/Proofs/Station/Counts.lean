import Liveness.Proofs.Station.Upkeep

/-!
# What connectors count

Connectors count the attempts that they begin and those that they are over with
(`Floor.Counts`).  The start of an attempt counts once, and so does its end, or that it is
given up in a shutdown; nothing else that services do counts.
-/

namespace Liveness

/-- The end of an attempt of a timer. -/
def Job.answers (k : TimerId) : Job → Bool
  | .answer k' .. => k' == k
  | _ => false

/-- The start of an attempt of a timer. -/
def Job.dials (k : TimerId) : Job → Bool
  | .dial k' .. => k' == k
  | _ => false

theorem Job.answers_of_not {k : TimerId} {job : Job}
    (h : ∀ k c number attempt, job ≠ .answer k c number attempt) : job.answers k = false := by
  cases job with
  | answer k' c number attempt => exact absurd rfl (h k' c number attempt)
  | sweep | report | traffic | silence | check | dial | probe | note => rfl

/-- Work of a timer that has begun is a check or the end of an attempt. -/
theorem Job.check_or_answer {k : TimerId} {job : Job} (hbegun : ∀ k c number, job ≠ .dial k c number)
    (hown : job.timer? = some k) :
    (∃ c, job = .check k c) ∨ ∃ c number attempt, job = .answer k c number attempt := by
  cases job with
  | check k' c =>
    obtain rfl := Option.some.inj hown
    exact .inl ⟨c, rfl⟩
  | answer k' c number attempt =>
    obtain rfl := Option.some.inj hown
    exact .inr ⟨c, number, attempt, rfl⟩
  | dial k' c number => exact absurd rfl (hbegun k' c number)
  | sweep | report | traffic | silence | probe | note => cases hown

namespace Floor

/-- What connectors count, taken together. -/
def total (count : Connector → Nat) (f : Floor) : Nat := f.connectors.toList.foldr (fun c n => count c + n) 0

/-- How many attempts connectors have ever begun. -/
def calls (f : Floor) : Nat := f.total Connector.calls

/-- How many attempts connectors are over with. -/
def finished (f : Floor) : Nat := f.total Connector.finished

/-- A floor whose connectors have begun some more attempts and are over with some more. -/
structure Counts (begun ended : Nat) (f f' : Floor) : Prop where
  calls : f'.calls = f.calls + begun
  finished : f'.finished = f.finished + ended

variable {f f₁ f₂ f₃ : Floor} {c : ConnectorId} {now : Int}

theorem Counts.trans {b b' n n' : Nat} (h : Counts b n f₁ f₂) (h' : Counts b' n' f₂ f₃) :
    Counts (b + b') (n + n') f₁ f₃ where
  calls := by rw [h'.calls, h.calls, Nat.add_assoc]
  finished := by rw [h'.finished, h.finished, Nat.add_assoc]

theorem total_of_connectors {f' : Floor} (h : f'.connectors = f.connectors) (count : Connector → Nat) :
    f'.total count = f.total count := by
  rw [total, total, h]

theorem counts_of_connectors {f' : Floor} (h : f'.connectors = f.connectors) : Counts 0 0 f f' where
  calls := total_of_connectors h Connector.calls
  finished := total_of_connectors h Connector.finished

theorem Counts.of_connectors {b n : Nat} {f' f'' : Floor} (h : Counts b n f f') (hsame : f''.connectors = f'.connectors) :
    Counts b n f f'' :=
  h.trans (counts_of_connectors hsame)

/-- One connector changes, and counts more. -/
theorem total_set {x y : Connector} {n : Nat} {f' : Floor} (hx : f.connectors[c]? = some x)
    (hf' : f'.connectors = f.connectors.setIfInBounds c y) {count : Connector → Nat} (hy : count y = count x + n) :
    f'.total count = f.total count + n := by
  have hx' : f.connectors.toList[c]? = some x := by rwa [Array.getElem?_toList]
  rw [total, total, hf', Array.toList_setIfInBounds]
  clear hx hf'
  generalize f.connectors.toList = l at hx'
  induction l generalizing c with
  | nil => cases hx'
  | cons z l ih =>
    cases c with
    | zero =>
      obtain rfl := Option.some.inj hx'
      rw [List.set_cons_zero, List.foldr_cons, List.foldr_cons, hy]
      omega
    | succ c =>
      rw [List.set_cons_succ, List.foldr_cons, List.foldr_cons, ih (List.getElem?_cons_succ.symm.trans hx')]
      omega

theorem counts_set {x y : Connector} {b n : Nat} {f' : Floor} (hx : f.connectors[c]? = some x)
    (hf' : f'.connectors = f.connectors.setIfInBounds c y) (hcalls : y.calls = x.calls + b)
    (hfinished : y.finished = x.finished + n) : Counts b n f f' where
  calls := total_set hx hf' hcalls
  finished := total_set hx hf' hfinished

theorem counts_modify {g : Connector → Connector} {b n : Nat} (hc : c < f.connectors.size)
    (hcalls : ∀ x, (g x).calls = x.calls + b) (hfinished : ∀ x, (g x).finished = x.finished + n) :
    Counts b n f { f with connectors := f.connectors.modify c g } := by
  have hx : f.connectors[c]? = some f.connectors[c] := Array.getElem?_eq_getElem hc
  exact counts_set hx (modify_eq_setIfInBounds hx g) (hcalls f.connectors[c]) (hfinished f.connectors[c])

theorem counts_asked (hc : c < f.connectors.size) : Counts 0 0 f (f.asked c) :=
  counts_modify hc Connector.calls_ask Connector.finished_ask

theorem startAttempt_eq {x : Connector} (hx : f.connectors[c]? = some x) (now : Int) :
    f.startAttempt now c = ((x.start now).1, (x.start now).2.1,
      { f with connectors := f.connectors.setIfInBounds c (x.start now).2.2 }) := by
  simp only [startAttempt, hx]

theorem conclude_eq {x : Connector} (hx : f.connectors[c]? = some x) (now : Int) (attempt : Attempt) :
    (f.conclude now c attempt).1 = (x.finish attempt).1 ∧
      (f.conclude now c attempt).2.connectors = f.connectors.setIfInBounds c (x.finish attempt).2 := by
  simp only [conclude, hx]
  split
  · exact ⟨rfl, rfl⟩
  · exact ⟨rfl, rfl⟩

theorem counts_startAttempt (hc : c < f.connectors.size) (now : Int) : Counts 1 0 f (f.startAttempt now c).2.2 := by
  have hx : f.connectors[c]? = some f.connectors[c] := Array.getElem?_eq_getElem hc
  rw [startAttempt_eq hx]
  exact counts_set hx rfl (Connector.calls_start _ now) (Connector.finished_start _ now)

theorem counts_conclude (hc : c < f.connectors.size) (now : Int) (attempt : Attempt) :
    Counts 0 1 f (f.conclude now c attempt).2 := by
  have hx : f.connectors[c]? = some f.connectors[c] := Array.getElem?_eq_getElem hc
  exact counts_set hx (conclude_eq hx now attempt).2 (Connector.calls_finish attempt _) (Connector.finished_finish attempt _)

theorem connectors_release (f : Floor) (k : TimerId) : (f.release k).1.connectors = f.connectors := by
  unfold release
  split
  · rfl
  · split
    · rfl
    · rfl

theorem connectors_answer (f : Floor) (now : Int) (k : TimerId) (c : ConnectorId) (number : Nat) (attempt : Attempt) :
    (f.answer now k c number attempt).1.connectors = (f.conclude now c attempt).2.connectors := by
  unfold answer
  dsimp only
  rw [connectors_release]
  split
  · rfl
  · rfl

theorem counts_answer (hc : c < f.connectors.size) (now : Int) (k : TimerId) (number : Nat) (attempt : Attempt) :
    Counts 0 1 f (f.answer now k c number attempt).1 :=
  (counts_conclude hc now attempt).of_connectors (connectors_answer f now k c number attempt)

/-- An attempt begins, and may be over at once. -/
theorem counts_dial (hc : c < f.connectors.size) (now : Int) (k : TimerId) (number : Nat) :
    Counts 1 (f.dial now k c number).2.waits.isEmpty.toNat f (f.dial now k c number).1 := by
  have hstart : Counts 1 0 f (f.startAttempt now c).2.2 := counts_startAttempt hc now
  have hc' : c < (f.startAttempt now c).2.2.connectors.size :=
    Nat.lt_of_lt_of_le hc (quiet_startAttempt f now c).connectors
  unfold dial
  dsimp only
  split
  · exact hstart
  · split
    · exact hstart.trans (counts_answer hc' now k number _)
    · exact hstart

/-- The connector that is asked for an attempt is called. -/
theorem calls_dial {x : Connector} (hx : f.connectors[c]? = some x) (now : Int) (k : TimerId) (number : Nat) :
    ∃ y, (f.dial now k c number).1.connectors[c]? = some y ∧ y.calls = x.calls + 1 := by
  have hc : c < f.connectors.size := (Array.getElem?_eq_some_iff.mp hx).1
  have hstarted : (f.connectors.setIfInBounds c (x.start now).2.2)[c]? = some (x.start now).2.2 :=
    Array.getElem?_setIfInBounds_self_of_lt hc
  unfold dial
  rw [startAttempt_eq hx]
  dsimp only
  split
  · exact ⟨_, hstarted, Connector.calls_start x now⟩
  · split
    · rw [connectors_answer, (conclude_eq hstarted now (x.start now).1).2]
      refine ⟨_, Array.getElem?_setIfInBounds_self_of_lt (by simpa using hc), ?_⟩
      rw [Connector.calls_finish, Connector.calls_start]
    · exact ⟨_, hstarted, Connector.calls_start x now⟩

/-- An attempt that is over at once leaves its timer free. -/
theorem inFlight_dial {k : TimerId} {number : Nat} (h : (f.dial now k c number).2.waits.isEmpty) :
    ((f.dial now k c number).1.timer k).inFlight = false := by
  obtain ⟨f', -, ⟨delay, attempt, heq⟩ | heq⟩ := dial_cases f now k c number
  · rw [heq] at h
    cases h
  · rw [heq, (timer_release f' k k).1, if_pos rfl]

theorem counts_check {k : TimerId} (hk : k < f.timers.size) (hc : c < f.connectors.size) (now : Int) :
    Counts 0 0 f (f.check now k c).1 := by
  have hasked : Counts 0 0 f (f.asked c) := counts_asked hc
  rcases check_cases hk hc now with ⟨-, heq⟩ | ⟨-, -, heq⟩ | ⟨-, -, ⟨-, heq⟩ | ⟨task, -, heq⟩⟩ | ⟨-, -, heq⟩
  · rw [heq]
    exact counts_of_connectors rfl
  · rw [heq]
    exact hasked
  · rw [heq]
    exact hasked
  · rw [heq]
    exact hasked.of_connectors rfl
  · rw [heq]
    exact hasked.of_connectors rfl

/-- An attempt that is taken away is over. -/
theorem counts_abandon {job : Job} (hjob : f.Able job) {k : TimerId} (hk : job.timer? = some k) (now : Int) :
    Counts 0 (job.answers k).toNat f (abandon job now f) := by
  cases job with
  | answer k' c number attempt =>
    obtain rfl := Option.some.inj hk
    have hgiven : Counts 0 1 f { f with connectors := f.connectors.modify c Connector.giveUp } :=
      counts_modify hjob.2 Connector.calls_giveUp Connector.finished_giveUp
    rw [Job.answers, beq_self_eq_true]
    exact hgiven.of_connectors (connectors_release _ k')
  | sweep | report | traffic | silence | check | dial | probe | note => exact counts_of_connectors rfl

/-- By how much a count of the connectors grows in a step that is a timer's own. -/
def growth (mark : Floor → Nat) (own : Bool) (f f' : Floor) : Nat := if own then mark f' - mark f else 0

@[simp] theorem growth_self (mark : Floor → Nat) (own : Bool) (f : Floor) : growth mark own f f = 0 := by
  rw [growth, Nat.sub_self, ite_self]

@[simp] theorem growth_false (mark : Floor → Nat) (f f' : Floor) : growth mark false f f' = 0 := rfl

theorem Counts.growth_calls {b n : Nat} {f' : Floor} (h : Counts b n f f') : growth Floor.calls true f f' = b := by
  rw [growth, if_pos rfl, h.calls, Nat.add_sub_cancel_left]

theorem Counts.growth_finished {b n : Nat} {f' : Floor} (h : Counts b n f f') : growth Floor.finished true f f' = n := by
  rw [growth, if_pos rfl, h.finished, Nat.add_sub_cancel_left]

/-- By how much a count of the connectors grows as attempts of a timer are taken away. -/
def dropped (mark : Floor → Nat) (k : TimerId) (now : Int) : Floor → List (Entry Job) → Nat
  | _, [] => 0
  | f, e :: es =>
    growth mark (e.job.timer? == some k) f (abandon e.job now f) + dropped mark k now (abandon e.job now f) es

theorem roomier_abandon (job : Job) (now : Int) (f : Floor) : Roomier f (abandon job now f) := by
  obtain ⟨f', hquiet, ⟨heq, -⟩ | ⟨k, c, number, attempt, -, heq⟩⟩ := abandon_cases job now f
  · rw [heq]
    exact hquiet.toRoomier
  · rw [heq]
    exact hquiet.toRoomier.trans (roomier_release f' k)

/-- Only attempts are given up, each by its own connector. -/
theorem dropped_eq {es : List (Entry Job)} (hes : ∀ e ∈ es, f.Able e.job) (k : TimerId) (now : Int) :
    dropped Floor.calls k now f es = 0 ∧ dropped Floor.finished k now f es = es.countP (·.job.answers k) := by
  induction es generalizing f with
  | nil => exact ⟨rfl, rfl⟩
  | cons e es ih =>
    have hable : f.Able e.job := hes e List.mem_cons_self
    obtain ⟨hcalls, hfinished⟩ := ih fun e' he' =>
      (hes e' (List.mem_cons_of_mem e he')).roomier (roomier_abandon e.job now f)
    rw [dropped, dropped, hcalls, hfinished, List.countP_cons]
    by_cases hown : e.job.timer? = some k
    · have hcounts := counts_abandon hable hown now
      rw [hown, beq_self_eq_true, hcounts.growth_calls, hcounts.growth_finished]
      refine ⟨rfl, ?_⟩
      cases e.job.answers k
      · exact Nat.zero_add _
      · exact Nat.add_comm _ _
    · have hnot : e.job.answers k = false := by
        cases hjob : e.job with
        | answer k' c number attempt =>
          rw [hjob] at hown
          exact beq_false_of_ne fun heq => hown (congrArg some heq)
        | sweep | report | traffic | silence | check | dial | probe | note => rfl
      rw [beq_false_of_ne hown, growth_false, growth_false, hnot]
      exact ⟨rfl, Nat.zero_add _⟩

end Floor

end Liveness
