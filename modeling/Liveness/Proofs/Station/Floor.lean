import Liveness.Proofs.Station.Turns

/-!
# What work does to timers

Most work leaves the reconnect timers alone (`Floor.Quiet`).  A check of a timer
either does nothing, or finds the connector connected and takes the timer's task
away, or calls for an attempt; the end of an attempt releases the timer.  Each of
these is spelled out once here.
-/

namespace Liveness

/-- Work that has to do with reconnect timers. -/
def Job.isOfTimer : Job → Bool
  | .check .. | .dial .. | .answer .. => true
  | _ => false

/-- The timer that work is of. -/
def Job.timer? : Job → Option TimerId
  | .check k _ | .dial k .. | .answer k .. => some k
  | _ => none

namespace Floor

/-- The timer of a number; one that was never made is one that is never at work. -/
def timer (f : Floor) (k : TimerId) : Timer := (f.timers[k]?).getD .disabled

variable {f f₁ f₂ f₃ : Floor} {k : TimerId} {c : ConnectorId} {now : Int}

theorem timer_of_getElem? {t : Timer} (h : f.timers[k]? = some t) : f.timer k = t := by
  rw [timer, h]; rfl

theorem timer_of_timers {f' : Floor} (h : f'.timers = f.timers) (k : TimerId) : f'.timer k = f.timer k := by
  rw [timer, h]
  rfl

theorem timer_modifyTimer (f : Floor) (i k : TimerId) (g : Timer → Timer) :
    (f.modifyTimer i g).timer k = if i = k ∧ k < f.timers.size then g (f.timer k) else f.timer k := by
  unfold timer modifyTimer
  rw [Array.getElem?_modify]
  by_cases hi : i = k
  · by_cases hk : k < f.timers.size
    · rw [if_pos hi, if_pos ⟨hi, hk⟩, Array.getElem?_eq_getElem hk]
      rfl
    · rw [if_pos hi, if_neg fun h => hk h.2, Array.getElem?_eq_none (Nat.le_of_not_lt hk)]
      rfl
  · rw [if_neg hi, if_neg fun h => hi h.1]

/-- A floor with no fewer timers and connectors, whose simulations have the same work. -/
structure Roomier (f f' : Floor) : Prop where
  timers : f.timers.size ≤ f'.timers.size
  connectors : f.connectors.size ≤ f'.connectors.size
  simulations : ∀ (n : SimulationId) (sim' : Simulation), f'.simulations[n]? = some sim' →
    ∃ sim : Simulation, f.simulations[n]? = some sim ∧ sim'.traffic = sim.traffic ∧
      sim'.silence = sim.silence

/-- A floor whose timers also have the same tasks. -/
structure Keeps (f f' : Floor) : Prop extends Roomier f f' where
  tasks : ∀ k, (f'.timer k).task = (f.timer k).task

/-- A floor whose timers also say the same of their attempts. -/
structure Quiet (f f' : Floor) : Prop extends Keeps f f' where
  inFlight : ∀ k, (f'.timer k).inFlight = (f.timer k).inFlight
  attempts : ∀ k, (f'.timer k).attempts = (f.timer k).attempts

theorem Roomier.trans (h : Roomier f₁ f₂) (h' : Roomier f₂ f₃) : Roomier f₁ f₃ where
  timers := Nat.le_trans h.timers h'.timers
  connectors := Nat.le_trans h.connectors h'.connectors
  simulations := fun n sim'' hsim'' => by
    obtain ⟨sim', hsim', htraffic', hsilence'⟩ := h'.simulations n sim'' hsim''
    obtain ⟨sim, hsim, htraffic, hsilence⟩ := h.simulations n sim' hsim'
    exact ⟨sim, hsim, htraffic'.trans htraffic, hsilence'.trans hsilence⟩

theorem Keeps.trans (h : Keeps f₁ f₂) (h' : Keeps f₂ f₃) : Keeps f₁ f₃ where
  toRoomier := h.toRoomier.trans h'.toRoomier
  tasks := fun k => (h'.tasks k).trans (h.tasks k)

theorem Quiet.trans (h : Quiet f₁ f₂) (h' : Quiet f₂ f₃) : Quiet f₁ f₃ where
  toKeeps := h.toKeeps.trans h'.toKeeps
  inFlight := fun k => (h'.inFlight k).trans (h.inFlight k)
  attempts := fun k => (h'.attempts k).trans (h.attempts k)

theorem quiet_of_eq {f' : Floor} (htimers : f'.timers = f.timers)
    (hconnectors : f'.connectors.size = f.connectors.size) (hsims : f'.simulations = f.simulations) :
    Quiet f f' where
  timers := Nat.le_of_eq (congrArg Array.size htimers).symm
  tasks := fun k => by rw [timer, htimers]; rfl
  connectors := Nat.le_of_eq hconnectors.symm
  simulations := fun n sim hsim => ⟨sim, hsims ▸ hsim, rfl, rfl⟩
  inFlight := fun k => by rw [timer, htimers]; rfl
  attempts := fun k => by rw [timer, htimers]; rfl

theorem Quiet.refl (f : Floor) : Quiet f f := quiet_of_eq rfl rfl rfl

theorem quiet_log (f : Floor) (now : Int) (line : LogLine) : Quiet f (f.log now line) :=
  quiet_of_eq rfl rfl rfl

theorem quiet_withHub (f : Floor) (hub : Hub) : Quiet f { f with hub } := quiet_of_eq rfl rfl rfl

theorem quiet_modifyConnector (f : Floor) (c : ConnectorId) (g : Connector → Connector) :
    Quiet f { f with connectors := f.connectors.modify c g } :=
  quiet_of_eq rfl Array.size_modify rfl

theorem quiet_addConnector (f : Floor) (c : Connector) :
    Quiet f { f with connectors := f.connectors.push c } where
  timers := Nat.le_refl _
  connectors := by simp
  simulations := fun n sim hsim => ⟨sim, hsim, rfl, rfl⟩
  tasks := fun _ => rfl
  inFlight := fun _ => rfl
  attempts := fun _ => rfl

/-- A new timer says of its attempts what one says that was never made. -/
theorem timer_addTimer (f : Floor) {t : Timer} (k : TimerId) :
    timer { f with timers := f.timers.push t } k = f.timer k ∨
      timer { f with timers := f.timers.push t } k = t ∧ f.timer k = .disabled := by
  simp only [timer, Array.getElem?_push]
  by_cases hk : k = f.timers.size
  · subst hk
    rw [if_pos rfl, Array.getElem?_eq_none (Nat.le_refl _)]
    exact .inr ⟨rfl, rfl⟩
  · rw [if_neg hk]
    exact .inl rfl

theorem quiet_addTimer (f : Floor) {t : Timer} (htask : t.task = none) (hflight : t.inFlight = false)
    (hattempts : t.attempts = 0) : Quiet f { f with timers := f.timers.push t } where
  timers := by simp
  connectors := Nat.le_refl _
  simulations := fun n sim hsim => ⟨sim, hsim, rfl, rfl⟩
  tasks := fun k => by
    rcases timer_addTimer f (t := t) k with h | ⟨h, h'⟩
    · rw [h]
    · rw [h, h', htask]
      rfl
  inFlight := fun k => by
    rcases timer_addTimer f (t := t) k with h | ⟨h, h'⟩
    · rw [h]
    · rw [h, h', hflight]
      rfl
  attempts := fun k => by
    rcases timer_addTimer f (t := t) k with h | ⟨h, h'⟩
    · rw [h]
    · rw [h, h', hattempts]
      rfl

theorem quiet_conclude (f : Floor) (now : Int) (c : ConnectorId) (attempt : Attempt) :
    Quiet f (f.conclude now c attempt).2 := by
  unfold conclude
  split
  · exact .refl f
  · dsimp only
    split
    · exact quiet_of_eq rfl (by simp [log]) rfl
    · exact quiet_of_eq rfl (by simp) rfl

theorem quiet_startAttempt (f : Floor) (now : Int) (c : ConnectorId) :
    Quiet f (f.startAttempt now c).2.2 := by
  unfold startAttempt
  split
  · exact .refl f
  · exact quiet_of_eq rfl (by simp) rfl

theorem roomier_modifyTimer (f : Floor) (k : TimerId) (g : Timer → Timer) :
    Roomier f (f.modifyTimer k g) where
  timers := by simp [modifyTimer]
  connectors := Nat.le_refl _
  simulations := fun n sim hsim => ⟨sim, hsim, rfl, rfl⟩

/-- A change of a timer that keeps its task. -/
theorem keeps_modifyTimer (f : Floor) (k : TimerId) {g : Timer → Timer} (hg : ∀ t, (g t).task = t.task) :
    Keeps f (f.modifyTimer k g) where
  toRoomier := roomier_modifyTimer f k g
  tasks := fun k' => by
    rw [timer_modifyTimer]
    split
    · exact hg _
    · rfl

theorem quiet_simulations (f : Floor) {i : SimulationId} {sim : Simulation} (peers : Array Peer) (hub : Hub)
    (hsim : f.simulations[i]? = some sim) :
    Quiet f { f with hub, simulations := f.simulations.setIfInBounds i { sim with peers } } where
  timers := Nat.le_refl _
  tasks := fun _ => rfl
  connectors := Nat.le_refl _
  simulations := fun n sim' hsim' => by
    simp only [Array.getElem?_setIfInBounds] at hsim'
    split at hsim'
    · rename_i hn
      subst hn
      split at hsim'
      · obtain rfl := Option.some.inj hsim'
        exact ⟨sim, hsim, rfl, rfl⟩
      · cases hsim'
    · exact ⟨sim', hsim', rfl, rfl⟩
  inFlight := fun _ => rfl
  attempts := fun _ => rfl

/-! ## Runs -/

/-- All other work leaves the timers alone and asks for nothing. -/
theorem quiet_run {job : Job} (hjob : job.isOfTimer = false) (runs : List Run) (now : Int) (f : Floor) :
    Quiet f (run job runs now f).1 ∧ (run job runs now f).2.cancels = [] ∧
      (run job runs now f).2.errands = [] ∧ (run job runs now f).2.waits = [] := by
  cases job with
  | check | dial | answer => cases hjob
  | sweep | report | note => exact ⟨quiet_of_eq rfl rfl rfl, rfl, rfl, rfl⟩
  | traffic i =>
    refine ⟨?_, rfl, rfl, rfl⟩
    change Quiet f (f.traffic now i)
    unfold traffic
    split
    · exact .refl f
    · rename_i sim hsim
      exact quiet_simulations f _ _ hsim
  | silence i =>
    refine ⟨?_, rfl, rfl, rfl⟩
    change Quiet f (f.silence now i)
    unfold silence
    split
    · exact .refl f
    · rename_i sim hsim
      exact quiet_simulations f _ _ hsim
  | probe touches panicsAt =>
    refine ⟨?_, rfl, rfl, rfl⟩
    cases touches with
    | none => exact .refl f
    | some id => exact quiet_of_eq rfl rfl rfl

theorem modify_eq_setIfInBounds {α : Type} {xs : Array α} {i : Nat} {x : α} (hx : xs[i]? = some x) (g : α → α) :
    xs.modify i g = xs.setIfInBounds i (g x) := by
  refine Array.ext_getElem? fun j => ?_
  rw [Array.getElem?_setIfInBounds, Array.getElem?_modify]
  split
  · rename_i heq
    subst heq
    rw [if_pos (Array.getElem?_eq_some_iff.mp hx).1, hx]
    rfl
  · rfl

/-- What a connector answers when it is asked whether it is connected; nothing if that panics. -/
def reply (f : Floor) (c : ConnectorId) : Option Bool := (f.connectors[c]?).bind fun x => x.ask.1

/-- The floor once a connector was asked. -/
def asked (f : Floor) (c : ConnectorId) : Floor :=
  { f with connectors := f.connectors.modify c fun x => x.ask.2 }

theorem quiet_asked (f : Floor) (c : ConnectorId) : Quiet f (f.asked c) := quiet_modifyConnector f c _

/-- What a check of a timer comes to.  While an attempt is under way it does nothing.  Otherwise it asks the
connector: one that panics takes the check's own task with it; for one that is connected the timer has no task or
loses it; for one that is not an attempt is called for. -/
theorem check_cases (hk : k < f.timers.size) (hc : c < f.connectors.size) (now : Int) :
    (f.timer k).inFlight = true ∧ f.check now k c = (f, {}) ∨
    (f.timer k).inFlight = false ∧ f.reply c = none ∧ f.check now k c = (f.asked c, { panicked := true }) ∨
    (f.timer k).inFlight = false ∧ f.reply c = some true ∧
      ((f.timer k).task = none ∧ f.check now k c = (f.asked c, {}) ∨
        ∃ task, (f.timer k).task = some task ∧
          f.check now k c = (((f.asked c).modifyTimer k fun t => { t with task := none }).log now .timerSatisfied,
            { cancels := [task] })) ∨
    (f.timer k).inFlight = false ∧ f.reply c = some false ∧
      f.check now k c =
        ((f.asked c).modifyTimer k fun t => { t with attempts := (f.timer k).attempts + 1, inFlight := true },
          { errands := [.dial k c ((f.timer k).attempts + 1)] }) := by
  have ht : f.timers[k]? = some (f.timer k) := by
    rw [timer, Array.getElem?_eq_getElem hk]
    rfl
  have hx : f.connectors[c]? = some f.connectors[c] := Array.getElem?_eq_getElem hc
  have hset : f.connectors.setIfInBounds c f.connectors[c].ask.2 = f.connectors.modify c fun x => x.ask.2 :=
    (modify_eq_setIfInBounds hx fun x => x.ask.2).symm
  simp only [check, reply, ht, hx, Option.bind_some, hset]
  cases (f.timer k).inFlight with
  | true => exact .inl ⟨rfl, rfl⟩
  | false =>
    cases f.connectors[c].ask.1 with
    | none => exact .inr (.inl ⟨rfl, rfl, rfl⟩)
    | some up =>
      cases up with
      | true =>
        refine .inr (.inr (.inl ⟨rfl, rfl, ?_⟩))
        cases htask : (f.timer k).task with
        | none => exact .inl ⟨rfl, rfl⟩
        | some task => exact .inr ⟨task, rfl, rfl⟩
      | false => exact .inr (.inr (.inr ⟨rfl, rfl, rfl⟩))

/-- The end of an attempt releases its timer, and takes its task away if no one holds it. -/
theorem release_cases (hk : k < f.timers.size) :
    (f.timer k).handles = 0 ∧
      f.release k = (f.modifyTimer k fun t => { t with inFlight := false, task := none },
        (f.timer k).task.toList) ∨
    (f.timer k).handles ≠ 0 ∧ f.release k = (f.modifyTimer k fun t => { t with inFlight := false }, []) := by
  have ht : f.timers[k]? = some (f.timer k) := by
    rw [timer, Array.getElem?_eq_getElem hk]
    rfl
  simp only [release, ht]
  by_cases hhandles : (f.timer k).handles = 0
  · exact .inl ⟨hhandles, if_pos hhandles⟩
  · exact .inr ⟨hhandles, if_neg hhandles⟩

/-- The end of an attempt changes its own timer only: it is not in flight any more, and may have lost its
task. -/
theorem timer_release (f : Floor) (k k' : TimerId) :
    ((f.release k).1.timer k').inFlight = (if k = k' then false else (f.timer k').inFlight) ∧
      ((f.release k).1.timer k').attempts = (f.timer k').attempts ∧
      (((f.release k).1.timer k').task = (f.timer k').task ∨ ((f.release k).1.timer k').task = none) := by
  by_cases hk : k < f.timers.size
  · have hmodify : ∀ g : Timer → Timer, (∀ t, (g t).inFlight = false ∧ (g t).attempts = t.attempts ∧
        ((g t).task = t.task ∨ (g t).task = none)) →
        ((f.modifyTimer k g).timer k').inFlight = (if k = k' then false else (f.timer k').inFlight) ∧
          ((f.modifyTimer k g).timer k').attempts = (f.timer k').attempts ∧
          (((f.modifyTimer k g).timer k').task = (f.timer k').task ∨
            ((f.modifyTimer k g).timer k').task = none) := by
      intro g hg
      rw [timer_modifyTimer]
      by_cases hne : k = k'
      · rw [if_pos ⟨hne, hne ▸ hk⟩, if_pos hne]
        exact hg _
      · rw [if_neg fun h => hne h.1, if_neg hne]
        exact ⟨rfl, rfl, .inl rfl⟩
    rcases release_cases hk with ⟨-, heq⟩ | ⟨-, heq⟩
    · rw [heq]
      exact hmodify _ fun _ => ⟨rfl, rfl, .inr rfl⟩
    · rw [heq]
      exact hmodify _ fun _ => ⟨rfl, rfl, .inl rfl⟩
  · have hnone : f.timers[k]? = none := Array.getElem?_eq_none (Nat.le_of_not_lt hk)
    have hsame : f.release k = (f, []) := by simp only [release, hnone]
    rw [hsame]
    refine ⟨?_, rfl, .inl rfl⟩
    split
    · rename_i heq
      rw [← heq, timer, hnone]
      rfl
    · rfl

/-- The end of an attempt cancels no more than its timer's task. -/
theorem task_of_mem_release {f : Floor} {k : TimerId} {i : EntryId} (hi : i ∈ (f.release k).2) :
    (f.timer k).task = some i := by
  by_cases hk : k < f.timers.size
  · rcases release_cases hk with ⟨-, heq⟩ | ⟨-, heq⟩
    · rw [heq] at hi
      exact Option.mem_toList.mp hi
    · rw [heq] at hi
      cases hi
  · have hnone : f.timers[k]? = none := Array.getElem?_eq_none (Nat.le_of_not_lt hk)
    simp only [release, hnone, List.not_mem_nil] at hi

theorem roomier_release (f : Floor) (k : TimerId) : Roomier f (f.release k).1 := by
  unfold release
  split
  · exact (Quiet.refl f).toRoomier
  · split
    · exact roomier_modifyTimer f k _
    · exact roomier_modifyTimer f k _

/-- A shutdown that takes work away ends attempts and does nothing else to timers. -/
theorem abandon_cases (job : Job) (now : Int) (f : Floor) :
    ∃ f', Quiet f f' ∧ (abandon job now f = f' ∧ (∀ k c number attempt, job ≠ .answer k c number attempt) ∨
      ∃ k c number attempt, job = .answer k c number attempt ∧ abandon job now f = (f'.release k).1) := by
  cases job with
  | answer k c number attempt =>
    refine ⟨{ f with connectors := f.connectors.modify c Connector.giveUp }, ?_, .inr ⟨k, c, number, attempt, rfl, rfl⟩⟩
    exact quiet_of_eq rfl (by simp) rfl
  | sweep | report | traffic | silence | check | dial | probe | note =>
    exact ⟨f, .refl f, .inl ⟨rfl, fun _ _ _ _ h => by cases h⟩⟩

/-- The end of an attempt: its connector and the log change, and its timer is released. -/
theorem answer_eq (f : Floor) (now : Int) (k : TimerId) (c : ConnectorId) (number : Nat) (attempt : Attempt) :
    ∃ f', Quiet f f' ∧
      f.answer now k c number attempt = ((f'.release k).1, { cancels := (f'.release k).2 }) := by
  have hconclude : Quiet f (f.conclude now c attempt).2 := quiet_conclude f now c attempt
  cases herror : (f.conclude now c attempt).1.error? with
  | none => exact ⟨_, hconclude, by simp only [answer, herror]⟩
  | some text =>
    exact ⟨_, hconclude.trans (quiet_log _ now (.attemptFailed number text)), by simp only [answer, herror]⟩

/-- The start of an attempt: it never ends, or it ends after a while, or it has ended at once. -/
theorem dial_cases (f : Floor) (now : Int) (k : TimerId) (c : ConnectorId) (number : Nat) :
    ∃ f', Quiet f f' ∧
      ((∃ delay attempt, f.dial now k c number = (f', { waits := [(delay, .answer k c number attempt)] })) ∨
        f.dial now k c number = ((f'.release k).1, { cancels := (f'.release k).2 })) := by
  have hstart : Quiet f (f.startAttempt now c).2.2 := quiet_startAttempt f now c
  unfold dial
  dsimp only
  split
  · exact ⟨_, hstart, .inl ⟨none, _, rfl⟩⟩
  · split
    · obtain ⟨f', hquiet, heq⟩ := answer_eq (f.startAttempt now c).2.2 now k c number
        (f.startAttempt now c).1
      exact ⟨f', hstart.trans hquiet, .inr heq⟩
    · exact ⟨_, hstart, .inl ⟨_, _, rfl⟩⟩

end Floor

end Liveness
