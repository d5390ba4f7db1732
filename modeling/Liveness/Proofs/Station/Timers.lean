import Liveness.Proofs.Station.SingleFlight

/-!
# What happens to a timer

Callers change a timer by deeds of its own, of which each is spelled out below.  All
that else happens to it comes from its own work: a check, or the end of an attempt.
That may take its task away and begin or end its attempt, and leaves the rest alone
(`Timer.Left`).  A timer that no one holds any more loses its task with its attempt
at the latest (`Timer.IsTidy`).
-/

namespace Liveness

/-- The timer that a deed is of. -/
def Station.Deed.timer? : Deed → Option TimerId
  | .startTimer k _ | .stopTimer k | .setAutoConnect k _ | .setTimerPeriod k _ | .holdTimer k | .dropTimer k => some k
  | _ => none

namespace Timer

/-- A timer that no one holds has no task unless its attempt is under way. -/
def IsTidy (t : Timer) : Prop := t.handles = 0 → t.inFlight = false → t.task = none

/-- A timer later on that callers have left alone. -/
structure Left (t t' : Timer) : Prop where
  settings : t'.settings = t.settings
  frozen : t'.frozen = t.frozen
  handles : t'.handles = t.handles
  task : t'.task = t.task ∨ t'.task = none
  tidy : t.IsTidy → t'.IsTidy

variable {t t₁ t₂ t₃ : Timer}

theorem Left.refl (t : Timer) : t.Left t := ⟨rfl, rfl, rfl, .inl rfl, id⟩

theorem Left.of_eq (h : t₂ = t₁) : t₁.Left t₂ := h ▸ .refl t₁

theorem Left.trans (h : t₁.Left t₂) (h' : t₂.Left t₃) : t₁.Left t₃ where
  settings := h'.settings.trans h.settings
  frozen := h'.frozen.trans h.frozen
  handles := h'.handles.trans h.handles
  task := by
    rcases h'.task with htask | htask
    · rw [htask]
      exact h.task
    · exact .inr htask
  tidy := h'.tidy ∘ h.tidy

theorem Left.isAutoConnect (h : t₁.Left t₂) : t₂.isAutoConnect = t₁.isAutoConnect := by
  rw [Timer.isAutoConnect, Timer.isAutoConnect, h.frozen, h.settings]

/-- A timer without a task is tidy. -/
theorem isTidy_of_task (h : t.task = none) : t.IsTidy := fun _ _ => h

end Timer

namespace Floor

variable {f : Floor} {k k' : TimerId} {now : Int}

theorem timers_conclude (f : Floor) (now : Int) (c : ConnectorId) (attempt : Attempt) :
    (f.conclude now c attempt).2.timers = f.timers := by
  unfold conclude
  split
  · rfl
  · dsimp only
    split <;> rfl

theorem timers_startAttempt (f : Floor) (now : Int) (c : ConnectorId) :
    (f.startAttempt now c).2.2.timers = f.timers := by
  unfold startAttempt
  split <;> rfl

theorem timer_modifyTimer_of_ne (f : Floor) (hne : k' ≠ k) (g : Timer → Timer) :
    (f.modifyTimer k' g).timer k = f.timer k := by
  rw [timer_modifyTimer, if_neg fun h => hne h.1]

theorem timer_release_of_ne (f : Floor) (hne : k' ≠ k) : (f.release k').1.timer k = f.timer k := by
  unfold release
  split
  · rfl
  · split
    · exact timer_modifyTimer_of_ne f hne _
    · exact timer_modifyTimer_of_ne f hne _

/-- An attempt ends with its timer released, on a floor with the same timers. -/
theorem answer_release (f : Floor) (now : Int) (k : TimerId) (c : ConnectorId) (number : Nat) (attempt : Attempt) :
    ∃ f' : Floor, f'.timers = f.timers ∧
      f.answer now k c number attempt = ((f'.release k).1, { cancels := (f'.release k).2 }) := by
  cases herror : (f.conclude now c attempt).1.error? with
  | none => exact ⟨_, timers_conclude f now c attempt, by simp only [answer, herror]⟩
  | some text =>
    exact ⟨(f.conclude now c attempt).2.log now (.attemptFailed number text), timers_conclude f now c attempt,
      by simp only [answer, herror]⟩

/-- The start of an attempt leaves the timers alone, unless the attempt ends at once. -/
theorem dial_release (f : Floor) (now : Int) (k : TimerId) (c : ConnectorId) (number : Nat) :
    ∃ f' : Floor, f'.timers = f.timers ∧
      ((f.dial now k c number).1 = f' ∨ (f.dial now k c number).1 = (f'.release k).1) := by
  have hstart : (f.startAttempt now c).2.2.timers = f.timers := timers_startAttempt f now c
  unfold dial
  dsimp only
  split
  · exact ⟨_, hstart, .inl rfl⟩
  · split
    · obtain ⟨f', htimers, heq⟩ := answer_release (f.startAttempt now c).2.2 now k c number (f.startAttempt now c).1
      exact ⟨f', htimers.trans hstart, .inr (congrArg Prod.fst heq)⟩
    · exact ⟨_, hstart, .inl rfl⟩

/-- All other work leaves the timers alone. -/
theorem timers_run {job : Job} (h : job.timer? = none) (runs : List Run) (now : Int) (f : Floor) :
    (run job runs now f).1.timers = f.timers := by
  cases job with
  | check | dial | answer => cases h
  | sweep | report | note => rfl
  | traffic i =>
    change (f.traffic now i).timers = _
    unfold traffic
    split <;> rfl
  | silence i =>
    change (f.silence now i).timers = _
    unfold silence
    split <;> rfl
  | probe touches panicsAt => cases touches <;> rfl

theorem timer_check_of_ne (f : Floor) (hne : k' ≠ k) (now : Int) (c : ConnectorId) :
    (f.check now k' c).1.timer k = f.timer k := by
  unfold check
  split
  · split
    · rfl
    · dsimp only
      split
      · rfl
      · split
        · exact timer_modifyTimer_of_ne _ hne _
        · rfl
      · exact timer_modifyTimer_of_ne _ hne _
  · rfl

/-- Work leaves a timer alone that it is not of. -/
theorem timer_run_of_ne {job : Job} (h : job.timer? ≠ some k) (runs : List Run) (now : Int) (f : Floor) :
    (run job runs now f).1.timer k = f.timer k := by
  cases job with
  | check k' c => exact timer_check_of_ne f (fun heq => h (congrArg some heq)) now c
  | dial k' c number =>
    have hne : k' ≠ k := fun heq => h (congrArg some heq)
    change (f.dial now k' c number).1.timer k = f.timer k
    obtain ⟨f', htimers, heq | heq⟩ := dial_release f now k' c number
    · rw [heq]
      exact timer_of_timers htimers k
    · rw [heq, timer_release_of_ne f' hne]
      exact timer_of_timers htimers k
  | answer k' c number attempt =>
    have hne : k' ≠ k := fun heq => h (congrArg some heq)
    change (f.answer now k' c number attempt).1.timer k = f.timer k
    obtain ⟨f', htimers, heq⟩ := answer_release f now k' c number attempt
    rw [heq, timer_release_of_ne f' hne]
    exact timer_of_timers htimers k
  | sweep | report | traffic | silence | probe | note => exact timer_of_timers (timers_run rfl runs now f) k

/-! ## What work leaves of the timers -/

/-- A floor later on on which callers have left the timers alone. -/
structure Leaves (f f' : Floor) : Prop where
  size : f'.timers.size = f.timers.size
  left : ∀ k, (f.timer k).Left (f'.timer k)

theorem Leaves.of_timers {f' : Floor} (h : f'.timers = f.timers) : f.Leaves f' :=
  ⟨congrArg Array.size h, fun k => .of_eq (timer_of_timers h k)⟩

theorem Leaves.refl (f : Floor) : f.Leaves f := .of_timers rfl

theorem Leaves.trans {f₁ f₂ f₃ : Floor} (h : f₁.Leaves f₂) (h' : f₂.Leaves f₃) : f₁.Leaves f₃ :=
  ⟨h'.size.trans h.size, fun k => (h.left k).trans (h'.left k)⟩

theorem Leaves.log {f f' : Floor} (h : f.Leaves f') (now : Int) (line : LogLine) : f.Leaves (f'.log now line) :=
  ⟨h.size, h.left⟩

theorem leaves_modifyTimer (f : Floor) (k' : TimerId) {g : Timer → Timer} (hg : (f.timer k').Left (g (f.timer k'))) :
    f.Leaves (f.modifyTimer k' g) where
  size := Array.size_modify
  left := fun k => by
    rw [timer_modifyTimer]
    split
    · rename_i h
      obtain ⟨rfl, -⟩ := h
      exact hg
    · exact .refl _

theorem leaves_release (f : Floor) (k' : TimerId) : f.Leaves (f.release k').1 := by
  unfold release
  split
  · exact .refl f
  · rename_i t ht
    split
    · apply leaves_modifyTimer
      exact ⟨rfl, rfl, rfl, .inr rfl, fun _ => Timer.isTidy_of_task rfl⟩
    · rename_i hhandles
      apply leaves_modifyTimer
      refine ⟨rfl, rfl, rfl, .inl rfl, fun _ hnone => absurd hnone ?_⟩
      rw [timer_of_getElem? ht]
      exact hhandles

theorem leaves_check (f : Floor) (now : Int) (k' : TimerId) (c : ConnectorId) : f.Leaves (f.check now k' c).1 := by
  unfold check
  split
  · rename_i x _ _
    split
    · exact .refl f
    · -- the connector that is asked is no timer
      have hasked : f.Leaves { f with connectors := f.connectors.setIfInBounds c x.ask.2 } := .of_timers rfl
      dsimp only
      split
      · exact hasked
      · split
        · refine (hasked.trans (leaves_modifyTimer _ k' ?_)).log now _
          exact ⟨rfl, rfl, rfl, .inr rfl, fun _ => Timer.isTidy_of_task rfl⟩
        · exact hasked
      · refine hasked.trans (leaves_modifyTimer _ k' ?_)
        exact ⟨rfl, rfl, rfl, .inl rfl, fun _ _ hflight => absurd hflight Bool.false_ne_true.symm⟩
  · exact .refl f

theorem leaves_run (job : Job) (runs : List Run) (now : Int) (f : Floor) : f.Leaves (run job runs now f).1 := by
  cases job with
  | check k' c => exact leaves_check f now k' c
  | dial k' c number =>
    change f.Leaves (f.dial now k' c number).1
    obtain ⟨f', htimers, heq | heq⟩ := dial_release f now k' c number
    · rw [heq]
      exact .of_timers htimers
    · rw [heq]
      exact (Leaves.of_timers htimers).trans (leaves_release f' k')
  | answer k' c number attempt =>
    change f.Leaves (f.answer now k' c number attempt).1
    obtain ⟨f', htimers, heq⟩ := answer_release f now k' c number attempt
    rw [heq]
    exact (Leaves.of_timers htimers).trans (leaves_release f' k')
  | sweep | report | traffic | silence | probe | note => exact .of_timers (timers_run rfl runs now f)

theorem leaves_abandon (job : Job) (now : Int) (f : Floor) : f.Leaves (abandon job now f) := by
  cases job with
  | answer k' c number attempt =>
    have hsame : f.Leaves { f with connectors := f.connectors.modify c Connector.giveUp } := .of_timers rfl
    exact hsame.trans (leaves_release _ k')
  | sweep | report | traffic | silence | check | dial | probe | note => exact .refl f

theorem leaves_abandons (es : List (Entry Job)) (now : Int) (f : Floor) :
    f.Leaves (es.foldl (fun f e => abandon e.job now f) f) := by
  induction es generalizing f with
  | nil => exact .refl f
  | cons e es ih => exact (leaves_abandon e.job now f).trans (ih _)

end Floor

namespace Timeline

variable {t : Timeline Job Floor}

theorem leaves_runOnce (t : Timeline Job Floor) (i : EntryId) (due : Int) :
    t.host.Leaves (runOnce Floor.worker i t due).host :=
  runOnce_cases Floor.worker (P := fun t' => t.host.Leaves t'.host) due (.refl _)
    fun e _ _ => Floor.leaves_run e.job e.runs t.agenda.now t.host

theorem leaves_wake (t : Timeline Job Floor) (i : EntryId) : t.host.Leaves (wake Floor.worker t i).host :=
  wake_induction Floor.worker (P := fun t' => t.host.Leaves t'.host)
    (fun t' due h => h.trans (leaves_runOnce t' i due)) (fun _ _ h => h) (.refl _)

theorem leaves_beginNext (t : Timeline Job Floor) : t.host.Leaves (beginNext Floor.worker t).host := by
  unfold beginNext
  split
  · exact .refl _
  · exact Floor.leaves_run _ _ _ _

end Timeline

namespace Station

variable {s : Station} {k : TimerId}

/-- Only deeds do more to timers than their work may do. -/
theorem leaves_act {a : Act} (ha : ∀ d, a ≠ .deed d) : s.floor.Leaves (s.act a).floor := by
  cases a with
  | deed d => exact absurd rfl (ha d)
  | time a =>
    cases a with
    | wake i => exact Timeline.leaves_wake s.timeline i
    | errand => exact Timeline.leaves_beginNext s.timeline
    | clock | leap => exact .refl _
  | shutdown => exact Floor.leaves_abandons _ _ _
  | startAttempt c => exact .of_timers (Floor.timers_startAttempt s.floor s.now c)
  | conclude c attempt => exact .of_timers (Floor.timers_conclude s.floor s.now c attempt)

theorem left_act {a : Act} (ha : ∀ d, a ≠ .deed d) (k : TimerId) : (s.timer k).Left ((s.act a).timer k) :=
  (leaves_act ha).left k

/-! ## Deeds -/

/-- A timer that has just been made. -/
def IsNewTimer (t : Timer) : Prop := t = .disabled ∨ ∃ settings, t = { settings }

/-- Deeds that have to do with other things leave all timers alone. -/
theorem timers_perform {d : Deed} (h : d.timer? = none) (hadd : ∀ settings, d ≠ .addTimer settings) :
    (s.perform d).floor.timers = s.floor.timers := by
  cases d with
  | startTimer | stopTimer | setAutoConnect | setTimerPeriod | holdTimer | dropTimer => cases h
  | addTimer settings => exact absurd rfl (hadd settings)
  | startSweeper =>
    simp only [perform, startSweeper, every_eq]
    split
    · rfl
    · split <;> rfl
  | stopSweeper =>
    simp only [perform, stopSweeper]
    split
    · rfl
    · split <;> rfl
  | setSweeper settings =>
    simp only [perform, setSweeper]
    cases settings.validate with
    | error e => rfl
    | ok u => cases s.isSweeping <;> rfl
  | every name touches panicsAt delay period =>
    simp only [perform, every_eq]
  | cancel i =>
    simp only [perform]
    split <;> rfl
  | startReporter interval loads =>
    simp only [perform, startReporter, every_eq]
    rfl
  | startSimulation plan =>
    obtain ⟨hub, sim, -, -, heq⟩ := s.startSimulation_eq plan
    simp only [perform, heq]
  | stopSimulation i =>
    simp only [perform, stopSimulation]
    split <;> rfl
  | onHub | sweepNow | once | note | addConnector | setConnected => rfl

theorem timer_modifyTimer_of_ne {k' : TimerId} (hne : k' ≠ k) (g : Timer → Timer) :
    (s.modifyTimer k' g).timer k = s.timer k := Floor.timer_modifyTimer_of_ne s.floor hne g

theorem timer_stopTimer_of_ne {k' : TimerId} (hne : k' ≠ k) : (s.stopTimer k').2.timer k = s.timer k := by
  unfold stopTimer
  split
  · rfl
  · rename_i task htask
    exact timer_modifyTimer_of_ne (s := s.cancel task) hne _

theorem timer_startTimer_of_ne {k' : TimerId} (hne : k' ≠ k) (c : ConnectorId) :
    (s.startTimer k' c).2.timer k = s.timer k := by
  simp only [startTimer, every_eq]
  split
  · rfl
  · split
    · rfl
    · exact timer_modifyTimer_of_ne (s := s) hne _

theorem timer_of_size (hk : s.floor.timers.size ≤ k) : s.timer k = .disabled := by
  rw [timer, Array.getElem?_eq_none hk]
  rfl

theorem timer_addTimer (s : Station) (settings : Option ReconnectSettings) (k : TimerId) :
    (s.perform (.addTimer settings)).timer k = s.timer k ∨
      k = s.floor.timers.size ∧ IsNewTimer ((s.perform (.addTimer settings)).timer k) := by
  by_cases hk : k = s.floor.timers.size
  · subst hk
    refine .inr ⟨rfl, ?_⟩
    simp only [timer, perform, Array.getElem?_push_size, Option.getD_some]
    cases settings with
    | none => exact .inl rfl
    | some settings => exact .inr ⟨settings, rfl⟩
  · refine .inl ?_
    simp only [timer, perform, Array.getElem?_push, if_neg hk]

/-- A deed leaves a timer alone that it is not of, or it makes the timer. -/
theorem timer_perform_of_ne {d : Deed} (h : d.timer? ≠ some k) :
    (s.perform d).timer k = s.timer k ∨ k = s.floor.timers.size ∧ IsNewTimer ((s.perform d).timer k) := by
  cases hd : d.timer? with
  | none =>
    by_cases hadd : ∃ settings, d = .addTimer settings
    · obtain ⟨settings, rfl⟩ := hadd
      exact timer_addTimer s settings k
    · exact .inl (Floor.timer_of_timers (timers_perform hd fun settings heq => hadd ⟨settings, heq⟩) k)
  | some k' =>
    have hne : k' ≠ k := fun heq => h (hd.trans (congrArg some heq))
    refine .inl ?_
    cases d with
    | startTimer i c =>
      obtain rfl := Option.some.inj hd
      simp only [perform]
      split
      · exact timer_startTimer_of_ne hne c
      · rfl
    | stopTimer i =>
      obtain rfl := Option.some.inj hd
      exact timer_stopTimer_of_ne hne
    | setAutoConnect i on =>
      obtain rfl := Option.some.inj hd
      simp only [perform, setAutoConnect]
      split
      · rfl
      · split
        · exact timer_modifyTimer_of_ne hne _
        · exact (timer_stopTimer_of_ne hne).trans (timer_modifyTimer_of_ne hne _)
    | setTimerPeriod i period =>
      obtain rfl := Option.some.inj hd
      simp only [perform, setTimerPeriod]
      split
      · rfl
      · exact timer_modifyTimer_of_ne hne _
    | holdTimer i =>
      obtain rfl := Option.some.inj hd
      exact timer_modifyTimer_of_ne hne _
    | dropTimer i =>
      obtain rfl := Option.some.inj hd
      simp only [perform, dropTimer]
      split
      · exact (timer_stopTimer_of_ne hne).trans (timer_modifyTimer_of_ne hne _)
      · exact timer_modifyTimer_of_ne hne _
    | _ => cases hd

/-! ## Deeds of a timer -/

theorem exists_of_task {i : EntryId} (htask : (s.timer k).task = some i) : k < s.floor.timers.size := by
  refine Nat.lt_of_not_le fun hle => ?_
  rw [timer, Array.getElem?_eq_none hle] at htask
  cases htask

theorem exists_of_frozen (hfrozen : (s.timer k).frozen = false) : k < s.floor.timers.size := by
  refine Nat.lt_of_not_le fun hle => ?_
  rw [timer, Array.getElem?_eq_none hle] at hfrozen
  cases hfrozen

theorem timer_modifyTimer_self (hk : k < s.floor.timers.size) (g : Timer → Timer) :
    (s.modifyTimer k g).timer k = g (s.timer k) := by
  have htimer := Floor.timer_modifyTimer s.floor k k g
  rwa [if_pos ⟨rfl, hk⟩] at htimer

theorem timer_stopTimer (s : Station) (k : TimerId) : (s.stopTimer k).2.timer k = { s.timer k with task := none } := by
  unfold stopTimer
  split
  · rename_i hnone
    rw [← hnone]
  · rename_i task htask
    exact timer_modifyTimer_self (s := s.cancel task) (exists_of_task htask) _

/-- A stop says whether the timer was at work. -/
theorem stopTimer_fst (s : Station) (k : TimerId) : (s.stopTimer k).1 = s.isTimerScheduled k := by
  unfold stopTimer isTimerScheduled isScheduled
  split
  · rename_i hnone
    rw [hnone]
    rfl
  · rename_i task htask
    rw [htask]
    rfl

theorem timer_setAutoConnect (s : Station) (k : TimerId) (on : Bool) :
    (s.setAutoConnect k on).timer k = if (s.timer k).frozen then s.timer k else
      { s.timer k with
        settings := { (s.timer k).settings with enabled := on }
        task := if on then (s.timer k).task else none } := by
  unfold setAutoConnect
  split
  · rfl
  · rename_i hfrozen
    have hmodify := timer_modifyTimer_self (exists_of_frozen (Bool.eq_false_iff.mpr hfrozen))
      fun t => { t with settings := { t.settings with enabled := on } }
    cases on with
    | true => exact hmodify
    | false =>
      simp only [Bool.false_eq_true, if_false]
      rw [timer_stopTimer, hmodify]

theorem timer_setTimerPeriod (s : Station) (k : TimerId) (period : Span) :
    (s.setTimerPeriod k period).timer k = if (s.timer k).frozen then s.timer k else
      { s.timer k with settings := { (s.timer k).settings with period } } := by
  unfold setTimerPeriod
  split
  · rfl
  · rename_i hfrozen
    exact timer_modifyTimer_self (exists_of_frozen (Bool.eq_false_iff.mpr hfrozen)) _

/-- Another handle on a timer changes how many there are, and nothing else. -/
theorem timer_holdTimer (s : Station) (k : TimerId) :
    ∃ n, (s.timer k).handles ≤ n ∧ (s.holdTimer k).timer k = { s.timer k with handles := n } := by
  by_cases hk : k < s.floor.timers.size
  · exact ⟨_, Nat.le_succ _, timer_modifyTimer_self hk _⟩
  · refine ⟨(s.timer k).handles, Nat.le_refl _, ?_⟩
    have htimer := Floor.timer_modifyTimer s.floor k k fun t => { t with handles := t.handles + 1 }
    rw [if_neg fun h => hk h.2] at htimer
    exact htimer

/-- Without its last handle a timer loses its task, unless its attempt is under way. -/
theorem timer_dropTimer (s : Station) (k : TimerId) :
    ∃ n, (k < s.floor.timers.size → n = (s.timer k).handles - 1) ∧
      (s.dropTimer k).timer k =
        { s.timer k with
          handles := n
          task := if n = 0 && !(s.timer k).inFlight then none else (s.timer k).task } := by
  obtain ⟨n, hn, hmodify⟩ : ∃ n, (k < s.floor.timers.size → n = (s.timer k).handles - 1) ∧
      (s.modifyTimer k fun t => { t with handles := t.handles - 1 }).timer k = { s.timer k with handles := n } := by
    by_cases hk : k < s.floor.timers.size
    · exact ⟨_, fun _ => rfl, timer_modifyTimer_self hk _⟩
    · refine ⟨(s.timer k).handles, fun h => absurd h hk, ?_⟩
      have htimer := Floor.timer_modifyTimer s.floor k k fun t => { t with handles := t.handles - 1 }
      rw [if_neg fun h => hk h.2] at htimer
      exact htimer
  refine ⟨n, hn, ?_⟩
  unfold dropTimer
  dsimp only
  rw [hmodify]
  split
  · rw [timer_stopTimer, hmodify]
  · exact hmodify

/-- The task that a start of a timer takes on. -/
def takeTimer (s : Station) (k : TimerId) (c : ConnectorId) : EntryId × Station :=
  s.every "reconnect" (.check k c) (s.timer k).settings.initialDelay (s.timer k).settings.period

/-- When a start is not refused. -/
theorem startTimer_fst (s : Station) (k : TimerId) (c : ConnectorId) :
    (s.startTimer k c).1 = true ↔
      (s.timer k).isAutoConnect = true ∧ s.isTimerScheduled k = false ∧ s.agenda.isShutdown = false := by
  have hcancelled := s.isCancelled_every_eq "reconnect" (.check k c) (s.timer k).settings.initialDelay
    (s.timer k).settings.period
  unfold startTimer
  dsimp only
  rw [hcancelled]
  cases (s.timer k).isAutoConnect <;> cases s.isTimerScheduled k <;> cases s.agenda.isShutdown <;> simp

/-- A timer that was started has the task that it took on. -/
theorem startTimer_of_fst {c : ConnectorId} (hstart : (s.startTimer k c).1 = true) :
    (s.startTimer k c).2.timer k = { s.timer k with task := some (s.takeTimer k c).1 } ∧
      (s.startTimer k c).2.agenda = (s.takeTimer k c).2.agenda := by
  have hexists : k < s.floor.timers.size := by
    have hauto : (s.timer k).isAutoConnect = true := ((startTimer_fst s k c).mp hstart).1
    rw [Timer.isAutoConnect, Bool.and_eq_true, Bool.not_eq_true'] at hauto
    exact exists_of_frozen hauto.1
  unfold startTimer at hstart ⊢
  dsimp only at hstart ⊢
  split at hstart
  · cases hstart
  · rename_i hidle
    rw [if_neg hidle]
    unfold takeTimer
    rw [every_eq] at hstart ⊢
    split at hstart
    · cases hstart
    · rename_i hrefused
      rw [if_neg hrefused]
      exact ⟨timer_modifyTimer_self (s := s) hexists fun t => { t with task := some s.agenda.entries.size }, rfl⟩

/-- A start that is refused leaves its timer alone. -/
theorem timer_startTimer_of_refused {c : ConnectorId} (hstart : (s.startTimer k c).1 = false) :
    (s.startTimer k c).2.timer k = s.timer k := by
  unfold startTimer at hstart ⊢
  dsimp only at hstart ⊢
  split at hstart
  · rename_i hidle
    rw [if_pos hidle]
  · rename_i hidle
    rw [if_neg hidle]
    rw [every_eq] at hstart ⊢
    split at hstart
    · rename_i hrefused
      rw [if_pos hrefused]
      rfl
    · cases hstart

/-- What a deed of a timer makes of it. -/
inductive Deed.Makes (s : Station) (k : TimerId) : Deed → Timer → Prop
  | same (d : Deed) : Makes s k d (s.timer k)
  | start {c : ConnectorId} : c < s.floor.connectors.size → (s.startTimer k c).1 = true →
      Makes s k (.startTimer k c) { s.timer k with task := some (s.takeTimer k c).1 }
  | stop : Makes s k (.stopTimer k) { s.timer k with task := none }
  | off : (s.timer k).frozen = false →
      Makes s k (.setAutoConnect k false)
        { s.timer k with settings := { (s.timer k).settings with enabled := false }, task := none }
  | on : (s.timer k).frozen = false →
      Makes s k (.setAutoConnect k true)
        { s.timer k with settings := { (s.timer k).settings with enabled := true } }
  | pace (period : Span) : (s.timer k).frozen = false →
      Makes s k (.setTimerPeriod k period) { s.timer k with settings := { (s.timer k).settings with period } }
  | hold {n : Nat} : (s.timer k).handles ≤ n → Makes s k (.holdTimer k) { s.timer k with handles := n }
  | drop {n : Nat} : (k < s.floor.timers.size → n = (s.timer k).handles - 1) →
      Makes s k (.dropTimer k)
        { s.timer k with
          handles := n
          task := if n = 0 && !(s.timer k).inFlight then none else (s.timer k).task }

theorem makes_perform {d : Deed} (hd : d.timer? = some k) : d.Makes s k ((s.perform d).timer k) := by
  cases d with
  | startTimer k' c =>
    obtain rfl := Option.some.inj hd
    simp only [perform]
    split
    · rename_i hc
      cases hfst : (s.startTimer k' c).1 with
      | true => exact (startTimer_of_fst hfst).1 ▸ .start hc hfst
      | false => exact timer_startTimer_of_refused hfst ▸ .same _
    · exact .same _
  | stopTimer k' =>
    obtain rfl := Option.some.inj hd
    simp only [perform, timer_stopTimer]
    exact .stop
  | setAutoConnect k' on =>
    obtain rfl := Option.some.inj hd
    simp only [perform, timer_setAutoConnect]
    split
    · exact .same _
    · rename_i hfrozen
      cases on with
      | true => exact .on (Bool.eq_false_iff.mpr hfrozen)
      | false => exact .off (Bool.eq_false_iff.mpr hfrozen)
  | setTimerPeriod k' period =>
    obtain rfl := Option.some.inj hd
    simp only [perform, timer_setTimerPeriod]
    split
    · exact .same _
    · rename_i hfrozen
      exact .pace period (Bool.eq_false_iff.mpr hfrozen)
  | holdTimer k' =>
    obtain rfl := Option.some.inj hd
    obtain ⟨n, hle, heq⟩ := timer_holdTimer s k'
    simp only [perform, heq]
    exact .hold hle
  | dropTimer k' =>
    obtain rfl := Option.some.inj hd
    obtain ⟨n, hn, heq⟩ := timer_dropTimer s k'
    simp only [perform, heq]
    exact .drop hn
  | _ => cases hd

/-! ## Timers stay -/

theorem size_modifyTimer (s : Station) (k : TimerId) (g : Timer → Timer) :
    (s.modifyTimer k g).floor.timers.size = s.floor.timers.size := Array.size_modify

theorem size_stopTimer (s : Station) (k : TimerId) :
    (s.stopTimer k).2.floor.timers.size = s.floor.timers.size := by
  unfold stopTimer
  split
  · rfl
  · exact size_modifyTimer (s.cancel _) k _

/-- No timer is taken away. -/
theorem size_perform (s : Station) (d : Deed) : s.floor.timers.size ≤ (s.perform d).floor.timers.size := by
  cases hd : d.timer? with
  | none =>
    by_cases hadd : ∃ settings, d = .addTimer settings
    · obtain ⟨settings, rfl⟩ := hadd
      simp only [perform, Array.size_push]
      exact Nat.le_succ _
    · have hsame := timers_perform (s := s) hd fun settings heq => hadd ⟨settings, heq⟩
      exact Nat.le_of_eq (congrArg Array.size hsame).symm
  | some k =>
    refine Nat.le_of_eq (Eq.symm ?_)
    cases d with
    | startTimer k c =>
      simp only [perform, startTimer, every_eq]
      split
      · split
        · rfl
        · split
          · rfl
          · exact size_modifyTimer s k _
      · rfl
    | stopTimer k => exact size_stopTimer s k
    | setAutoConnect k on =>
      simp only [perform, setAutoConnect]
      split
      · rfl
      · split
        · exact size_modifyTimer s k _
        · exact (size_stopTimer _ k).trans (size_modifyTimer s k _)
    | setTimerPeriod k period =>
      simp only [perform, setTimerPeriod]
      split
      · rfl
      · exact size_modifyTimer s k _
    | holdTimer k => exact size_modifyTimer s k _
    | dropTimer k =>
      simp only [perform, dropTimer]
      split
      · exact (size_stopTimer _ k).trans (size_modifyTimer s k _)
      · exact size_modifyTimer s k _
    | _ => cases hd

/-- No deed makes another kind of timer of one that is there. -/
theorem frozen_perform (hk : k < s.floor.timers.size) (d : Deed) :
    ((s.perform d).timer k).frozen = (s.timer k).frozen := by
  by_cases hd : d.timer? = some k
  · have hmakes := makes_perform (s := s) hd
    generalize (s.perform d).timer k = t at hmakes ⊢
    cases hmakes <;> rfl
  · rcases timer_perform_of_ne hd with heq | ⟨hnew, -⟩
    · rw [heq]
    · exact absurd hnew (Nat.ne_of_lt hk)

theorem frozen_act (hk : k < s.floor.timers.size) (a : Act) :
    k < (s.act a).floor.timers.size ∧ ((s.act a).timer k).frozen = (s.timer k).frozen := by
  by_cases hdeed : ∃ d, a = .deed d
  · obtain ⟨d, rfl⟩ := hdeed
    exact ⟨Nat.lt_of_lt_of_le hk (size_perform s d), frozen_perform hk d⟩
  · have hleaves : s.floor.Leaves (s.act a).floor := leaves_act (not_exists.mp hdeed)
    exact ⟨Nat.lt_of_lt_of_le hk (Nat.le_of_eq hleaves.size.symm), (hleaves.left k).frozen⟩

theorem frozen_play (hk : k < s.floor.timers.size) (acts : List Act) :
    ((s.play acts).timer k).frozen = (s.timer k).frozen := by
  induction acts generalizing s with
  | nil => rfl
  | cons a as ih =>
    obtain ⟨hk', heq⟩ := frozen_act hk a
    exact (ih hk').trans heq

end Station

end Liveness
