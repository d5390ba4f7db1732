import Liveness.Proofs.Station.Run

/-!
# Orders in their turn

What each deed takes on and cancels on the agenda, and that all the acts of a run
come in their turn: no errand is left to begin between two orders, and time moves
only past instants at which everything that is ready has been done.
-/

namespace Liveness

theorem Span.pos_of_isZero {s : Span} (h : s.isZero = false) : 0 < s.nanos :=
  Nat.pos_of_ne_zero (by simpa [Span.isZero] using h)

namespace Floor

/-- Only the start of an attempt waits for something. -/
theorem waits_run {job : Job} {runs : List Run} {now : Int} {f : Floor} {x : Option Span × Job}
    (hx : x ∈ (run job runs now f).2.waits) :
    ∃ i c number attempt, job = .dial i c number ∧ x.2 = .answer i c number attempt ∧
      ∀ d, x.1 = some d → 0 < d.nanos := by
  cases job with
  | dial i c number =>
    refine ⟨i, c, number, (f.startAttempt now c).1, rfl, ?_⟩
    simp only [run, dial] at hx
    split at hx
    · obtain rfl := List.mem_singleton.mp hx
      exact ⟨rfl, fun d hd => by cases hd⟩
    · split at hx
      · cases hx
      · rename_i hzero
        obtain rfl := List.mem_singleton.mp hx
        exact ⟨rfl, fun d hd => Option.some.inj hd ▸ Span.pos_of_isZero (Bool.eq_false_iff.mpr hzero)⟩
  | check i c =>
    simp only [run, check] at hx
    split at hx
    · split at hx
      · cases hx
      · split at hx
        · cases hx
        · split at hx <;> cases hx
        · cases hx
    · cases hx
  | sweep | report | traffic | silence | answer | probe | note => cases hx

/-- Only a check asks for an errand, and that is an attempt. -/
theorem errands_run {job job' : Job} {runs : List Run} {now : Int} {f : Floor}
    (hjob : job' ∈ (run job runs now f).2.errands) :
    ∃ i c number, job = .check i c ∧ job' = .dial i c number := by
  cases job with
  | check i c =>
    simp only [run, check] at hjob
    split at hjob
    · split at hjob
      · cases hjob
      · split at hjob
        · cases hjob
        · split at hjob <;> cases hjob
        · exact ⟨i, c, _, rfl, List.mem_singleton.mp hjob⟩
    · cases hjob
  | dial i c number =>
    simp only [run, dial] at hjob
    split at hjob
    · cases hjob
    · split at hjob <;> cases hjob
  | sweep | report | traffic | silence | answer | probe | note => cases hjob

theorem orderly_worker : worker.Orderly where
  patient := fun job runs now f d job' hx => by
    obtain ⟨-, -, -, -, -, -, hpos⟩ := waits_run hx
    exact hpos d rfl
  terse := fun job runs now f job' hjob runs' now' f' => by
    obtain ⟨i, c, number, -, rfl⟩ := errands_run hjob
    refine List.eq_nil_iff_forall_not_mem.mpr fun job'' hjob'' => ?_
    obtain ⟨i', c', number', heq, -⟩ := errands_run hjob''
    cases heq

end Floor

namespace Station

/-! ## Deeds on the agenda -/

/-- The work that a deed takes on. -/
def Deed.Takes : Deed → Job → Prop
  | .startSweeper, job => ∃ limit, job = .sweep limit
  | .every _ touches panicsAt _ _, job | .once _ touches panicsAt _, job => job = .probe touches panicsAt
  | .note name _, job => job = .note name
  | .startReporter _ loads, job => ∃ k, job = .report k loads
  | .startSimulation _, job => ∃ i, job = .traffic i ∨ job = .silence i
  | .startTimer i c, job => job = .check i c
  | _, _ => False

/-- The entries that a deed may cancel. -/
def Deed.Drops (s : Station) : Deed → EntryId → Prop
  | .stopSweeper, j => s.sweeper.task = some j
  | .cancel i, j => i = j ∧ s.isFree i
  | .stopSimulation i, j => ∃ sim, s.floor.simulations[i]? = some sim ∧ (j = sim.traffic ∨ j = sim.silence)
  | .stopTimer i, j | .setAutoConnect i _, j | .dropTimer i, j => (s.timer i).task = some j
  | _, _ => False

variable {s : Station}

/-- The hub after recurring work was taken on: the log may mention its period. -/
def mention (s : Station) (name : String) (period : Span) : Hub :=
  if period.asPeriod = period then s.hub else s.hub.log s.now (.periodClamped name period)

/-- Recurring work is taken on under the next number. -/
theorem every_eq (s : Station) (name : String) (job : Job) (delay period : Span) :
    s.every name job delay period =
      (s.agenda.entries.size, { s with
        agenda := (s.agenda.add (s.agenda.recurring name job delay period)).2
        floor := { s.floor with hub := s.mention name period } }) := by
  unfold every mention
  split
  · rfl
  · rfl

/-- Recurring work is cancelled from the start after a shutdown only. -/
theorem isCancelled_every_eq (s : Station) (name : String) (job : Job) (delay period : Span) :
    (s.every name job delay period).2.agenda.isCancelled (s.every name job delay period).1 = s.agenda.isShutdown := by
  rw [every_eq, Agenda.isCancelled, Agenda.getElem?_add_size, Agenda.enrol]
  cases s.agenda.isShutdown <;> rfl

theorem timer_modifyTimer (s : Station) (i : TimerId) {f : Timer → Timer}
    (hf : ∀ t, (f t).task = t.task) : ((s.modifyTimer i f).timer i).task = (s.timer i).task := by
  simp only [timer, modifyTimer, Floor.modifyTimer, Array.getElem?_modify, if_true]
  cases s.floor.timers[i]? with
  | none => rfl
  | some t => exact hf t

variable {P : Job → Prop} {Q : EntryId → Prop}

theorem grows_every (s : Station) (name : String) {job : Job} (delay period : Span) (hjob : P job) :
    s.agenda.Grows P Q (s.every name job delay period).2.agenda := by
  rw [every_eq]
  exact (Agenda.grows_every s.agenda name job delay period).of_job hjob

theorem grows_startSweeper (s : Station) (hsweep : ∀ limit, P (.sweep limit)) :
    s.agenda.Grows P Q s.startSweeper.2.agenda := by
  unfold startSweeper
  split
  · exact .refl
  · dsimp only
    split
    · exact grows_every s _ _ _ (hsweep _)
    · exact grows_every s _ _ _ (hsweep _)

theorem grows_stopSweeper (s : Station) (htask : ∀ i, s.sweeper.task = some i → Q i) :
    s.agenda.Grows P Q s.stopSweeper.2.agenda := by
  unfold stopSweeper
  split
  · exact .refl
  · rename_i task hi
    dsimp only
    split
    · exact .cancel task .refl (htask task hi)
    · exact .cancel task .refl (htask task hi)

theorem grows_startTimer (s : Station) (k : TimerId) (c : ConnectorId) (hcheck : P (.check k c)) :
    s.agenda.Grows P Q (s.startTimer k c).2.agenda := by
  have hevery : s.agenda.Grows P Q (s.every "reconnect" (.check k c) (s.timer k).settings.initialDelay
      (s.timer k).settings.period).2.agenda := grows_every s _ _ _ hcheck
  unfold startTimer
  dsimp only
  split
  · exact .refl
  · split
    · exact hevery
    · exact hevery

theorem grows_stopTimer (s : Station) (k : TimerId) (htask : ∀ i, (s.timer k).task = some i → Q i) :
    s.agenda.Grows P Q (s.stopTimer k).2.agenda := by
  unfold stopTimer
  split
  · exact .refl
  · rename_i task hi
    exact .cancel task .refl (htask task hi)

/-- A timer is stopped after a change that keeps its task. -/
theorem grows_modifyTimer_stopTimer (s : Station) (k : TimerId) {g : Timer → Timer} (hg : ∀ t, (g t).task = t.task)
    (htask : ∀ i, (s.timer k).task = some i → Q i) :
    s.agenda.Grows P Q ((s.modifyTimer k g).stopTimer k).2.agenda := by
  refine grows_stopTimer (s.modifyTimer k g) k fun i hi => htask i ?_
  rwa [timer_modifyTimer s k hg] at hi

theorem grows_startSimulation (s : Station) (plan : SimulationPlan) (htraffic : ∀ n, P (.traffic n))
    (hsilence : ∀ n, P (.silence n)) : s.agenda.Grows P Q (s.startSimulation plan).2.agenda := by
  have hfirst := grows_every (P := P) (Q := Q) (s.onHub (openPeers · s.now plan.devices)).2 "sim-traffic"
    plan.interval plan.interval (htraffic s.floor.simulations.size)
  exact hfirst.trans ((Agenda.grows_once _ "sim-silence" _ plan.silenceAfter).of_job
    (hsilence s.floor.simulations.size))

/-- What a deed does to the agenda. -/
theorem grows_perform (s : Station) (d : Deed) :
    s.agenda.Grows d.Takes (d.Drops s) (s.perform d).agenda := by
  cases d with
  | startSweeper => exact grows_startSweeper s fun limit => ⟨limit, rfl⟩
  | stopSweeper => exact grows_stopSweeper s fun _ => id
  | setSweeper settings =>
    simp only [perform, setSweeper]
    cases settings.validate with
    | error e => exact .refl
    | ok u => cases s.isSweeping <;> exact .refl
  | every name touches panicsAt delay period => exact grows_every s name delay period rfl
  | once name touches panicsAt delay =>
    exact (Agenda.grows_once s.agenda name (.probe touches panicsAt) delay).of_job rfl
  | cancel i =>
    simp only [perform]
    split
    · rename_i hfree
      exact .cancel i .refl ⟨rfl, hfree⟩
    · exact .refl
  | note name delay => exact (Agenda.grows_wait s.agenda (.note name) (some delay)).of_job rfl
  | startReporter interval loads =>
    exact grows_every ((s.onHub Hub.addTally).2.log (.reporterStarted interval)) "stats" interval interval ⟨_, rfl⟩
  | startSimulation plan => exact grows_startSimulation s plan (fun n => ⟨n, .inl rfl⟩) fun n => ⟨n, .inr rfl⟩
  | stopSimulation i =>
    simp only [perform, stopSimulation]
    split
    · rename_i sim hsim
      exact .cancel sim.silence (.cancel sim.traffic .refl ⟨sim, hsim, .inl rfl⟩) ⟨sim, hsim, .inr rfl⟩
    · exact .refl
  | startTimer k c =>
    simp only [perform]
    split
    · exact grows_startTimer s k c rfl
    · exact .refl
  | stopTimer k => exact grows_stopTimer s k fun _ => id
  | setAutoConnect k on =>
    simp only [perform, setAutoConnect]
    split
    · exact .refl
    · split
      · exact .refl
      · exact grows_modifyTimer_stopTimer s k (fun _ => rfl) fun _ => id
  | setTimerPeriod k period =>
    simp only [perform, setTimerPeriod]
    split
    · exact .refl
    · exact .refl
  | dropTimer k =>
    simp only [perform, dropTimer]
    split
    · exact grows_modifyTimer_stopTimer s k (fun _ => rfl) fun _ => id
    · exact .refl
  | onHub | sweepNow | addTimer | holdTimer | addConnector | setConnected => exact .refl

/-! ## Turns -/

/-- An act that is in place: between orders no errand is left to begin. -/
def May (s : Station) : Act → Prop
  | .time a => s.timeline.May a
  | _ => s.agenda.errands = []

/-- Acts each of which is in place when its turn comes. -/
def InTurn : Station → List Act → Prop
  | _, [] => True
  | s, a :: as => s.May a ∧ InTurn (s.act a) as

theorem inTurn_append (s : Station) (as bs : List Act) :
    s.InTurn (as ++ bs) ↔ s.InTurn as ∧ (s.play as).InTurn bs := by
  induction as generalizing s with
  | nil => exact ⟨fun h => ⟨trivial, h⟩, fun h => h.2⟩
  | cons a as ih =>
    rw [List.cons_append]
    exact ⟨fun h => ⟨⟨h.1, ((ih _).mp h.2).1⟩, ((ih _).mp h.2).2⟩,
      fun h => ⟨h.1.1, (ih _).mpr ⟨h.1.2, h.2⟩⟩⟩

theorem inTurn_time {as : List Timeline.Act} (h : Timeline.InTurn Floor.worker s.timeline as) :
    s.InTurn (as.map .time) := by
  induction as generalizing s with
  | nil => trivial
  | cons a as ih => exact ⟨h.1, ih h.2⟩

/-- What holds before acts in their turn and is kept by each of them holds after them. -/
theorem play_induct {P : Station → Prop} (hact : ∀ s a, s.May a → P s → P (s.act a)) {acts : List Act}
    (hacts : s.InTurn acts) (hs : P s) : P (s.play acts) := by
  induction acts generalizing s with
  | nil => exact hs
  | cons a as ih => exact ih hacts.2 (hact s a hacts.1 hs)

theorem rests_perform (hs : s.timeline.Rests) (d : Deed) : (s.perform d).timeline.Rests :=
  hs.grows (grows_perform s d)

theorem rests_shutdown (hs : s.timeline.Rests) : (s.act .shutdown).timeline.Rests where
  errands := hs.errands
  paced := fun i e p he hp => by
    change (s.agenda.entries.map _)[i]? = some e at he
    rw [Array.getElem?_map] at he
    obtain ⟨e₀, he₀, rfl⟩ := Option.map_eq_some_iff.mp he
    exact hs.paced i e₀ p he₀ hp

theorem inTurn_advancing (hs : s.timeline.Rests) (amount : Span) :
    s.InTurn (s.advancing amount) ∧ (s.advance amount).timeline.Rests := by
  obtain ⟨hturn, -, hrests, -⟩ := Timeline.advance_spec Floor.orderly_worker hs amount
  exact ⟨inTurn_time hturn, hrests⟩

theorem inTurn_acts (hs : s.timeline.Rests) (o : Order) :
    s.InTurn (s.acts o) ∧ (s.obey o).timeline.Rests := by
  cases o with
  | deed d => exact ⟨⟨hs.errands, trivial⟩, rests_perform hs d⟩
  | settle =>
    exact ⟨inTurn_time (Timeline.inTurn_settleActs Floor.orderly_worker hs.paced),
      Timeline.rests_settle Floor.orderly_worker hs⟩
  | advance amount => exact inTurn_advancing hs amount
  | jump amount =>
    exact ⟨inTurn_time (Timeline.inTurn_jumpActs Floor.orderly_worker hs amount),
      Timeline.rests_jump Floor.orderly_worker hs amount⟩
  | shutdown =>
    have hstop : (s.act .shutdown).timeline.Rests := rests_shutdown hs
    exact ⟨⟨hs.errands, inTurn_time (Timeline.inTurn_settleActs Floor.orderly_worker hstop.paced)⟩,
      Timeline.rests_settle Floor.orderly_worker hstop⟩
  | connect c =>
    have hcalled : (s.act (.startAttempt c)).timeline.Rests := ⟨hs.paced, hs.errands⟩
    rw [← play_acts]
    simp only [acts]
    generalize (s.floor.startAttempt s.now c).1 = attempt
    split
    · exact ⟨⟨hs.errands, hs.errands, trivial⟩, hcalled.paced, hcalled.errands⟩
    · obtain ⟨hturn, hrests⟩ := inTurn_advancing hcalled (s.floor.startAttempt s.now c).2.1
      refine ⟨⟨hs.errands, (inTurn_append _ _ _).mpr ⟨hturn, ?_, trivial⟩⟩, ?_⟩
      · rw [play_advancing]
        exact hrests.errands
      · rw [play_cons, play_append, play_advancing]
        exact ⟨hrests.paced, hrests.errands⟩

theorem rests_opened (settings : SweepSettings) (walk : Walk := .byId) : (opened settings walk).timeline.Rests where
  errands := rfl
  paced := fun i e p he _ => by simp [timeline, opened] at he

/-- Between orders a station is at rest. -/
theorem rests_after (hs : s.timeline.Rests) (os : List Order) : (s.after os).timeline.Rests := by
  induction os generalizing s with
  | nil => exact hs
  | cons o os ih => exact ih (inTurn_acts hs o).2

theorem inTurn_plan (hs : s.timeline.Rests) (os : List Order) : s.InTurn (s.plan os) := by
  induction os generalizing s with
  | nil => trivial
  | cons o os ih =>
    obtain ⟨hturn, hrests⟩ := inTurn_acts hs o
    refine (inTurn_append _ _ _).mpr ⟨hturn, ?_⟩
    rw [play_acts]
    exact ih hrests

end Station

end Liveness
