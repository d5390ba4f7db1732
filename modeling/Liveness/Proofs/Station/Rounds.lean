import Liveness.Proofs.Agenda.OneShots
import Liveness.Proofs.Agenda.Rhythm
import Liveness.Proofs.Station.Visitors

/-!
# The rounds of the sweeper

As long as the clock only advances and no one stops the sweeper, its task is left
alone by all other work, and wakes up when its first round is due and one period after the
other (`roundAt`).  The invariant that is kept by every act is `Rounds`: the task waits for
the next round, and the clock, which comes to whole milliseconds, has not gone past it.
-/

namespace Liveness

/-! ## Work on time -/

namespace Cadence

/-- The period as a clock keeps it that waits no longer than it can. -/
def beat (period : Span) : Int := min period.nanos longestWait.nanos

theorem beat_nonneg (period : Span) : 0 ≤ beat period := Int.le_min.mpr ⟨Int.natCast_nonneg _, Int.natCast_nonneg _⟩

theorem dvd_beat {period : Span} (hwhole : 1000000 ∣ period.nanos) : (1000000 : Int) ∣ beat period := by
  rw [beat, Int.min_def]
  split
  · exact Int.natCast_dvd_natCast.mpr hwhole
  · decide

theorem within_after (now : Int) (delay : Span) : within now (delay.after now) = now + beat delay := by
  simp only [within, beat, Span.after]
  omega

theorem le_within (now : Int) (delay : Span) : now ≤ within now (delay.after now) := by
  have hbeat := beat_nonneg delay
  rw [within_after]
  omega

/-- Work that is ready while the clock has not gone past its waking up is on time. -/
theorem floorMilli_eq_of_isReady {due now : Int} (hready : isReady due now)
    (hnow : Instant.floorMilli now ≤ Instant.ceilMilli due) : Instant.floorMilli now = Instant.ceilMilli due := by
  have hle : due ≤ Instant.floorMilli now := of_decide_eq_true hready
  unfold Instant.ceilMilli Instant.floorMilli at *
  omega

/-- Work that is due at a whole millisecond is on time just then, if the clock comes to these. -/
theorem eq_of_isReady {due now : Int} (hready : isReady due now)
    (hnow : Instant.floorMilli now ≤ Instant.ceilMilli due) (hdue : 1000000 ∣ due) (hmilli : 1000000 ∣ now) :
    now = due := by
  have heq := floorMilli_eq_of_isReady hready hnow
  rwa [Instant.floorMilli_of_dvd hmilli, Instant.ceilMilli_of_dvd hdue] at heq

/-- Work that wakes up on time is not late by a whole period, nor by more than is tolerated. -/
theorem on_time {due now : Int} {period : Span} (hperiod : 1000000 ≤ period.nanos)
    (hnow : Instant.floorMilli now = Instant.ceilMilli due) :
    now ≤ tolerance.after due ∧ (Instant.floorMilli now - due) / period.nanos = 0 := by
  constructor
  · simp only [tolerance, Span.after, Span.nanos_ofMillis]
    unfold Instant.ceilMilli Instant.floorMilli at hnow
    omega
  · refine Int.ediv_eq_zero_of_lt ?_ ?_
    · rw [hnow]
      unfold Instant.ceilMilli Instant.floorMilli
      omega
    · rw [hnow]
      unfold Instant.ceilMilli Instant.floorMilli
      omega

/-- Work that wakes up on time serves one due instant. -/
theorem served_on_time {due now : Int} {period : Span} (hperiod : 1000000 ≤ period.nanos)
    (hnow : Instant.floorMilli now = Instant.ceilMilli due) : served due period now = [due] := by
  obtain ⟨htolerance, hnone⟩ := on_time hperiod hnow
  rw [served, if_pos htolerance, hnone]
  simp

/-- Work that runs at its due instant is due again one period later. -/
theorem next_on_time {now : Int} {period : Span} (hperiod : 1000000 ≤ period.nanos) (hmilli : 1000000 ∣ now) :
    next? now period now = some (now + beat period) := by
  have hnow : Instant.floorMilli now = Instant.ceilMilli now := by
    rw [Instant.floorMilli_of_dvd hmilli, Instant.ceilMilli_of_dvd hmilli]
  obtain ⟨htolerance, hnone⟩ := on_time hperiod hnow
  rw [next?, if_pos htolerance, hnone, ← within_after]
  simp [Span.after]

end Cadence

/-! ## What other work leaves alone -/

/-- A run cancels no more than the task of its own timer. -/
theorem Floor.task_of_mem_cancels {job : Job} {runs : List Run} {now : Int} {f : Floor} {j : EntryId}
    (hj : j ∈ (run job runs now f).2.cancels) : ∃ k, job.timer? = some k ∧ (f.timer k).task = some j := by
  cases job with
  | check k c =>
    simp only [run, check] at hj
    split at hj
    · rename_i t _ ht _
      split at hj
      · cases hj
      · split at hj
        · cases hj
        · split at hj
          · rename_i task htask
            obtain rfl := List.mem_singleton.mp hj
            exact ⟨k, rfl, by rw [timer_of_getElem? ht, htask]⟩
          · cases hj
        · cases hj
    · cases hj
  | dial k c number =>
    obtain ⟨f', hquiet, ⟨delay, attempt, heq⟩ | heq⟩ := dial_cases f now k c number
    · rw [run, heq] at hj
      cases hj
    · rw [run, heq] at hj
      exact ⟨k, rfl, (hquiet.tasks k).symm.trans (task_of_mem_release hj)⟩
  | answer k c number attempt =>
    obtain ⟨f', hquiet, heq⟩ := answer_eq f now k c number attempt
    rw [run, heq] at hj
    exact ⟨k, rfl, (hquiet.tasks k).symm.trans (task_of_mem_release hj)⟩
  | sweep | report | traffic | silence | probe | note => cases hj

/-- Work of the sweeper or of a simulation, which no one else takes away. -/
def Job.isSteady : Job → Bool
  | .sweep _ | .traffic _ | .silence _ => true
  | _ => false

namespace Timeline

variable {task : Option EntryId} {t : Timeline Job Floor} {i : EntryId} {e : Entry Job}

/-- A run of other work leaves steady work alone. -/
theorem steady_fulfil {a b : Agenda Job} {f : Floor} (h : Tended task a f) (he : a.entries[i]? = some e)
    (hsteady : e.job.isSteady) (hb : b.entries[i]? = some e) {job : Job} {runs : List Run} {now : Int} :
    (b.fulfil (Floor.run job runs now f).2).entries[i]? = some e := by
  obtain ⟨e', he', -, hsame, -⟩ := Agenda.kept_fulfil (Floor.run job runs now f).2 hb
  rw [he', hsame fun hmem => ?_]
  obtain ⟨k, -, hk⟩ := Floor.task_of_mem_cancels hmem
  obtain ⟨e'', c, he'', hjob⟩ := h.tasks k i hk
  obtain rfl := Option.some.inj (he.symm.trans he'')
  rw [hjob] at hsteady
  cases hsteady

theorem steady_runOnce (h : Tended task t.agenda t.host) (he : t.agenda.entries[i]? = some e)
    (hsteady : e.job.isSteady) {j : EntryId} (hne : j ≠ i) (due : Int) :
    (runOnce Floor.worker j t due).agenda.entries[i]? = some e := by
  refine runOnce_cases Floor.worker (P := fun t => t.agenda.entries[i]? = some e) due he fun e' _ _ => ?_
  refine steady_fulfil h he hsteady ?_
  rw [Agenda.modify, Array.getElem?_modify, if_neg hne, he]

theorem steady_wake (h : Tended task t.agenda t.host) (he : t.agenda.entries[i]? = some e)
    (hsteady : e.job.isSteady) {j : EntryId} (hne : j ≠ i) :
    (wake Floor.worker t j).agenda.entries[i]? = some e := by
  suffices Tended task (wake Floor.worker t j).agenda (wake Floor.worker t j).host ∧
      (wake Floor.worker t j).agenda.entries[i]? = some e from this.2
  refine wake_induction Floor.worker
    (P := fun t => Tended task t.agenda t.host ∧ t.agenda.entries[i]? = some e) ?_ ?_ ⟨h, he⟩
  · rintro t due ⟨h, he⟩
    exact ⟨tended_runOnce h j due, steady_runOnce h he hsteady hne due⟩
  · rintro t stage ⟨h, he⟩
    refine ⟨h.modify j (fun _ => ⟨rfl, rfl, rfl, id⟩) fun _ => Entry.isLive_of_restage, ?_⟩
    rwa [Agenda.modify, Array.getElem?_modify, if_neg hne]

theorem steady_beginNext (h : Tended task t.agenda t.host) (he : t.agenda.entries[i]? = some e)
    (hsteady : e.job.isSteady) : (beginNext Floor.worker t).agenda.entries[i]? = some e := by
  unfold beginNext
  split
  · exact he
  · rename_i job rest _
    exact steady_fulfil (b := { t.agenda with errands := rest }) h he hsteady he

end Timeline

namespace Station

def Deed.isStop : Deed → Bool
  | .stopSweeper => true
  | _ => false

/-- Steady work that a deed may stop. -/
def Deed.Stops : Deed → Job → Prop
  | .stopSweeper, .sweep _ => True
  | .stopSimulation n, .traffic k | .stopSimulation n, .silence k => n = k
  | _, _ => False

/-- Acts at which the sweeper is not stopped and no due instant is missed. -/
def Act.isCalm : Act → Bool
  | .deed d => !d.isStop
  | .time (.leap _) | .shutdown => false
  | _ => true

/-- Orders at which the clock only advances and the sweeper is not stopped. -/
def Order.isCalm : Order → Bool
  | .deed d => !d.isStop
  | .jump _ | .shutdown => false
  | _ => true

/-- Orders that move the clock by whole milliseconds, as all do but a jump by a part of one. -/
def Order.isWhole : Order → Bool
  | .jump amount => 1000000 ∣ amount.nanos
  | _ => true

variable {s : Station} {a : Act} {i : EntryId} {e : Entry Job}

theorem Order.Brings.isCalm {o : Order} (h : o.Brings a) (ho : o.isCalm) : a.isCalm := by
  cases h with
  | deed => exact ho
  | @time _ a hleap =>
    cases a with
    | wake | errand | clock => rfl
    | leap now => exact absurd rfl (hleap now)
  | leap | shutdown => cases ho
  | startAttempt | conclude => rfl

theorem Order.isWhole_of_isCalm {o : Order} (ho : o.isCalm) : o.isWhole := by
  cases o with
  | jump => cases ho
  | deed | settle | advance | shutdown | connect => rfl

theorem isCalm_acts {o : Order} (ho : o.isCalm) : ∀ a ∈ s.acts o, a.isCalm :=
  fun _ ha => (brings_of_mem_acts ha).isCalm ho

/-- A clock at a whole millisecond comes to whole milliseconds, as long as it does not leap. -/
theorem dvd_now_act (hmay : s.May a) (hleap : ∀ now, a ≠ .time (.leap now)) (hmilli : 1000000 ∣ s.now) :
    1000000 ∣ (s.act a).now := by
  by_cases hclock : ∃ now, a = .time (.clock now)
  · obtain ⟨now, rfl⟩ := hclock
    exact (Int.dvd_iff_dvd_of_dvd_sub hmay.2.1).mpr hmilli
  · rwa [now_act fun now => ⟨fun heq => hclock ⟨now, heq⟩, hleap now⟩]

theorem dvd_now_play {acts : List Act} (hacts : s.InTurn acts) (hleaps : ∀ now, .time (.leap now) ∉ acts)
    (hmilli : 1000000 ∣ s.now) : 1000000 ∣ (s.play acts).now := by
  induction acts generalizing s with
  | nil => exact hmilli
  | cons a as ih =>
    exact ih hacts.2 (fun now hmem => hleaps now (List.mem_cons_of_mem a hmem))
      (dvd_now_act hacts.1 (fun now heq => hleaps now (heq ▸ List.mem_cons_self)) hmilli)

theorem dvd_now_obey (hs : s.timeline.Rests) {o : Order} (ho : o.isWhole) (hmilli : 1000000 ∣ s.now) :
    1000000 ∣ (s.obey o).now := by
  by_cases hjump : ∃ amount, o = .jump amount
  · obtain ⟨amount, rfl⟩ := hjump
    have hamount : 1000000 ∣ amount.nanos := of_decide_eq_true ho
    have hnow : (s.obey (.jump amount)).now = amount.after s.now := by
      change (Timeline.settle Floor.worker _).agenda.now = _
      rw [Timeline.now_settle]
      change amount.after (Timeline.settle Floor.worker _).agenda.now = _
      rw [Timeline.now_settle]
      rfl
    rw [hnow]
    exact Int.dvd_add hmilli (Int.natCast_dvd_natCast.mpr hamount)
  · rw [← play_acts]
    refine dvd_now_play (inTurn_acts hs o).1 (fun now hmem => ?_) hmilli
    cases brings_of_mem_acts hmem with
    | time hleap => exact hleap now rfl
    | leap amount => exact hjump ⟨amount, rfl⟩

/-- Where the clock moves by whole milliseconds only, it stands at one between orders. -/
theorem dvd_now_after {orders : List Order} (horders : ∀ o ∈ orders, o.isWhole) (hs : s.timeline.Rests)
    (hmilli : 1000000 ∣ s.now) : 1000000 ∣ (s.after orders).now := by
  induction orders generalizing s with
  | nil => exact hmilli
  | cons o os ih =>
    exact ih (fun o' ho' => horders o' (List.mem_cons_of_mem o ho')) (inTurn_acts hs o).2
      (dvd_now_obey hs (horders o List.mem_cons_self) hmilli)

theorem dvd_now_of_opened (settings : SweepSettings) (walk : Walk) {orders : List Order}
    (horders : ∀ o ∈ orders, o.isWhole) : 1000000 ∣ ((opened settings walk).after orders).now :=
  dvd_now_after horders (rests_opened settings walk) (Int.dvd_zero _)

theorem sweeper_every (s : Station) (name : String) (job : Job) (delay period : Span) :
    (s.every name job delay period).2.sweeper = s.sweeper := by
  rw [every_eq]

theorem sweeper_stopTimer (s : Station) (k : TimerId) : (s.stopTimer k).2.sweeper = s.sweeper := by
  unfold stopTimer
  split <;> rfl

/-- Other deeds leave the sweeper alone. -/
theorem sweeper_perform_of_not_isOfSweeper {d : Deed} (hd : d.isOfSweeper = false) :
    (s.perform d).sweeper = s.sweeper := by
  cases d with
  | startSweeper | stopSweeper | setSweeper => cases hd
  | every name touches panicsAt delay period => exact sweeper_every s name _ delay period
  | cancel i =>
    simp only [perform]
    split <;> rfl
  | startReporter interval loads => exact sweeper_every _ "stats" _ interval interval
  | startSimulation plan =>
    obtain ⟨hub, sim, -, -, heq⟩ := s.startSimulation_eq plan
    rw [perform, heq]
  | stopSimulation i =>
    simp only [perform, stopSimulation]
    split <;> rfl
  | startTimer k c =>
    simp only [perform, startTimer]
    split
    · split
      · rfl
      · have hevery := sweeper_every s "reconnect" (.check k c) (s.timer k).settings.initialDelay
          (s.timer k).settings.period
        split
        · exact hevery
        · exact hevery
    · rfl
  | stopTimer k => exact sweeper_stopTimer s k
  | setAutoConnect k on =>
    simp only [perform, setAutoConnect]
    split
    · rfl
    · split
      · rfl
      · exact sweeper_stopTimer _ k
  | setTimerPeriod k period =>
    simp only [perform, setTimerPeriod]
    split <;> rfl
  | dropTimer k =>
    simp only [perform, dropTimer]
    split
    · exact sweeper_stopTimer _ k
    · rfl
  | onHub | sweepNow | once | note | addTimer | holdTimer | addConnector | setConnected => rfl

/-- While the sweeper runs nothing but its stop changes it. -/
theorem sweeper_perform (hs : s.isSweeping) {d : Deed} (hd : d.isStop = false) :
    (s.perform d).sweeper = s.sweeper := by
  cases hown : d.isOfSweeper with
  | false => exact sweeper_perform_of_not_isOfSweeper hown
  | true =>
    cases d with
    | startSweeper => simp only [perform, startSweeper, hs, if_true]
    | stopSweeper => cases hd
    | setSweeper settings =>
      simp only [perform, setSweeper, hs, if_true]
      cases settings.validate <;> rfl
    | _ => cases hown

/-- An entry runs in no act but its own waking up, and if it is not cancelled it stays as it is. -/
theorem still_act (he : s.agenda.entries[i]? = some e) (hne : a ≠ .time (.wake i)) :
    ∃ e', (s.act a).agenda.entries[i]? = some e' ∧ e.Still e' ∧ (e'.cancelled = false → e' = e) := by
  have hkept : ∀ {e' : Entry Job}, e.Kept e' → e.Still e' ∧ (e'.cancelled = false → e' = e) := by
    intro e' hkept
    refine ⟨hkept.still, fun hc => ?_⟩
    rcases hkept with rfl | rfl
    · rfl
    · cases hc
  cases a with
  | deed d =>
    obtain ⟨e', he', hk, -⟩ := (grows_perform s d).old he
    exact ⟨e', he', hkept hk⟩
  | time a =>
    obtain ⟨e', he', hk⟩ := Timeline.kept_act (w := Floor.worker) (t := s.timeline) he
      (a := a) fun heq => hne (by rw [heq])
    exact ⟨e', he', hkept hk⟩
  | shutdown =>
    refine ⟨{ e with cancelled := true, stage := .ended }, ?_, .stop e, nofun⟩
    change (s.agenda.entries.map fun e : Entry Job => { e with cancelled := true, stage := .ended })[i]? = _
    rw [Array.getElem?_map, he]
    rfl
  | startAttempt | conclude => exact ⟨e, he, hkept (.refl e)⟩

/-- Only its own stop cancels steady work. -/
theorem not_drops (h : s.IsTended) (he : s.agenda.entries[i]? = some e) (hsteady : e.job.isSteady) {d : Deed}
    (hd : ¬d.Stops e.job) : ¬d.Drops s i := by
  have htimer : ∀ k, (s.timer k).task ≠ some i := by
    intro k hk
    obtain ⟨e', c, he', hjob⟩ := h.tasks k i hk
    obtain rfl := Option.some.inj (he.symm.trans he')
    rw [hjob] at hsteady
    cases hsteady
  cases d with
  | stopSweeper =>
    intro htask
    obtain ⟨e', limit, he', hjob⟩ := h.sweeper i htask
    obtain rfl := Option.some.inj (he.symm.trans he')
    exact hd (hjob ▸ trivial)
  | cancel j =>
    rintro ⟨rfl, hfree⟩
    simp only [isFree, he] at hfree
    split at hfree
    · rename_i hjob
      rw [hjob] at hsteady
      cases hsteady
    · rename_i hjob
      rw [hjob] at hsteady
      cases hsteady
    · cases hfree
  | stopSimulation n =>
    rintro ⟨sim, hsim, hi⟩
    obtain ⟨⟨e₁, he₁, hjob₁⟩, e₂, he₂, hjob₂⟩ := h.simulations n sim hsim
    rcases hi with rfl | rfl
    · obtain rfl := Option.some.inj (he.symm.trans he₁)
      exact hd (hjob₁ ▸ rfl)
    · obtain rfl := Option.some.inj (he.symm.trans he₂)
      exact hd (hjob₂ ▸ rfl)
  | stopTimer k | setAutoConnect k | dropTimer k => exact htimer k
  | onHub | sweepNow | startSweeper | setSweeper | every | once | note | startReporter | startSimulation
  | addTimer | startTimer | setTimerPeriod | holdTimer | addConnector | setConnected => exact id

/-- Steady work that is neither stopped nor shut down is left alone, but for its own waking up. -/
theorem steady_act (h : s.IsTended) (he : s.agenda.entries[i]? = some e) (hsteady : e.job.isSteady)
    (hup : a ≠ .shutdown) (hstops : ∀ d, a = .deed d → ¬d.Stops e.job) (hne : a ≠ .time (.wake i)) :
    (s.act a).agenda.entries[i]? = some e := by
  cases a with
  | deed d =>
    obtain ⟨e', he', -, hsame⟩ := (grows_perform s d).old he
    rw [← hsame (not_drops h he hsteady (hstops d rfl))]
    exact he'
  | time a =>
    cases a with
    | wake j => exact Timeline.steady_wake (t := s.timeline) h he hsteady fun heq => hne (by rw [heq])
    | errand => exact Timeline.steady_beginNext (t := s.timeline) h he hsteady
    | clock now | leap now => exact he
  | shutdown => exact absurd rfl hup
  | startAttempt | conclude => exact he

/-- The sweeper and its task at work. -/
structure Works (i : EntryId) (e : Entry Job) (s : Station) : Prop where
  task : s.sweeper.task = some i
  entry : s.agenda.entries[i]? = some e
  job : e.job = .sweep s.sweeper.settings.expireAfter
  period : e.period = some s.sweeper.settings.interval
  cancelled : e.cancelled = false

theorem Works.isSweeping (hs : Works i e s) : s.isSweeping := by
  simp [Station.isSweeping, isScheduled, hs.task, Agenda.isCancelled, hs.entry, hs.cancelled]

/-- Calm acts leave the sweeper and its task alone, but for a wake of the task. -/
theorem works_act (hs : Works i e s) (h : s.IsTended) (ha : a.isCalm) (hne : a ≠ .time (.wake i)) :
    Works i e (s.act a) ∧ (s.act a).sweeper = s.sweeper := by
  have hstop : ∀ d, a = .deed d → d.isStop = false := by
    rintro d rfl
    simpa [Act.isCalm] using ha
  have hentry : (s.act a).agenda.entries[i]? = some e := by
    refine steady_act h hs.entry (hs.job ▸ rfl) ?_ ?_ hne
    · rintro rfl
      cases ha
    · rintro d rfl hstops
      rw [hs.job] at hstops
      cases d with
      | stopSweeper => cases hstop _ rfl
      | _ => exact hstops
  have hsweeper : (s.act a).sweeper = s.sweeper := by
    cases a with
    | deed d => exact sweeper_perform hs.isSweeping (hstop d rfl)
    | time | shutdown | startAttempt | conclude => rfl
  exact ⟨⟨hsweeper ▸ hs.task, hentry, hsweeper ▸ hs.job, hsweeper ▸ hs.period, hs.cancelled⟩, hsweeper⟩

/-! ## One round after the other -/

theorem request_of_isSteady {job : Job} (hsteady : job.isSteady) (runs : List Run) (now : Int) (f : Floor) :
    (Floor.run job runs now f).2 = {} := by
  cases job with
  | sweep | traffic | silence => rfl
  | report | check | dial | answer | probe | note => cases hsteady

/-- Steady work that wakes up for one due instant runs once, and all other work stays as it is. -/
theorem wake_steady (he : s.agenda.entries[i]? = some e) (hsteady : e.job.isSteady) {due : Int}
    (hdue : e.due? = some due) {stage : Stage} (hplan : e.plan due s.now = ([due], stage)) :
    s.runs i = [(s, s.runOnce i due)] ∧
      s.act (.time (.wake i)) =
        { s with
          agenda := (s.agenda.modify i (·.ran due s.now false)).modify i (·.restage stage)
          floor := (Floor.run e.job e.runs s.now s.floor).1 } := by
  constructor
  · simp only [runs, he, hdue, hplan, runsOf]
  · have hentry : s.timeline.agenda.entries[i]? = some e := he
    have hasks : (Floor.worker.run e.job e.runs s.timeline.agenda.now s.timeline.host).2 = {} :=
      request_of_isSteady hsteady _ _ _
    have hwake : Timeline.wake Floor.worker s.timeline i =
        { agenda := (s.agenda.modify i (·.ran due s.now false)).modify i (·.restage stage)
          host := (Floor.run e.job e.runs s.now s.floor).1 } := by
      rw [Timeline.wake_of_due Floor.worker hentry hdue, show s.timeline.agenda.now = s.now from rfl, hplan,
        List.foldl_cons, List.foldl_nil, Timeline.runOnce_of_live Floor.worker hentry (Entry.isLive_of_due? hdue),
        hasks, Agenda.fulfil_nothing _ rfl rfl rfl]
      rfl
    change Station.mk (Timeline.wake Floor.worker s.timeline i).agenda (Timeline.wake Floor.worker s.timeline i).host
      s.sweeper = _
    rw [hwake]

/-- The sweeper's task wakes up on time: it sweeps once, and waits for its next round. -/
theorem works_wake (hs : Works i e s) (hdue : e.stage = .waiting s.now) (hmilli : 1000000 ∣ s.now)
    (hperiod : 1000000 ≤ s.sweeper.settings.interval.nanos) :
    s.visits (.time (.wake i)) = [(.schedule, .sweep s.now s.sweeper.settings.expireAfter)] ∧
      (s.act (.time (.wake i))).now = s.now ∧
      ∃ e', Works i e' (s.act (.time (.wake i))) ∧
        e'.stage = .waiting (s.now + Cadence.beat s.sweeper.settings.interval) := by
  have hontime : Instant.floorMilli s.now = Instant.ceilMilli s.now := by
    rw [Instant.floorMilli_of_dvd hmilli, Instant.ceilMilli_of_dvd hmilli]
  have hwaits : e.due? = some s.now := Entry.due?_eq_some.mpr ⟨hs.cancelled, hdue⟩
  have hlive : e.isLive := Entry.isLive_of_due? hwaits
  have hplan : e.plan s.now s.now = ([s.now], .waiting (s.now + Cadence.beat s.sweeper.settings.interval)) := by
    simp only [Entry.plan, hs.period, Cadence.next_on_time hperiod hmilli, Cadence.served_on_time hperiod hontime]
  obtain ⟨hruns, hact⟩ := wake_steady hs.entry (hs.job ▸ rfl) hwaits hplan
  rw [hact]
  refine ⟨?_, rfl, (e.ran s.now s.now false).restage (.waiting (s.now + Cadence.beat s.sweeper.settings.interval)),
    ?_, ?_⟩
  · simp only [visits, hruns, List.flatMap_cons, List.flatMap_nil, List.append_nil, runVisits, hs.entry, hlive, if_true,
      hs.job, Floor.visits]
  · refine ⟨hs.task, ?_, hs.job, hs.period, hs.cancelled⟩
    simp only [Agenda.modify, Array.getElem?_modify, if_true, hs.entry, Option.map_some]
  · have hran : (e.ran s.now s.now false).isLive := hlive
    simp only [Entry.restage, hran, if_true]

/-- When a schedule comes to its rounds, the first of which is due at some instant. -/
def roundAt (first : Int) (period : Span) (k : Nat) : Int := first + k * Cadence.beat period

/-- The sweeper has made some rounds and waits for the next one, while the clock comes to whole milliseconds. -/
structure Rounds (i : EntryId) (first : Int) (n : Nat) (s : Station) : Prop where
  works : ∃ e, Works i e s ∧ e.stage = .waiting (roundAt first s.sweeper.settings.interval n)
  past : ∀ k < n, roundAt first s.sweeper.settings.interval k ≤ s.now
  next : s.now ≤ roundAt first s.sweeper.settings.interval n
  milli : 1000000 ∣ s.now

/-- The sweeps of the schedule among the calls of a history. -/
def scheduled (history : List (Source × Hub.Call)) : List Hub.Call :=
  history.filterMap fun v => if v.1 = .schedule then some v.2 else none

theorem scheduled_append (as bs : List (Source × Hub.Call)) :
    scheduled (as ++ bs) = scheduled as ++ scheduled bs := List.filterMap_append

/-- The sweep of a round. -/
def roundCall (first : Int) (settings : SweepSettings) (k : Nat) : Hub.Call :=
  (roundAt first settings.interval k, .sweep (roundAt first settings.interval k) settings.expireAfter)

variable {first : Int} {n : Nat}

theorem roundAt_zero (first : Int) (period : Span) : roundAt first period 0 = first := by simp [roundAt]

theorem roundAt_le {period : Span} {j k : Nat} (hjk : j ≤ k) : roundAt first period j ≤ roundAt first period k := by
  have hmul := Int.mul_le_mul_of_nonneg_right (Int.ofNat_le.mpr hjk) (Cadence.beat_nonneg period)
  unfold roundAt
  omega

theorem roundAt_succ (first : Int) (period : Span) (k : Nat) :
    roundAt first period (k + 1) = roundAt first period k + Cadence.beat period := by
  unfold roundAt
  rw [Int.natCast_add, Int.add_mul, Int.natCast_one, Int.one_mul, Int.add_assoc]

theorem dvd_roundAt {period : Span} (hwhole : 1000000 ∣ period.nanos) (hfirst : 1000000 ∣ first) (k : Nat) :
    1000000 ∣ roundAt first period k :=
  Int.dvd_add hfirst (Int.dvd_mul_of_dvd_right (Cadence.dvd_beat hwhole))

/-- Only the sweeper's task sweeps by the schedule. -/
theorem scheduled_of_ne (h : s.IsTended) (htask : s.sweeper.task = some i) (hne : a ≠ .time (.wake i)) :
    scheduled ((s.visits a).map fun v => (v.1, s.now, v.2)) = [] := by
  refine List.filterMap_eq_nil_iff.mpr fun w hw => ?_
  obtain ⟨v, hv, rfl⟩ := List.mem_map.mp hw
  refine if_neg fun hsource => ?_
  cases apt_of_mem_visits h hv with
  | schedule j limit hwake htask' =>
    obtain rfl := Option.some.inj (htask.symm.trans htask')
    exact hne hwake
  | caller | command | service => cases hsource

/-- Every calm act in its turn keeps the sweeper to its rounds. -/
theorem rounds_act (hr : Rounds i first n s) (h : s.IsTended) (hmay : s.May a) (ha : a.isCalm)
    (hperiod : 1000000 ≤ s.sweeper.settings.interval.nanos)
    (hwhole : 1000000 ∣ s.sweeper.settings.interval.nanos) (hfirst : 1000000 ∣ first) :
    (s.act a).sweeper = s.sweeper ∧ ∃ m, Rounds i first (n + m) (s.act a) ∧
      scheduled ((s.visits a).map fun v => (v.1, s.now, v.2)) =
        (List.range m).map fun k => roundCall first s.sweeper.settings (n + k) := by
  obtain ⟨⟨e, hworks, hdue⟩, hpast, hnext, hmilli⟩ := hr
  have hround : 1000000 ∣ roundAt first s.sweeper.settings.interval n := dvd_roundAt hwhole hfirst n
  have hwaits : s.timeline.Waits i (roundAt first s.sweeper.settings.interval n) :=
    ⟨e, hworks.entry, Entry.due?_eq_some.mpr ⟨hworks.cancelled, hdue⟩⟩
  by_cases hwake : a = .time (.wake i)
  · subst hwake
    have hnow : s.now = roundAt first s.sweeper.settings.interval n := by
      refine Cadence.eq_of_isReady (hmay _ hwaits) ?_ hround hmilli
      rw [Instant.floorMilli_of_dvd hmilli, Instant.ceilMilli_of_dvd hround]
      exact hnext
    obtain ⟨hvisits, hsame, e', hworks', hdue'⟩ := works_wake hworks (hnow ▸ hdue) hmilli hperiod
    refine ⟨rfl, 1, ⟨⟨e', hworks', ?_⟩, fun k hk => ?_, ?_, hsame ▸ hmilli⟩, ?_⟩
    · rw [hdue', roundAt_succ, hnow]
      rfl
    · rw [hsame, hnow]
      exact roundAt_le (Nat.le_of_lt_succ hk)
    · rw [hsame, hnow]
      exact roundAt_le (Nat.le_succ n)
    · rw [hvisits, hnow]
      rfl
  · obtain ⟨hworks', hsweeper⟩ := works_act hworks h ha hwake
    refine ⟨hsweeper, 0, ⟨⟨e, hworks', hsweeper ▸ hdue⟩, fun k hk => ?_, ?_, ?_⟩, ?_⟩
    · rw [hsweeper]
      exact Int.le_trans (hpast k hk) (now_le_act hmay)
    · rw [hsweeper, Nat.add_zero]
      by_cases hclock : ∃ now, a = .time (.clock now)
      · obtain ⟨now, rfl⟩ := hclock
        have hdvd : 1000000 ∣ now := (Int.dvd_iff_dvd_of_dvd_sub hmay.2.1).mpr hmilli
        have hle := hmay.2.2.2 i _ hwaits
        rwa [Instant.floorMilli_of_dvd hdvd, Instant.ceilMilli_of_dvd hround] at hle
      · rw [now_act fun now => ⟨fun heq => hclock ⟨now, heq⟩, fun heq => by rw [heq] at ha; cases ha⟩]
        exact hnext
    · exact dvd_now_act hmay (fun now heq => by rw [heq] at ha; cases ha) hmilli
    · exact scheduled_of_ne h hworks.task hwake

theorem rounds_play {acts : List Act} (hacts : s.InTurn acts) (hcalm : ∀ a ∈ acts, a.isCalm) (h : s.IsTended)
    (hr : Rounds i first n s) (hperiod : 1000000 ≤ s.sweeper.settings.interval.nanos)
    (hwhole : 1000000 ∣ s.sweeper.settings.interval.nanos) (hfirst : 1000000 ∣ first) :
    (s.play acts).sweeper = s.sweeper ∧ ∃ m, Rounds i first (n + m) (s.play acts) ∧
      scheduled (s.history acts) = (List.range m).map fun k => roundCall first s.sweeper.settings (n + k) := by
  induction acts generalizing s n with
  | nil => exact ⟨rfl, 0, hr, rfl⟩
  | cons a as ih =>
    obtain ⟨hsweeper, m, hr', hvisits⟩ := rounds_act hr h hacts.1 (hcalm a List.mem_cons_self) hperiod hwhole hfirst
    obtain ⟨hsweeper', m', hr'', hrest⟩ := ih hacts.2 (fun b hb => hcalm b (List.mem_cons_of_mem a hb))
      (tended_act hacts.1 h) hr' (hsweeper ▸ hperiod) (hsweeper ▸ hwhole)
    refine ⟨hsweeper'.trans hsweeper, m + m', Nat.add_assoc n m m' ▸ hr'', ?_⟩
    rw [history, scheduled_append, hvisits, hrest, hsweeper, List.range_add, List.map_append, List.map_map]
    congr 1
    refine List.map_congr_left fun k _ => ?_
    rw [Function.comp_apply, Nat.add_assoc n m k]

/-- A sweeper whose first round is past the end of the clock never sweeps. -/
def Halts (i : EntryId) (s : Station) : Prop := ∃ e, Works i e s ∧ e.stage = .ended

theorem halts_act (hs : Halts i s) (h : s.IsTended) (ha : a.isCalm) :
    (s.act a).sweeper = s.sweeper ∧ Halts i (s.act a) ∧
      scheduled ((s.visits a).map fun v => (v.1, s.now, v.2)) = [] := by
  obtain ⟨e, hworks, hended⟩ := hs
  have hdue : e.due? = none := by simp [Entry.due?, hworks.cancelled, hended]
  by_cases hwake : a = .time (.wake i)
  · subst hwake
    have hsame : Timeline.wake Floor.worker s.timeline i = s.timeline := by
      refine Timeline.wake_of_not_waits Floor.worker ?_
      rintro due ⟨e', he', hdue'⟩
      obtain rfl := Option.some.inj (hworks.entry.symm.trans he')
      cases hdue.symm.trans hdue'
    refine ⟨rfl, ⟨e, ⟨hworks.task, ?_, hworks.job, hworks.period, hworks.cancelled⟩, hended⟩, ?_⟩
    · change (Timeline.wake Floor.worker s.timeline i).agenda.entries[i]? = some e
      rw [hsame]
      exact hworks.entry
    · simp only [visits, runs, hworks.entry, hdue]
      rfl
  · obtain ⟨hworks', hsweeper⟩ := works_act hworks h ha hwake
    exact ⟨hsweeper, ⟨e, hworks', hended⟩, scheduled_of_ne h hworks.task hwake⟩

theorem halts_play {acts : List Act} (hacts : s.InTurn acts) (hcalm : ∀ a ∈ acts, a.isCalm) (h : s.IsTended)
    (hs : Halts i s) :
    (s.play acts).sweeper = s.sweeper ∧ Halts i (s.play acts) ∧ scheduled (s.history acts) = [] := by
  induction acts generalizing s with
  | nil => exact ⟨rfl, hs, rfl⟩
  | cons a as ih =>
    obtain ⟨hsweeper, hs', hvisits⟩ := halts_act hs h (hcalm a List.mem_cons_self)
    obtain ⟨hsweeper', hs'', hrest⟩ :=
      ih hacts.2 (fun b hb => hcalm b (List.mem_cons_of_mem a hb)) (tended_act hacts.1 h) hs'
    refine ⟨hsweeper'.trans hsweeper, hs'', ?_⟩
    rw [history, scheduled_append, hvisits, hrest]
    rfl

end Station

end Liveness
