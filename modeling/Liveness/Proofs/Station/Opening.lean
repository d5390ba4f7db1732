import Liveness.Proofs.Station.Course

/-!
# The start of a simulation

Where nothing is registered, no connection is up and a sweeper works, a simulation that is
started is at play (`playing_startSimulation`).  Its timetable is that of the work that it
takes on, with what the sweeper has yet to do.
-/

namespace Liveness.Station

variable {s s₀ : Station} {a : Act} {e : Entry Job} {job : Job} {start first now : Int} {p : Span} {n : Nat}

/-! ## Schedules -/

/-- The instants of recurring work that waits for its first one.  There are none if the clock ends before. -/
def roundsFrom (first : Int) (period : Span) (k : Nat) : Option Int :=
  if first < Cadence.clockEnd then some (roundAt first period k) else none

/-- The instant of work that is done once after a wait. -/
def onceFrom (start : Int) (delay : Span) : Nat → Option Int
  | 0 => some (Cadence.within start (delay.after start))
  | _ + 1 => none

theorem roundsFrom_eq_some {k : Nat} {t : Int} : roundsFrom first p k = some t ↔
    first < Cadence.clockEnd ∧ roundAt first p k = t := by
  rw [roundsFrom, Option.ite_none_right_eq_some, Option.some.injEq]

/-- Recurring work with a period of whole milliseconds keeps to its schedule, from any of its instants on. -/
theorem timely_recurring (hjob : e.job = job) (hperiod : e.period = some p) (hlong : 1000000 ≤ p.nanos)
    (hwhole : 1000000 ∣ p.nanos) (hfirst : 1000000 ∣ first) (hdue : e.due? = roundsFrom first p n)
    (hnext : ∀ t, roundsFrom first p n = some t → now ≤ t) :
    e.Timely job (fun k => roundsFrom first p (n + k)) 0 now := by
  refine ⟨hjob, hdue, hnext, fun k t ht => ?_, fun k t ht => ?_, fun k t t' ht ht' => ?_⟩
  · obtain ⟨-, rfl⟩ := roundsFrom_eq_some.mp ht
    exact dvd_roundAt hwhole hfirst _
  · obtain ⟨hreach, hround⟩ := roundsFrom_eq_some.mp ht
    have hmilli : 1000000 ∣ t := hround ▸ dvd_roundAt hwhole hfirst _
    have hnow : Instant.floorMilli t = Instant.ceilMilli t := by
      rw [Instant.floorMilli_of_dvd hmilli, Instant.ceilMilli_of_dvd hmilli]
    refine ⟨.waiting (t + Cadence.beat p), ?_, ?_⟩
    · simp only [Entry.plan, hperiod, Cadence.next_on_time hlong hmilli, Cadence.served_on_time hlong hnow]
    · rw [← Nat.add_assoc, roundsFrom, if_pos hreach, roundAt_succ, hround]
      rfl
  · obtain ⟨-, rfl⟩ := roundsFrom_eq_some.mp ht
    obtain ⟨-, rfl⟩ := roundsFrom_eq_some.mp ht'
    exact roundAt_le (by omega)

/-- Work that is done once keeps to its schedule. -/
theorem timely_once (hjob : e.job = job) (hperiod : e.period = none) {delay : Span}
    (hdue : e.due? = onceFrom start delay 0) (hwhole : 1000000 ∣ delay.nanos) (hstart : 1000000 ∣ start) :
    e.Timely job (onceFrom start delay) 0 start := by
  have hwait : Cadence.within start (delay.after start) = start + Cadence.beat delay :=
    Cadence.within_after start delay
  refine ⟨hjob, hdue, fun t ht => ?_, fun k t ht => ?_, fun k t ht => ?_, fun k t t' _ ht' => nomatch ht'⟩
  · obtain rfl := Option.some.inj ht
    exact Cadence.le_within start delay
  · cases k with
    | zero =>
      obtain rfl := Option.some.inj ht
      rw [hwait]
      exact Int.dvd_add hstart (Cadence.dvd_beat hwhole)
    | succ k => cases ht
  · exact ⟨.ended, by rw [Entry.plan, hperiod], rfl⟩

/-! ## The sweeper -/

/-- Only a shutdown shuts an agenda down. -/
theorem isShutdown_act (ha : a ≠ .shutdown) : (s.act a).agenda.isShutdown = s.agenda.isShutdown := by
  cases a with
  | deed d => exact (grows_perform s d).isShutdown
  | time a =>
    cases a with
    | wake i =>
      refine Timeline.wake_induction Floor.worker (t := s.timeline) (i := i)
        (P := fun t => t.agenda.isShutdown = s.agenda.isShutdown) (fun t due h => ?_) (fun _ _ h => h) rfl
      exact (Timeline.goes_runOnce Floor.orderly_worker t i due).isShutdown.trans h
    | errand =>
      change (Timeline.beginNext Floor.worker s.timeline).agenda.isShutdown = _
      unfold Timeline.beginNext
      split
      · rfl
      · exact Agenda.isShutdown_fulfil _ _
    | clock | leap => rfl
  | shutdown => exact absurd rfl ha
  | startAttempt | conclude => rfl

theorem isShutdown_play {acts : List Act} (hcalm : ∀ a ∈ acts, a.isCalm) :
    (s.play acts).agenda.isShutdown = s.agenda.isShutdown := by
  induction acts generalizing s with
  | nil => rfl
  | cons a as ih =>
    refine (ih fun b hb => hcalm b (List.mem_cons_of_mem a hb)).trans (isShutdown_act ?_)
    rintro rfl
    cases hcalm _ List.mem_cons_self

/-- A sweeper that was started with some station and has swept so often since. -/
structure Ready (s₀ : Station) (i : EntryId) (made : Nat) (s : Station) : Prop where
  task : s.sweeper.task = some i
  timely : ∃ e, s.agenda.entries[i]? = some e ∧ e.Timely (.sweep s.sweeper.settings.expireAfter)
    (fun k => roundsFrom s₀.firstRound s₀.sweeper.settings.interval (made + k)) 0 s.now
  ahead : s.Ahead i
  made : ∀ k, k < made ↔ s₀.firstRound < Cadence.clockEnd ∧
    roundAt s₀.firstRound s₀.sweeper.settings.interval k ≤ s.now
  isShutdown : s.agenda.isShutdown = false
  milli : 1000000 ∣ s.now

theorem ready_after (htended : s₀.IsTended) (hrests : s₀.timeline.Rests) (hstart : s₀.startSweeper.1 = true)
    (hlong : 1000000 ≤ s₀.sweeper.settings.interval.nanos) (hwhole : 1000000 ∣ s₀.sweeper.settings.interval.nanos)
    (hmilli : 1000000 ∣ s₀.now) {between : List Order} (hcalm : ∀ o ∈ between, o.isCalm) :
    ∃ i made, Ready s₀ i made (s₀.startSweeper.2.after between) := by
  have htended' : s₀.startSweeper.2.IsTended := tended_startSweeper htended
  have hrests' : s₀.startSweeper.2.timeline.Rests := rests_perform hrests .startSweeper
  have hfirst : 1000000 ∣ s₀.firstRound := dvd_firstRound hwhole hmilli
  obtain ⟨hsweeper, hnow, -, hup⟩ := start_spec hstart
  have hsettings : s₀.startSweeper.2.sweeper.settings = s₀.sweeper.settings := by rw [hsweeper]
  have hround : s₀.startSweeper.2.firstRound = s₀.firstRound := by rw [firstRound, hsettings, hnow, firstRound]
  obtain ⟨hkept, i, n, -, hplay⟩ :=
    play_start hstart htended hmilli hlong hwhole (inTurn_plan hrests' between) (isCalm_plan hcalm)
  have hup' : (s₀.startSweeper.2.after between).agenda.isShutdown = false := by
    rw [← play_plan, isShutdown_play (isCalm_plan hcalm)]
    exact hup
  have hmilli' : 1000000 ∣ (s₀.startSweeper.2.after between).now :=
    dvd_now_after (fun o ho => Order.isWhole_of_isCalm (hcalm o ho)) hrests' (hnow.symm ▸ hmilli)
  rw [play_plan] at hkept hplay
  have hsame : (s₀.startSweeper.2.after between).sweeper.settings = s₀.sweeper.settings := by rw [hkept, hsettings]
  split at hplay
  · rename_i hreach
    obtain ⟨hr₀, hr⟩ := hplay
    have hahead : (s₀.startSweeper.2.after between).Ahead i :=
      ahead_after hr₀ htended' hrests' (ahead_start (hround ▸ hr₀) (hsettings ▸ hlong)) (hsettings ▸ hlong)
        (hsettings ▸ hwhole) hfirst hcalm
    have hmade := lt_iff_roundAt_le hr hahead
    obtain ⟨⟨e, hworks, hdue⟩, -, hnext, -⟩ := hr
    rw [hsame] at hdue hnext hmade
    refine ⟨i, n, hworks.task, ⟨e, hworks.entry,
      timely_recurring hworks.job (hsame ▸ hworks.period) hlong hwhole hfirst ?_ fun t ht => ?_⟩, hahead,
      fun k => (hmade k).trans (and_iff_right hreach).symm, hup', hmilli'⟩
    · rw [Entry.due?_eq_some.mpr ⟨hworks.cancelled, hdue⟩, roundsFrom, if_pos hreach]
    · obtain ⟨-, rfl⟩ := roundsFrom_eq_some.mp ht
      exact hnext
  · rename_i hreach
    obtain ⟨rfl, e, hworks, hended⟩ := hplay
    have hdue : e.due? = none := by simp [Entry.due?, hworks.cancelled, hended]
    have hnone : ∀ k, roundsFrom s₀.firstRound s₀.sweeper.settings.interval k = none := fun k => if_neg hreach
    refine ⟨i, 0, hworks.task, ⟨e, hworks.entry,
      timely_recurring hworks.job (hsame ▸ hworks.period) hlong hwhole hfirst (hdue.trans (hnone 0).symm)
        fun t ht => ?_⟩, ?_,
      fun k => ⟨fun hk => absurd hk (Nat.not_lt_zero k), fun hk => absurd hk.1 hreach⟩, hup', hmilli'⟩
    · cases (hnone 0).symm.trans ht
    · rintro due ⟨e', he', hdue'⟩
      obtain rfl := Option.some.inj (hworks.entry.symm.trans he')
      cases hdue.symm.trans hdue'

/-! ## The start -/

/-- Nothing is registered and no connection is up, a bridge joins the two, and all work is aside but that of the
sweeper. -/
structure Vacant (s : Station) : Prop where
  devices : ∀ id, s.hub.registry.get? id = none
  slots : ∀ l, s.hub.slot? l = none
  bridge : ∃ w, Hub.IsBridge w s.hub
  peaceful : s.agenda.Peaceful fun i => s.sweeper.task = some i

/-- What matters to a simulation that is started, with what the sweeper has yet to do. -/
def scene (s : Station) (plan : SimulationPlan) (sweeps : Nat → Option Int) (sweep : EntryId) : Scene where
  start := s.hub
  simulation := s.floor.simulations.size
  devices := plan.devices
  silent := min plan.silent plan.devices
  limit := s.sweeper.settings.expireAfter
  timetable :=
    { born := s.now
      schedule := fun
        | .round => roundsFrom (plan.interval.after s.now) plan.interval
        | .hush => onceFrom s.now plan.silenceAfter
        | .sweep => sweeps }
  task := fun
    | .round => s.agenda.entries.size
    | .hush => s.agenda.entries.size + 1
    | .sweep => sweep

/-- The traffic of a simulation as it is taken on. -/
def trafficEntry (s : Station) (plan : SimulationPlan) : Entry Job :=
  s.agenda.recurring "sim-traffic" (.traffic s.floor.simulations.size) plan.interval plan.interval

/-- The silence of a simulation as it is taken on. -/
def silenceEntry (s : Station) (plan : SimulationPlan) : Entry Job :=
  { name := "sim-silence", job := .silence s.floor.simulations.size, stage := s.agenda.waitFor plan.silenceAfter }

theorem getElem?_startSimulation (hup : s.agenda.isShutdown = false) (plan : SimulationPlan) (j : EntryId) :
    (s.startSimulation plan).2.agenda.entries[j]? =
      if j = s.agenda.entries.size + 1 then some (s.silenceEntry plan)
      else if j = s.agenda.entries.size then some (s.trafficEntry plan)
      else s.agenda.entries[j]? := by
  obtain ⟨hub, sim, -, -, heq⟩ := s.startSimulation_eq plan
  have hentries : (s.startSimulation plan).2.agenda.entries =
      (s.agenda.entries.push (s.trafficEntry plan)).push (s.silenceEntry plan) := by
    simp only [heq, Agenda.once, Agenda.add, hup]
    rfl
  rw [hentries, Array.getElem?_push, Array.size_push, Array.getElem?_push]

theorem now_startSimulation (s : Station) (plan : SimulationPlan) : (s.startSimulation plan).2.now = s.now :=
  (grows_perform s (.startSimulation plan)).now

/-- The work that a simulation takes on, and that of the sweeper. -/
theorem getElem?_task {i : EntryId} {made : Nat} (hready : Ready s₀ i made s) (plan : SimulationPlan)
    (sweeps : Nat → Option Int) (kind : Pulse.Kind) :
    (s.startSimulation plan).2.agenda.entries[(s.scene plan sweeps i).task kind]? =
      match kind with
      | .round => some (s.trafficEntry plan)
      | .hush => some (s.silenceEntry plan)
      | .sweep => s.agenda.entries[i]? := by
  rw [getElem?_startSimulation hready.isShutdown]
  cases kind with
  | round => simp [scene]
  | hush => simp [scene]
  | sweep =>
    obtain ⟨e, he, -⟩ := hready.timely
    have hlt : i < s.agenda.entries.size := (Array.getElem?_eq_some_iff.mp he).1
    exact (if_neg (Nat.ne_of_lt (Nat.lt_succ_of_lt hlt))).trans (if_neg (Nat.ne_of_lt hlt))

theorem timely_silenceEntry {plan : SimulationPlan} (hwhole : 1000000 ∣ plan.silenceAfter.nanos)
    (hmilli : 1000000 ∣ s.now) : (s.silenceEntry plan).Timely (.silence s.floor.simulations.size)
      (onceFrom s.now plan.silenceAfter) 0 s.now :=
  timely_once (e := s.silenceEntry plan) rfl rfl rfl hwhole hmilli

section

variable {plan : SimulationPlan} (hlong : 1000000 ≤ plan.interval.nanos) (hwhole : 1000000 ∣ plan.interval.nanos)

include hlong hwhole

theorem timely_trafficEntry (hmilli : 1000000 ∣ s.now) : (s.trafficEntry plan).Timely
    (.traffic s.floor.simulations.size) (roundsFrom (plan.interval.after s.now) plan.interval) 0 s.now := by
  have hperiod : (s.trafficEntry plan).period = some plan.interval := by
    change some plan.interval.asPeriod = _
    rw [Span.asPeriod, if_neg (Nat.not_lt.mpr hlong)]
  have hfirst : 1000000 ∣ plan.interval.after s.now :=
    Int.dvd_add hmilli (Int.natCast_dvd_natCast.mpr hwhole)
  have hdue : (s.trafficEntry plan).due? = roundsFrom (plan.interval.after s.now) plan.interval 0 := by
    rw [trafficEntry, Agenda.due?_recurring, roundsFrom, roundAt_zero]
    rfl
  have hnext : ∀ t, roundsFrom (plan.interval.after s.now) plan.interval 0 = some t → s.now ≤ t := fun t ht => by
    obtain ⟨-, rfl⟩ := roundsFrom_eq_some.mp ht
    rw [roundAt_zero]
    exact Int.le_add_of_nonneg_right (Int.natCast_nonneg _)
  have htimely : (s.trafficEntry plan).Timely (.traffic s.floor.simulations.size)
      (fun k => roundsFrom (plan.interval.after s.now) plan.interval (0 + k)) 0 s.now :=
    timely_recurring rfl hperiod hlong hwhole hfirst hdue hnext
  simpa only [Nat.zero_add] using htimely

variable {i : EntryId} {made : Nat} (hready : Ready s₀ i made s)

include hready

/-- A simulation that has just been started is at play. -/
theorem playing_startSimulation (hwhole' : 1000000 ∣ plan.silenceAfter.nanos) (htended : s.IsTended)
    (hnumbered : s.hub.census.Numbered) (hvacant : s.Vacant) :
    (s.scene plan (fun k => roundsFrom s₀.firstRound s₀.sweeper.settings.interval (made + k)) i).Playing []
      (s.startSimulation plan).2 := by
  obtain ⟨w, hw⟩ := hvacant.bridge
  refine ⟨tended_startSimulation htended plan, fun j e he hlive => ?_, fun kind => ?_, ?_, ?_,
    peopled_startSimulation hvacant.devices hvacant.slots hnumbered hw plan⟩
  · rw [getElem?_startSimulation hready.isShutdown] at he
    split at he
    · rename_i hj
      exact .inr ⟨.hush, hj⟩
    · split at he
      · rename_i hj
        exact .inr ⟨.round, hj⟩
      · refine (hvacant.peaceful j e he hlive).imp_right fun htask => ⟨.sweep, ?_⟩
        exact Option.some.inj (htask.symm.trans hready.task)
  · rw [getElem?_task hready, now_startSimulation]
    cases kind with
    | round => exact ⟨_, rfl, timely_trafficEntry hlong hwhole hready.milli⟩
    | hush => exact ⟨_, rfl, timely_silenceEntry hwhole' hready.milli⟩
    | sweep => exact hready.timely
  · rw [now_startSimulation]
    exact .start
  · rw [now_startSimulation]
    exact hready.milli

/-- None of the work that matters is due when a simulation starts. -/
theorem ahead_startSimulation (hsilence : 0 < plan.silenceAfter.nanos) (sweeps : Nat → Option Int)
    (kind : Pulse.Kind) : (s.startSimulation plan).2.Ahead ((s.scene plan sweeps i).task kind) := by
  rintro due ⟨e, he, hdue⟩
  rw [show (s.startSimulation plan).2.timeline.agenda.entries = (s.startSimulation plan).2.agenda.entries from rfl,
    getElem?_task hready] at he
  rw [now_startSimulation, Instant.floorMilli_of_dvd hready.milli]
  cases kind with
  | round =>
    obtain rfl := Option.some.inj he
    have hround := (timely_trafficEntry (s := s) hlong hwhole hready.milli).due
    rw [hdue, eq_comm, roundsFrom_eq_some, roundAt_zero] at hround
    rw [← hround.2, Span.after]
    omega
  | hush =>
    obtain rfl := Option.some.inj he
    obtain rfl := Option.some.inj hdue
    rw [show Cadence.within s.agenda.now (plan.silenceAfter.after s.agenda.now) = s.now + Cadence.beat plan.silenceAfter
      from Cadence.within_after _ _]
    have hbeat : 0 < Cadence.beat plan.silenceAfter := Int.lt_min.mpr ⟨Int.ofNat_lt.mpr hsilence, by decide⟩
    omega
  | sweep =>
    have hlt := hready.ahead due ⟨e, he, hdue⟩
    rwa [Instant.floorMilli_of_dvd hready.milli] at hlt

end

end Liveness.Station
