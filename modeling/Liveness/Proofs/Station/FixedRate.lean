import Liveness.Proofs.Station.Rounds

/-!
# Recurring work

Whatever callers and services do, and however the clock moves, recurring work keeps
to the grid that it started on (`onGrid_play`).  If the clock only advances it also
keeps time.  The invariant is `Beats`: the work has run at the first instants of its
schedule and waits for the next one, which the clock has not gone past.  Only its own
waking up moves it on (`beats_wake`), and after an advance no instant is left that the
clock has reached (`Beats.lt_of_reached`).
-/

namespace Liveness.Station

variable {s : Station} {i : EntryId} {e : Entry Job} {a : Act} {first : Int} {p : Span} {n : Nat} {job : Job}

/-! ## The grid -/

theorem onGrid_play {acts : List Act} (hacts : s.InTurn acts) (he : s.agenda.entries[i]? = some e)
    (hp : 0 < p.nanos) (hgrid : e.OnGrid first p) :
    ∃ e', (s.play acts).agenda.entries[i]? = some e' ∧ e'.OnGrid first p := by
  induction acts generalizing s e with
  | nil => exact ⟨e, he, hgrid⟩
  | cons a as ih =>
    obtain ⟨hmay, hacts⟩ := hacts
    suffices ∃ e', (s.act a).agenda.entries[i]? = some e' ∧ e'.OnGrid first p by
      obtain ⟨e', he', hgrid'⟩ := this
      exact ih hacts he' hgrid'
    by_cases hwake : a = .time (.wake i)
    · subst hwake
      exact Timeline.onGrid_act (w := Floor.worker) (t := s.timeline) he hp hmay hgrid
    · obtain ⟨e', he', hstill, -⟩ := still_act he hwake
      exact ⟨e', he', hgrid.still hstill⟩

/-! ## The schedule -/

/-- Work that has run at the first instants of its schedule, and waits for the next one unless it was cancelled
or one of these runs panicked. -/
structure Beats (job : Job) (first : Int) (p : Span) (n : Nat) (now : Int) (e : Entry Job) : Prop where
  job : e.job = job
  period : e.period = some p
  times : e.runs.reverse.map Run.time = (List.range n).map (roundAt first p)
  past : ∀ k < n, roundAt first p k ≤ now
  due : ∀ due, e.due? = some due → due = roundAt first p n ∧ now ≤ roundAt first p n
  waits : e.cancelled = false →
    (∀ runs now f, runs.length < n → (Floor.run e.job runs now f).2.panicked = false) → ∃ due, e.due? = some due

theorem Beats.length_runs (hb : Beats job first p n s.now e) : e.runs.length = n := by
  simpa using congrArg List.length hb.times

/-- A run that is on time is at the next instant of the schedule. -/
theorem Beats.ran (hb : Beats job first p n s.now e) (hdue : e.due? = some s.now) (hround : s.now = roundAt first p n)
    {e' : Entry Job} (hkept : (e.ran s.now s.now (Floor.run e.job e.runs s.now s.floor).2.panicked).Kept e') :
    Beats job first p (n + 1) s.now (e'.restage (.waiting (roundAt first p (n + 1)))) := by
  refine ⟨hkept.job.trans hb.job, hkept.period.trans hb.period, ?_, fun k hk => ?_, fun due' hdue' => ?_,
    fun hcancelled hcalm => ?_⟩
  · change e'.runs.reverse.map Run.time = _
    rw [hkept.still.runs, List.range_succ, List.map_append, ← hb.times]
    simp [Entry.ran, hround]
  · rw [hround]
    exact roundAt_le (Nat.le_of_lt_succ hk)
  · obtain ⟨-, hstage⟩ := Entry.due?_eq_some.mp hdue'
    rw [Entry.restage, if_pos (Entry.isLive_of_restage (Entry.isLive_of_due? hdue'))] at hstage
    refine ⟨(Stage.waiting.inj hstage).symm, ?_⟩
    rw [hround]
    exact roundAt_le (Nat.le_succ n)
  · have hpanicked : (Floor.run e.job e.runs s.now s.floor).2.panicked = false := by
      rw [← show (e'.restage (.waiting (roundAt first p (n + 1)))).job = e.job from hkept.job]
      exact hcalm _ _ _ (Nat.lt_succ_of_le (Nat.le_of_eq hb.length_runs))
    obtain rfl : e' = e.ran s.now s.now (Floor.run e.job e.runs s.now s.floor).2.panicked := by
      rcases hkept with rfl | rfl
      · rfl
      · cases hcancelled
    have hlive : (e.ran s.now s.now (Floor.run e.job e.runs s.now s.floor).2.panicked).isLive := by
      rw [hpanicked]
      exact Entry.isLive_of_due? hdue
    refine ⟨roundAt first p (n + 1), Entry.due?_eq_some.mpr ⟨hcancelled, ?_⟩⟩
    rw [Entry.restage, if_pos hlive]

/-- As long as it does not wake up itself, work stays at the beat that it has come to. -/
theorem Beats.still {now now' : Int} {e' : Entry Job} (hb : Beats job first p n now e) (hstill : e.Still e')
    (hsame : e'.cancelled = false → e' = e) (hle : now ≤ now')
    (hnext : ∀ due, e'.due? = some due → now' ≤ due) : Beats job first p n now' e' where
  job := hstill.later.job.trans hb.job
  period := hstill.later.period.trans hb.period
  times := hstill.runs ▸ hb.times
  past := fun k hk => Int.le_trans (hb.past k hk) hle
  due := fun due hdue => by
    obtain ⟨heq, -⟩ := hb.due due (hstill.due due hdue)
    exact ⟨heq, heq ▸ hnext due hdue⟩
  waits := fun hcancelled hcalm => by
    obtain rfl := hsame hcancelled
    exact hb.waits hcancelled hcalm

/-- The clock does not go past the whole millisecond at which work wakes up. -/
theorem now_act_le (hmay : s.May a) (hleap : ∀ now, a ≠ .time (.leap now)) (hmilli : 1000000 ∣ s.now) {due : Int}
    (hdue : 1000000 ∣ due) (hwaits : s.timeline.Waits i due) (hle : s.now ≤ due) : (s.act a).now ≤ due := by
  by_cases hmoves : ∃ now, a = .time (.clock now)
  · obtain ⟨now, rfl⟩ := hmoves
    have hdvd : 1000000 ∣ now := dvd_now_act hmay hleap hmilli
    have hnext := hmay.2.2.2 i due hwaits
    rwa [Instant.floorMilli_of_dvd hdvd, Instant.ceilMilli_of_dvd hdue] at hnext
  · rwa [now_act fun now => ⟨fun heq => hmoves ⟨now, heq⟩, hleap now⟩]

section

variable (hperiod : 1000000 ≤ p.nanos) (hwhole : 1000000 ∣ p.nanos) (hfirst : 1000000 ∣ first)

include hperiod hwhole hfirst

/-- Work that wakes up on time is to run once and to wait for the next instant of its schedule. -/
theorem Beats.plan (hb : Beats job first p n s.now e) {due : Int} (hdue : e.due? = some due)
    (hready : Cadence.isReady due s.now) (hmilli : 1000000 ∣ s.now) :
    s.now = roundAt first p n ∧ due = s.now ∧ e.plan s.now s.now = ([s.now], .waiting (roundAt first p (n + 1))) := by
  obtain ⟨heq, hle⟩ := hb.due due hdue
  have hround : 1000000 ∣ roundAt first p n := dvd_roundAt hwhole hfirst n
  have hontime : Instant.floorMilli s.now = Instant.ceilMilli s.now := by
    rw [Instant.floorMilli_of_dvd hmilli, Instant.ceilMilli_of_dvd hmilli]
  have hnow : s.now = roundAt first p n := by
    refine Cadence.eq_of_isReady (heq ▸ hready) ?_ hround hmilli
    rw [Instant.floorMilli_of_dvd hmilli, Instant.ceilMilli_of_dvd hround]
    exact hle
  refine ⟨hnow, heq.trans hnow.symm, ?_⟩
  simp only [Entry.plan, hb.period]
  rw [Cadence.next_on_time hperiod hmilli, Cadence.served_on_time hperiod hontime, roundAt_succ, hnow]

/-- Work that wakes up on time runs once, and waits for the next instant of its schedule. -/
theorem beats_wake (he : s.agenda.entries[i]? = some e) (hmay : s.May (.time (.wake i))) (hmilli : 1000000 ∣ s.now)
    (hb : Beats job first p n s.now e) :
    ∃ e' m, (s.act (.time (.wake i))).agenda.entries[i]? = some e' ∧ Beats job first p m s.now e' := by
  change ∃ e' m, (Timeline.wake Floor.worker s.timeline i).agenda.entries[i]? = some e' ∧ _
  by_cases hwaits : ∃ due, s.timeline.Waits i due
  · obtain ⟨due, e', he', hdue⟩ := hwaits
    obtain rfl := Option.some.inj (he.symm.trans he')
    obtain ⟨hround, rfl, hplan⟩ := hb.plan hperiod hwhole hfirst hdue (hmay due ⟨e, he, hdue⟩) hmilli
    obtain ⟨e', he', hkept⟩ :=
      Timeline.kept_runOnce_of_live (w := Floor.worker) (t := s.timeline) he (Entry.isLive_of_due? hdue) s.now
    rw [Timeline.wake_of_due Floor.worker (t := s.timeline) he hdue,
      show e.plan s.now s.timeline.agenda.now = _ from hplan]
    refine ⟨e'.restage (.waiting (roundAt first p (n + 1))), n + 1, ?_, hb.ran hdue hround hkept⟩
    simp only [Agenda.modify, Array.getElem?_modify, if_true, List.foldl_cons, List.foldl_nil, he', Option.map_some]
  · rw [Timeline.wake_of_not_waits Floor.worker (not_exists.mp hwaits)]
    exact ⟨e, n, he, hb⟩

/-- As long as the clock does not leap, work keeps to its schedule. -/
theorem beats_play {acts : List Act} (hacts : s.InTurn acts) (hclock : ∀ now, .time (.leap now) ∉ acts)
    (hmilli : 1000000 ∣ s.now) (he : s.agenda.entries[i]? = some e) (hb : Beats job first p n s.now e) :
    ∃ e' m, (s.play acts).agenda.entries[i]? = some e' ∧ Beats job first p m (s.play acts).now e' := by
  induction acts generalizing s e n with
  | nil => exact ⟨e, n, he, hb⟩
  | cons a as ih =>
    obtain ⟨hmay, hacts⟩ := hacts
    have hleap : ∀ now, a ≠ .time (.leap now) := fun now heq => hclock now (heq ▸ List.mem_cons_self)
    suffices ∃ e' m, (s.act a).agenda.entries[i]? = some e' ∧ Beats job first p m (s.act a).now e' by
      obtain ⟨e', m, he', hb'⟩ := this
      exact ih hacts (fun now hmem => hclock now (List.mem_cons_of_mem a hmem)) (dvd_now_act hmay hleap hmilli) he' hb'
    by_cases hwake : a = .time (.wake i)
    · subst hwake
      rw [now_wake]
      exact beats_wake hperiod hwhole hfirst he hmay hmilli hb
    · obtain ⟨e', he', hstill, hsame⟩ := still_act he hwake
      refine ⟨e', n, he', hb.still hstill hsame (now_le_act hmay) fun due hdue => ?_⟩
      have hdue₀ : e.due? = some due := hstill.due due hdue
      obtain ⟨rfl, hle⟩ := hb.due due hdue₀
      exact now_act_le hmay hleap hmilli (dvd_roundAt hwhole hfirst n) ⟨e, he, hdue₀⟩ hle

end

/-- Work that waits for nothing never runs again. -/
theorem still_play (acts : List Act) (he : s.agenda.entries[i]? = some e) (hdue : e.due? = none) :
    ∃ e', (s.play acts).agenda.entries[i]? = some e' ∧ e.Still e' := by
  induction acts generalizing s e with
  | nil => exact ⟨e, he, (Entry.Kept.refl e).still⟩
  | cons a as ih =>
    by_cases hwake : a = .time (.wake i)
    · subst hwake
      have hsame : (s.act (.time (.wake i))).agenda = s.agenda := by
        change (Timeline.wake Floor.worker s.timeline i).agenda = s.timeline.agenda
        rw [Timeline.wake_of_not_waits Floor.worker]
        rintro due ⟨e', he', hdue'⟩
        obtain rfl := Option.some.inj (he.symm.trans he')
        cases hdue.symm.trans hdue'
      exact ih (hsame ▸ he) hdue
    · obtain ⟨e₁, he₁, hstill₁, -⟩ := still_act he hwake
      have hdue₁ : e₁.due? = none := by
        refine Option.eq_none_iff_forall_ne_some.mpr fun due hdue₁ => ?_
        cases hdue.symm.trans (hstill₁.due due hdue₁)
      obtain ⟨e₂, he₂, hstill₂⟩ := ih he₁ hdue₁
      exact ⟨e₂, he₂, hstill₁.later.trans hstill₂.later, hstill₂.runs.trans hstill₁.runs,
        fun due hd => hstill₁.due due (hstill₂.due due hd)⟩

/-! ## From the start on -/

/-- When recurring work is first due: after its delay, however long. -/
def firstDue (s : Station) (delay : Span) : Int := delay.after s.now

/-- Recurring work that a station has just taken on. -/
structure Fresh (s : Station) (job : Job) (delay period : Span) (e : Entry Job) : Prop where
  job : e.job = job
  period : e.period = some period.asPeriod
  runs : e.runs = []
  due : ∀ due, e.due? = some due → delay.after s.now < Cadence.clockEnd ∧ due = s.firstDue delay
  live : e.isLive → delay.after s.now < Cadence.clockEnd
  waits : e.cancelled = false → delay.after s.now < Cadence.clockEnd → e.due? = some (s.firstDue delay)

theorem now_every (s : Station) (name : String) (job : Job) (delay period : Span) :
    (s.every name job delay period).2.now = s.now := by
  rw [every_eq]
  rfl

theorem fresh_recurring (s : Station) (name : String) (job : Job) (delay period : Span) :
    Fresh s job delay period (s.agenda.recurring name job delay period) := by
  have hfirst : (s.agenda.recurring name job delay period).due? = if delay.after s.now < Cadence.clockEnd then
      some (s.firstDue delay) else none := Agenda.due?_recurring _ _ _ _ _
  refine ⟨rfl, rfl, rfl, fun due hdue => ?_, fun hlive => ?_, fun _ hreach => hfirst.trans (if_pos hreach)⟩
  · rw [hfirst, Option.ite_none_right_eq_some] at hdue
    exact ⟨hdue.1, (Option.some.inj hdue.2).symm⟩
  · refine Decidable.by_contra fun hreach => ?_
    rw [Agenda.recurring, show Cadence.first? delay s.agenda.now = none from if_neg hreach] at hlive
    cases hlive

/-- After a shutdown work is cancelled from the start. -/
theorem Fresh.enrol {delay period : Span} (h : Fresh s job delay period e) :
    Fresh s job delay period (s.agenda.enrol e) := by
  unfold Agenda.enrol
  split
  · refine ⟨h.job, h.period, h.runs, fun due hdue => ?_, fun hlive => ?_, fun hcancelled => ?_⟩
    · cases hdue
    · cases hlive
    · cases hcancelled
  · exact h

theorem fresh_every (s : Station) (name : String) (job : Job) (delay period : Span) :
    ∃ e, (s.every name job delay period).2.agenda.entries[(s.every name job delay period).1]? = some e ∧
      Fresh s job delay period e := by
  refine ⟨_, ?_, (fresh_recurring s name job delay period).enrol⟩
  rw [every_eq]
  exact Agenda.getElem?_add_size _ _

/-- Work begins on the grid that starts when it is first due. -/
theorem Fresh.onGrid {delay period : Span} (h : Fresh s job delay period e) :
    e.OnGrid (s.firstDue delay) period.asPeriod := by
  refine ⟨h.period, ?_, ?_, ?_, ?_, fun _ due hdue => ?_⟩
  · rw [h.runs]
    exact .nil
  · rw [h.runs]
    exact nofun
  · rw [h.runs]
    exact nofun
  · rw [h.runs]
    exact nofun
  · rw [(h.due due hdue).2]
    exact .refl _ _

/-- Work begins at the first beat, if the clock goes that far. -/
theorem Fresh.beats {delay period : Span} (h : Fresh s job delay period e)
    (hreach : delay.after s.now < Cadence.clockEnd) : Beats job (s.firstDue delay) period.asPeriod 0 s.now e := by
  refine ⟨h.job, h.period, ?_, fun k hk => absurd hk (Nat.not_lt_zero k), fun due hdue => ?_,
    fun hcancelled _ => ⟨_, h.waits hcancelled hreach⟩⟩
  · rw [h.runs]
    rfl
  · obtain ⟨-, rfl⟩ := h.due due hdue
    rw [roundAt_zero]
    exact ⟨rfl, Int.le_add_of_nonneg_right (Int.natCast_nonneg _)⟩

theorem dvd_firstDue {delay : Span} (hmilli : 1000000 ∣ s.now) (hdelay : 1000000 ∣ delay.nanos) :
    1000000 ∣ s.firstDue delay :=
  Int.dvd_add hmilli (Int.natCast_dvd_natCast.mpr hdelay)

/-- The clock leaps only in a jump. -/
theorem leap_not_mem_plan {orders : List Order} (horders : ∀ o ∈ orders, ∀ amount, o ≠ .jump amount)
    (now : Int) : .time (.leap now) ∉ s.plan orders := by
  intro hmem
  obtain ⟨o, ho, hbrings⟩ := brings_of_mem_plan hmem
  cases hbrings with
  | time hleap => exact hleap now rfl
  | leap amount => exact horders _ ho amount rfl

/-- After an advance, work that is not cancelled has run at all instants of its schedule that the clock has
reached, up to the first run that panicked. -/
theorem Beats.lt_of_reached (hb : Beats job first p n s.now e) (hidle : s.timeline.Idle)
    (he : s.agenda.entries[i]? = some e) (hmilli : 1000000 ∣ s.now) (hcancelled : e.cancelled = false) {k : Nat}
    (hle : roundAt first p k ≤ s.now)
    (hcalm : ∀ runs now f, runs.length < k → (Floor.run job runs now f).2.panicked = false) : k < n := by
  refine Nat.lt_of_not_le fun hn => ?_
  obtain ⟨due, hdue⟩ := hb.waits hcancelled fun runs now f hlt =>
    hb.job.symm ▸ hcalm runs now f (Nat.lt_of_lt_of_le hlt hn)
  obtain ⟨rfl, -⟩ := hb.due due hdue
  have hlt : Instant.floorMilli s.now < roundAt first p n := hidle i _ ⟨e, he, hdue⟩
  rw [Instant.floorMilli_of_dvd hmilli] at hlt
  exact Int.not_le.mpr hlt (Int.le_trans (roundAt_le hn) hle)

theorem onGrid_every (hrests : s.timeline.Rests) (name : String) (job : Job) (delay period : Span)
    (during : List Order) :
    ∃ e, ((s.every name job delay period).2.after during).agenda.entries[(s.every name job delay period).1]? =
        some e ∧
      e.OnGrid (s.firstDue delay) period.asPeriod := by
  have hstarted : (s.every name job delay period).2.timeline.Rests :=
    hrests.grows (grows_every (P := fun _ => True) (Q := fun _ => False) s name delay period trivial)
  have hpos : 0 < period.asPeriod.nanos := Nat.lt_of_lt_of_le (by decide) (Span.asPeriod_ge period)
  obtain ⟨e, he, hfresh⟩ := fresh_every s name job delay period
  rw [← play_plan]
  exact onGrid_play (inTurn_plan hstarted during) he hpos hfresh.onGrid

/-- Work runs at the first instants of its schedule that the clock reaches, and at all of them unless it is
cancelled or panics. -/
theorem schedule_every (hrests : s.timeline.Rests) (hmilli : 1000000 ∣ s.now) (name : String) (job : Job)
    {delay period : Span} (hdelay : 1000000 ∣ delay.nanos) (hwhole : 1000000 ∣ period.asPeriod.nanos)
    {during : List Order} (hclock : ∀ o ∈ during, ∀ span, o ≠ .jump span) (amount : Span) :
    let after := (s.every name job delay period).2.after (during ++ [.advance amount])
    let tick := roundAt (s.firstDue delay) period.asPeriod
    ∃ e n, after.agenda.entries[(s.every name job delay period).1]? = some e ∧
      e.runs.reverse.map Run.time = (List.range n).map tick ∧
      (∀ k < n, delay.after s.now < Cadence.clockEnd ∧ tick k ≤ after.now) ∧
      (e.cancelled = false → ∀ k, delay.after s.now < Cadence.clockEnd → tick k ≤ after.now →
        (∀ runs now f, runs.length < k → (Floor.run job runs now f).2.panicked = false) → k < n) := by
  intro after tick
  have hstarted : (s.every name job delay period).2.timeline.Rests :=
    hrests.grows (grows_every (P := fun _ => True) (Q := fun _ => False) s name delay period trivial)
  obtain ⟨e, he, hfresh⟩ := fresh_every s name job delay period
  have hafter : after = (s.every name job delay period).2.play
      ((s.every name job delay period).2.plan (during ++ [.advance amount])) := (play_plan _ _).symm
  by_cases hreach : delay.after s.now < Cadence.clockEnd
  · have hleaps : ∀ o ∈ during ++ [.advance amount], ∀ span, o ≠ .jump span := by
      intro o ho span
      rcases List.mem_append.mp ho with ho | ho
      · exact hclock o ho span
      · rw [List.mem_singleton.mp ho]
        exact nofun
    have hidle : after.timeline.Idle := by
      simp only [after, after_append]
      exact (Timeline.advance_spec Floor.orderly_worker (rests_after hstarted during) amount).2.1
    have hturn := inTurn_plan hstarted (during ++ [.advance amount])
    have hstart : 1000000 ∣ (s.every name job delay period).2.now := now_every s name job delay period ▸ hmilli
    have hend : 1000000 ∣ after.now := hafter ▸ dvd_now_play hturn (leap_not_mem_plan hleaps) hstart
    obtain ⟨e', n, he', hb⟩ := beats_play (Span.asPeriod_ge period) hwhole (dvd_firstDue hmilli hdelay) hturn
      (leap_not_mem_plan hleaps) hstart he (now_every s name job delay period ▸ hfresh.beats hreach)
    rw [← hafter] at he' hb
    refine ⟨e', n, he', hb.times, fun k hk => ⟨hreach, hb.past k hk⟩, fun hcancelled k _ hle hcalm => ?_⟩
    exact hb.lt_of_reached hidle he' hend hcancelled hle hcalm
  · -- the work never wakes up
    have hdue : e.due? = none :=
      Option.eq_none_iff_forall_ne_some.mpr fun due hdue => hreach (hfresh.due due hdue).1
    obtain ⟨e', he', hstill⟩ := still_play
      ((s.every name job delay period).2.plan (during ++ [.advance amount])) he hdue
    rw [← hafter] at he'
    refine ⟨e', 0, he', ?_, fun k hk => absurd hk (Nat.not_lt_zero k), fun _ k hr => absurd hr hreach⟩
    rw [hstill.runs, hfresh.runs]
    rfl

theorem dvd_asPeriod_ofMillis (m : Nat) : 1000000 ∣ (Span.ofMillis m).asPeriod.nanos := by
  unfold Span.asPeriod
  split
  · exact ⟨1, rfl⟩
  · exact ⟨m, Nat.mul_comm m 1000000⟩

/-- Recurring work that is taken on at some moment of a run keeps to its grid, whatever happens then.  If its first
wait and its period are whole milliseconds, and the clock only ever moves by whole milliseconds and from there on
only advances, then it runs at the first instants of its schedule, leaving none out, and after an advance it has run
at all that the clock has reached, unless it was cancelled or a run panicked. -/
theorem fixed_rate (settings : SweepSettings) (walk : Walk) (earlier during : List Order) (name : String) (job : Job)
    (delay period : Span) :
    let s := (opened settings walk).after earlier
    let i := (s.every name job delay period).1
    let started := (s.every name job delay period).2
    (∃ e, (started.after during).agenda.entries[i]? = some e ∧ e.OnGrid (s.firstDue delay) period.asPeriod) ∧
    ∀ d m, delay = .ofMillis d → period = .ofMillis m → (∀ o ∈ earlier, o.isWhole) →
      (∀ o ∈ during, ∀ span, o ≠ .jump span) → ∀ amount,
      let after := started.after (during ++ [.advance amount])
      let tick := roundAt (s.firstDue delay) period.asPeriod
      ∃ e n, after.agenda.entries[i]? = some e ∧
        e.runs.reverse.map Run.time = (List.range n).map tick ∧
        (∀ k < n, delay.after s.now < Cadence.clockEnd ∧ tick k ≤ after.now) ∧
        (e.cancelled = false → ∀ k, delay.after s.now < Cadence.clockEnd → tick k ≤ after.now →
          (∀ runs now f, runs.length < k → (Floor.run job runs now f).2.panicked = false) → k < n) := by
  intro s i started
  have hrests : s.timeline.Rests := rests_after (rests_opened settings walk) earlier
  refine ⟨onGrid_every hrests name job delay period during, ?_⟩
  rintro d m rfl rfl hearlier hclock amount
  exact schedule_every hrests (dvd_now_of_opened settings walk hearlier) name job ⟨d, Nat.mul_comm d 1000000⟩
    (dvd_asPeriod_ofMillis m) hclock amount

/-- Work that waits three milliseconds and then recurs every five has run three times when the clock has come
to the third instant of its schedule in two moves. -/
theorem fixed_rate_of_probe :
    let earlier := [Order.jump (.ofMillis 2)]
    let s := (opened {}).after earlier
    let i := (s.every "probe" (.probe none none) (.ofMillis 3) (.ofMillis 5)).1
    let started := (s.every "probe" (.probe none none) (.ofMillis 3) (.ofMillis 5)).2
    let during := [Order.advance (.ofMillis 7)]
    let after := started.after (during ++ [.advance (.ofMillis 6)])
    (∀ o ∈ earlier, o.isWhole) ∧ (∀ o ∈ during, ∀ span, o ≠ .jump span) ∧
      ∃ e n, after.agenda.entries[i]? = some e ∧
        e.runs.reverse.map Run.time =
          (List.range n).map (roundAt (s.firstDue (.ofMillis 3)) (Span.ofMillis 5).asPeriod) ∧
        2 < n ∧ e.runs.map Run.time = [15000000, 10000000, 5000000] := by
  intro earlier s i started during after
  have hearlier : ∀ o ∈ earlier, o.isWhole := by decide
  have hclock : ∀ o ∈ during, ∀ span, o ≠ .jump span := by
    rintro o ho span rfl
    cases List.mem_singleton.mp ho
  obtain ⟨e, n, he, htimes, -, hall⟩ :=
    (fixed_rate {} .byId earlier during "probe" (.probe none none) (.ofMillis 3) (.ofMillis 5)).2 3 5 rfl rfl hearlier
      hclock (.ofMillis 6)
  have hstate : (after.agenda.entries[i]?).map (fun e => (e.cancelled, e.runs.map Run.time)) =
      some (false, [15000000, 10000000, 5000000]) := by
    decide +kernel
  rw [show after.agenda.entries[i]? = some e from he, Option.map_some, Option.some.injEq, Prod.mk.injEq] at hstate
  obtain ⟨hcancelled, hruns⟩ := hstate
  have hthree : 2 < n := hall hcancelled 2 (by decide +kernel) (by decide +kernel) fun _ _ _ _ => rfl
  exact ⟨hearlier, hclock, e, n, he, htimes, hthree, hruns⟩

/-- Where recurring work runs at other times than at whole periods after its first wait: the clock does not wait for
more than thirty years once work recurs, and work that panics has ended. -/
theorem fixed_rate_off_grid :
    let runs (s : Station) := (s.agenda.entries[0]?).map fun e => (e.cancelled, e.runs.reverse.map Run.time)
    -- the second run comes before a whole period has passed
    (let s := (opened {}).after
       [.deed (.every "probe" none none .zero (.ofMillis 1261440000000)), .advance (.ofMillis 946080000000)]
     s.now < (Span.ofMillis 1261440000000).after 0 ∧ runs s = some (false, [0, s.now])) ∧
    -- nothing runs one period after the first run
    (let s := (opened {}).after
       [.deed (.every "probe" none (some 1) .zero (.ofMillis 10)), .advance (.ofMillis 20)]
     (Span.ofMillis 10).after 0 < s.now ∧ runs s = some (false, [0])) := by
  refine ⟨?_, ?_⟩ <;> decide +kernel

end Liveness.Station
