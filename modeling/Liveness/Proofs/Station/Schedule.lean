import Liveness.Proofs.Station.Rounds

/-!
# The schedule of the sweeper

A start takes the sweeper to its rounds (`rounds_start`), and between two orders
the clock has not come to the next round, so that the rounds made are just those
whose instants the clock has reached: `scheduled_after`.
-/

namespace Liveness

namespace Station

variable {s : Station} {i : EntryId} {first : Int} {n : Nat}

/-- The work that a start takes on. -/
def sweepEntry (s : Station) : Entry Job :=
  s.agenda.recurring "liveness-sweep" (.sweep s.sweeper.settings.expireAfter) s.sweeper.settings.interval
    s.sweeper.settings.interval

/-- What a start that is not refused does. -/
theorem start_spec (hstart : s.startSweeper.1 = true) :
    s.startSweeper.2.sweeper = ⟨s.sweeper.settings, some s.agenda.entries.size⟩ ∧
      s.startSweeper.2.now = s.now ∧
      s.startSweeper.2.agenda.entries[s.agenda.entries.size]? = some s.sweepEntry ∧
      s.startSweeper.2.agenda.isShutdown = false := by
  have hadd : (s.agenda.add s.sweepEntry).2.entries[s.agenda.entries.size]? = some (s.agenda.enrol s.sweepEntry) :=
    Agenda.getElem?_add_size s.agenda s.sweepEntry
  unfold startSweeper at hstart ⊢
  split at hstart
  · cases hstart
  · rename_i hidle
    rw [if_neg hidle]
    dsimp only at hstart ⊢
    rw [every_eq] at hstart ⊢
    split at hstart
    · cases hstart
    · rename_i hlive
      rw [if_neg hlive]
      have hup : s.agenda.isShutdown = false := by
        -- a shutdown would have refused the start
        refine Bool.eq_false_iff.mpr fun hdown => hlive ?_
        change Agenda.isCancelled (s.agenda.add s.sweepEntry).2 s.agenda.entries.size = true
        rw [Agenda.isCancelled, hadd, Agenda.enrol, hdown]
        rfl
      refine ⟨rfl, rfl, hadd.trans (congrArg some ?_), hup⟩
      rw [Agenda.enrol, hup]
      rfl

/-- When the first round of a sweeper is due that is started now. -/
def firstRound (s : Station) : Int := s.sweeper.settings.interval.after s.now

theorem dvd_firstRound (hwhole : 1000000 ∣ s.sweeper.settings.interval.nanos) (hmilli : 1000000 ∣ s.now) :
    1000000 ∣ s.firstRound :=
  Int.dvd_add hmilli (Int.natCast_dvd_natCast.mpr hwhole)

/-- A sweeper that was started works, and waits for its first round, if the clock goes that far. -/
theorem rounds_start (hstart : s.startSweeper.1 = true) (hperiod : 1000000 ≤ s.sweeper.settings.interval.nanos)
    (hmilli : 1000000 ∣ s.now) :
    ∃ i, if s.firstRound < Cadence.clockEnd then Rounds i s.firstRound 0 s.startSweeper.2
      else Halts i s.startSweeper.2 := by
  obtain ⟨hsweeper, hnow, hentry, -⟩ := start_spec hstart
  have hpaced : s.sweeper.settings.interval.asPeriod = s.sweeper.settings.interval := by
    rw [Span.asPeriod, if_neg (Nat.not_lt.mpr hperiod)]
  have hworks : Works s.agenda.entries.size s.sweepEntry s.startSweeper.2 := by
    refine ⟨by rw [hsweeper], hentry, by rw [hsweeper]; rfl, ?_, rfl⟩
    rw [hsweeper]
    exact congrArg some hpaced
  refine ⟨s.agenda.entries.size, ?_⟩
  split
  · rename_i hreach
    have hfirst : Cadence.first? s.sweeper.settings.interval s.agenda.now = some s.firstRound := if_pos hreach
    refine ⟨⟨s.sweepEntry, hworks, ?_⟩, fun _ hk => absurd hk (Nat.not_lt_zero _), ?_, hnow ▸ hmilli⟩
    · rw [roundAt_zero]
      simp only [sweepEntry, Agenda.recurring, hfirst]
    · rw [roundAt_zero, hnow]
      exact Int.le_add_of_nonneg_right (Int.natCast_nonneg _)
  · rename_i hreach
    have hnone : Cadence.first? s.sweeper.settings.interval s.agenda.now = none := if_neg hreach
    refine ⟨s.sweepEntry, hworks, ?_⟩
    simp only [sweepEntry, Agenda.recurring, hnone]

/-! ## Between orders -/

theorem isCalm_plan {orders : List Order} (hcalm : ∀ o ∈ orders, o.isCalm) : ∀ a ∈ s.plan orders, a.isCalm := by
  intro a ha
  obtain ⟨o, ho, hbrings⟩ := brings_of_mem_plan ha
  exact hbrings.isCalm (hcalm o ho)

/-- The clock has not come to the instant for which some work waits. -/
def Ahead (i : EntryId) (s : Station) : Prop := ∀ due, s.timeline.Waits i due → Instant.floorMilli s.now < due

theorem ahead_start (hr : Rounds i s.firstRound 0 s) (hperiod : 1000000 ≤ s.sweeper.settings.interval.nanos) :
    s.Ahead i := by
  obtain ⟨⟨e, hworks, hdue⟩, -⟩ := hr
  rintro due ⟨e', he', hdue'⟩
  obtain rfl := Option.some.inj (hworks.entry.symm.trans he')
  obtain rfl : roundAt s.firstRound s.sweeper.settings.interval 0 = due :=
    Stage.waiting.inj (hdue.symm.trans (Entry.due?_eq_some.mp hdue').2)
  have hle : Instant.floorMilli s.now ≤ s.now := Instant.floorMilli_le s.now
  rw [roundAt_zero, firstRound, Span.after]
  omega

/-- If the clock has not come to what some work waits for before an order, it has not after it. -/
theorem ahead_obey {e : Entry Job} (he : s.agenda.entries[i]? = some e) (hrests : s.timeline.Rests)
    (hahead : s.Ahead i) (o : Order) : (s.obey o).Ahead i := by
  have hsettled : ∀ {t : Timeline Job Floor}, t.Idle → ∀ due, t.Waits i due → Instant.floorMilli t.agenda.now < due :=
    fun hidle due => hidle i due
  cases o with
  | deed d =>
    obtain ⟨e', he', hstill, -⟩ := still_act (a := .deed d) he nofun
    rintro due ⟨e'', he'', hdue⟩
    obtain rfl := Option.some.inj (he'.symm.trans he'')
    have hnow : (s.perform d).now = s.now := (grows_perform s d).now
    rw [obey, hnow]
    exact hahead due ⟨e, he, hstill.due due hdue⟩
  | settle => exact hsettled (Timeline.idle_settle Floor.orderly_worker hrests.paced)
  | advance amount => exact hsettled (Timeline.advance_spec Floor.orderly_worker hrests amount).2.1
  | jump amount =>
    exact hsettled (Timeline.idle_settle Floor.orderly_worker
      ((Timeline.rests_settle Floor.orderly_worker hrests).setNow _).paced)
  | shutdown => exact hsettled (Timeline.idle_settle Floor.orderly_worker (rests_shutdown hrests).paced)
  | connect c =>
    have hcalled : (s.act (.startAttempt c)).timeline.Rests := ⟨hrests.paced, hrests.errands⟩
    simp only [obey, connect]
    split
    · exact hahead
    · exact hsettled (Timeline.advance_spec Floor.orderly_worker hcalled _).2.1

theorem ahead_after (hr : Rounds i first n s) (h : s.IsTended) (hrests : s.timeline.Rests) (hahead : s.Ahead i)
    (hperiod : 1000000 ≤ s.sweeper.settings.interval.nanos) (hwhole : 1000000 ∣ s.sweeper.settings.interval.nanos)
    (hfirst : 1000000 ∣ first) {orders : List Order} (hcalm : ∀ o ∈ orders, o.isCalm) :
    (s.after orders).Ahead i := by
  induction orders generalizing s n with
  | nil => exact hahead
  | cons o os ih =>
    have ho : o.isCalm := hcalm o List.mem_cons_self
    obtain ⟨hturn, hrests'⟩ := inTurn_acts hrests o
    obtain ⟨hsweeper, m, hr', -⟩ := rounds_play hturn (isCalm_acts ho) h hr hperiod hwhole hfirst
    have h' : (s.play (s.acts o)).IsTended := tended_play hturn h
    rw [play_acts] at hsweeper hr' h'
    obtain ⟨⟨e, hworks, -⟩, -⟩ := hr
    exact ih hr' h' hrests' (ahead_obey hworks.entry hrests hahead o) (hsweeper ▸ hperiod) (hsweeper ▸ hwhole)
      fun o' ho' => hcalm o' (List.mem_cons_of_mem o ho')

/-- The rounds made are those whose instants the clock has reached. -/
theorem lt_iff_roundAt_le (hr : Rounds i first n s) (hahead : s.Ahead i) (k : Nat) :
    k < n ↔ roundAt first s.sweeper.settings.interval k ≤ s.now := by
  obtain ⟨⟨e, hworks, hdue⟩, hpast, -, hmilli⟩ := hr
  constructor
  · exact hpast k
  · intro hle
    refine Nat.lt_of_not_le fun hn => ?_
    have hlt : Instant.floorMilli s.now < roundAt first s.sweeper.settings.interval n :=
      hahead _ ⟨e, hworks.entry, Entry.due?_eq_some.mpr ⟨hworks.cancelled, hdue⟩⟩
    rw [Instant.floorMilli_of_dvd hmilli] at hlt
    exact absurd (Int.le_trans (roundAt_le hn) hle) (Int.not_le.mpr hlt)

section

variable (hstart : s.startSweeper.1 = true) (h : s.IsTended) (hmilli : 1000000 ∣ s.now)
  (hperiod : 1000000 ≤ s.sweeper.settings.interval.nanos) (hwhole : 1000000 ∣ s.sweeper.settings.interval.nanos)

include hstart h hmilli hperiod hwhole

/-- What a sweeper that was started does in calm acts. -/
theorem play_start {acts : List Act} (hacts : s.startSweeper.2.InTurn acts) (hcalm : ∀ a ∈ acts, a.isCalm) :
    (s.startSweeper.2.play acts).sweeper = s.startSweeper.2.sweeper ∧
      ∃ i n, scheduled (s.startSweeper.2.history acts) =
          (List.range n).map (roundCall s.firstRound s.sweeper.settings) ∧
        if s.firstRound < Cadence.clockEnd then
          Rounds i s.firstRound 0 s.startSweeper.2 ∧ Rounds i s.firstRound n (s.startSweeper.2.play acts)
        else n = 0 ∧ Halts i (s.startSweeper.2.play acts) := by
  have h' : s.startSweeper.2.IsTended := tended_startSweeper h
  have hfirst : 1000000 ∣ s.firstRound := dvd_firstRound hwhole hmilli
  have hsettings : s.startSweeper.2.sweeper.settings = s.sweeper.settings := by rw [(start_spec hstart).1]
  obtain ⟨i, hrounds⟩ := rounds_start hstart hperiod hmilli
  rw [← hsettings] at hperiod hwhole
  split at hrounds
  · rename_i hreach
    obtain ⟨hkept, n, hr, hcalls⟩ := rounds_play hacts hcalm h' hrounds hperiod hwhole hfirst
    rw [Nat.zero_add] at hr
    refine ⟨hkept, i, n, ?_, ?_⟩
    · rw [hcalls, hsettings]
      simp only [Nat.zero_add]
    · rw [if_pos hreach]
      exact ⟨hrounds, hr⟩
  · rename_i hreach
    obtain ⟨hkept, hhalts, hnone⟩ := halts_play hacts hcalm h' hrounds
    refine ⟨hkept, i, 0, hnone, ?_⟩
    rw [if_neg hreach]
    exact ⟨rfl, hhalts⟩

/-- From a start on, as long as the clock only advances and no one stops the sweeper, it sweeps at each
round that the clock reaches, once, and never else. -/
theorem scheduled_after (hrests : s.timeline.Rests) {orders : List Order} (hcalm : ∀ o ∈ orders, o.isCalm) :
    (s.startSweeper.2.after orders).isSweeping ∧
      ∃ n, scheduled (s.startSweeper.2.history (s.startSweeper.2.plan orders)) =
          (List.range n).map (roundCall s.firstRound s.sweeper.settings) ∧
        ∀ k, k < n ↔ s.firstRound < Cadence.clockEnd ∧
          roundAt s.firstRound s.sweeper.settings.interval k ≤ (s.startSweeper.2.after orders).now := by
  have h' : s.startSweeper.2.IsTended := tended_startSweeper h
  have hrests' : s.startSweeper.2.timeline.Rests := rests_perform hrests .startSweeper
  have hfirst : 1000000 ∣ s.firstRound := dvd_firstRound hwhole hmilli
  obtain ⟨hsweeper, hnow, -⟩ := start_spec hstart
  have hsettings : s.startSweeper.2.sweeper.settings = s.sweeper.settings := by rw [hsweeper]
  have hround : s.startSweeper.2.firstRound = s.firstRound := by rw [firstRound, hsettings, hnow, firstRound]
  obtain ⟨hkept, i, n, hcalls, hplay⟩ :=
    play_start hstart h hmilli hperiod hwhole (inTurn_plan hrests' orders) (isCalm_plan hcalm)
  rw [play_plan] at hkept hplay
  rw [← hsettings] at hperiod hwhole
  split at hplay
  · rename_i hreach
    obtain ⟨hr₀, hr⟩ := hplay
    have hahead := ahead_after hr₀ h' hrests' (ahead_start (hround ▸ hr₀) hperiod) hperiod hwhole hfirst hcalm
    refine ⟨?_, n, hcalls, fun k => ?_⟩
    · obtain ⟨⟨e, hworks, -⟩, -⟩ := hr
      exact hworks.isSweeping
    · rw [lt_iff_roundAt_le hr hahead, hkept, hsettings]
      exact (and_iff_right hreach).symm
  · rename_i hreach
    obtain ⟨rfl, e, hworks, -⟩ := hplay
    exact ⟨hworks.isSweeping, 0, hcalls, fun k =>
      ⟨fun hk => absurd hk (Nat.not_lt_zero k), fun hk => absurd hk.1 hreach⟩⟩

end

end Station

end Liveness
