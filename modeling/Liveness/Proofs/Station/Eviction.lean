import Liveness.Proofs.Station.Schedule

/-!
# Exact eviction

A sweep at an instant takes a device away just if that instant is later than the
latest refresh of the device by more than is allowed, and nothing else takes
devices away because they expired, unless a caller does so
(`Station.Punctual`).  A sweeper that was started sweeps at its rounds, the first of
which comes one interval after its start (`Station.exact_eviction`).
-/

namespace Liveness

namespace Station

/-- The hub that was new at the start of a history, after it. -/
def hubAfter (walk : Walk) (history : List (Source × Hub.Call)) : Hub := ({ walk } : Hub).run (history.map Prod.snd)

/-- The latest refresh of a device in a history. -/
def lastRefresh? (walk : Walk) (d : Device) (history : List (Source × Hub.Call)) : Option Int :=
  Hub.lastRefresh? walk d.serial (history.map Prod.snd)

/-- A history in which devices that are under their own ids go when their time has come. -/
structure Punctual (walk : Walk) (history : List (Source × Hub.Call)) : Prop where
  /-- What comes later in a history does not happen at an earlier time. -/
  ordered : (history.map fun v => v.2.1).Pairwise (· ≤ ·)
  /-- A sweep removes the devices that are silent for too long, and tells every observer of these. -/
  sweeps : ∀ before source now limit after, history = before ++ (source, now, .sweep now limit) :: after →
    ∀ id d, (hubAfter walk before).registry.get? id = some d → d.id = id →
      ∃ t, lastRefresh? walk d before = some t ∧
        ((hubAfter walk before).step now (.sweep now limit)).registry.get? id =
          (if t + limit.nanos < now then none else some d) ∧
        ∀ i, i < (hubAfter walk before).observers.length →
          (Hub.expiry d ∈ (hubAfter walk before).movements i (now, .sweep now limit) ↔ t + limit.nanos < now)
  /-- A device that is there has outlived no sweep since it came. -/
  survivors : ∀ before after, history = before ++ after →
    ∀ id d, (hubAfter walk before).registry.get? id = some d → d.id = id →
      ∃ t, lastRefresh? walk d before = some t ∧
        ∀ b source now limit a, before = b ++ (source, now, .sweep now limit) :: a →
          d.serial ≤ (hubAfter walk b).registry.stored → now ≤ t + limit.nanos
  /-- No one is told that a device expired but in sweeps, or when a caller asks for it. -/
  others : ∀ before source now op after, history = before ++ (source, now, op) :: after →
    ∀ i m, m ∈ (hubAfter walk before).movements i (now, op) → m.isExpiry →
      (source = .command ∨ source = .schedule) ∧ (∃ limit, op = .sweep now limit) ∨
        source = .caller ∧ op.expires

variable {s : Station}

/-- Each call of a history is apt in the act in which it is made. -/
theorem apt_of_mem_history {acts : List Act} (hacts : s.InTurn acts) (h : s.IsTended)
    {v : Source × Hub.Call} (hv : v ∈ s.history acts) :
    ∃ done a rest, acts = done ++ a :: rest ∧ v.2.1 = (s.play done).now ∧
      Apt (s.play done) a (v.1, v.2.2) := by
  induction acts generalizing s with
  | nil => cases hv
  | cons a as ih =>
    rcases List.mem_append.mp hv with hv | hv
    · obtain ⟨w, hw, rfl⟩ := List.mem_map.mp hv
      exact ⟨[], a, as, rfl, rfl, apt_of_mem_visits h hw⟩
    · obtain ⟨done, b, rest, heq, hnow, hapt⟩ := ih hacts.2 (tended_act hacts.1 h) hv
      exact ⟨a :: done, b, rest, by rw [heq]; rfl, hnow, hapt⟩

/-- The histories of stations are punctual. -/
theorem punctual_history {settings : SweepSettings} {walk : Walk} {acts : List Act}
    (hacts : (opened settings walk).InTurn acts) : Punctual walk ((opened settings walk).history acts) := by
  refine ⟨sorted_history hacts, ?_, ?_, ?_⟩
  · intro before source now limit after heq id d hd hid
    have hnum : (hubAfter walk before).census.Numbered := Hub.numbered_run _
    refine ⟨d.clock.lastSeen, Hub.lastRefresh_run hd, ?_, fun i hi => ?_⟩
    · change ((hubAfter walk before).sweep now now limit).1.registry.get? id = _
      rw [Hub.get?_sweep hnum hd hid]
      simp only [LastSeen.isExpired_iff]
    · rw [Hub.mem_movements_sweep hnum hi, ← LastSeen.isExpired_iff]
      constructor
      · rintro ⟨d', heq', -, hexpired⟩
        rwa [Hub.expiry_inj heq']
      · exact fun hexpired => ⟨d, rfl, hid ▸ hd, hexpired⟩
  · intro before after heq id d hd hid
    refine ⟨d.clock.lastSeen, Hub.lastRefresh_run hd, fun b source now limit a hsplit hcame => ?_⟩
    rw [hsplit, hubAfter, List.map_append, List.map_cons] at hd
    exact Hub.le_lastSeen_of_sweep hd hid hcame
  · intro before source now op after heq i m hm hexpiry
    have hv : (source, now, op) ∈ (opened settings walk).history acts := by
      rw [heq]
      exact List.mem_append_right _ List.mem_cons_self
    obtain ⟨done, a, rest, -, rfl, hapt⟩ := apt_of_mem_history hacts (tended_opened settings walk) hv
    have hexpires : op.expires = true := by
      refine Bool.not_eq_false _ ▸ fun hspares => ?_
      rw [Hub.movements_of_not_expires _ hspares hm] at hexpiry
      cases hexpiry
    cases hapt with
    | caller => exact .inr ⟨rfl, hexpires⟩
    | command => exact .inl ⟨.inl rfl, _, rfl⟩
    | schedule => exact .inl ⟨.inr rfl, _, rfl⟩
    | service op hspares => cases hspares.symm.trans hexpires

/-- From a start of the sweeper on, a station keeps time: it sweeps once at each round that the clock
has reached, first one interval after the start, and devices go just when their time has come. -/
structure KeepsTime (settings : SweepSettings) (walk : Walk) (earlier during : List Order) (s : Station) : Prop where
  hub : (s.startSweeper.2.after during).hub =
    hubAfter walk ((opened settings walk).history ((opened settings walk).plan (earlier ++ [.deed .startSweeper])) ++
      s.startSweeper.2.history (s.startSweeper.2.plan during))
  punctual : Punctual walk
    ((opened settings walk).history ((opened settings walk).plan (earlier ++ [.deed .startSweeper])) ++
      s.startSweeper.2.history (s.startSweeper.2.plan during))
  rounds : ∃ n, scheduled (s.startSweeper.2.history (s.startSweeper.2.plan during)) =
      (List.range n).map (roundCall s.firstRound s.sweeper.settings) ∧
    ∀ k, k < n ↔ s.firstRound < Cadence.clockEnd ∧
      roundAt s.firstRound s.sweeper.settings.interval k ≤ (s.startSweeper.2.after during).now
  /-- Sweeps by command use the limit of the schedule. -/
  commands : ∀ now op, (.command, now, op) ∈ s.startSweeper.2.history (s.startSweeper.2.plan during) →
    op = .sweep now s.sweeper.settings.expireAfter
  /-- The schedule sweeps only while a sweeper runs, and the one that was started still does. -/
  sweeping : (s.startSweeper.2.after during).isSweeping ∧
    ∀ done a rest op, (opened settings walk).plan (earlier ++ .deed .startSweeper :: during) = done ++ a :: rest →
      (.schedule, op) ∈ ((opened settings walk).play done).visits a → ((opened settings walk).play done).isSweeping

/-- The history of a run is what came up to the start of the sweeper, and then what came since. -/
theorem history_start {settings : SweepSettings} {walk : Walk} {earlier during : List Order}
    (hs : (opened settings walk).after earlier = s) :
    (opened settings walk).history ((opened settings walk).plan (earlier ++ .deed .startSweeper :: during)) =
      (opened settings walk).history ((opened settings walk).plan (earlier ++ [.deed .startSweeper])) ++
        s.startSweeper.2.history (s.startSweeper.2.plan during) := by
  have hbegun : (opened settings walk).after (earlier ++ [.deed .startSweeper]) = s.startSweeper.2 := by
    rw [after_append, hs]
    rfl
  have hplan : (opened settings walk).plan (earlier ++ .deed .startSweeper :: during) =
      (opened settings walk).plan (earlier ++ [.deed .startSweeper]) ++ s.startSweeper.2.plan during := by
    rw [← hbegun, ← plan_append, List.append_assoc]
    rfl
  rw [hplan, history_append, play_plan, hbegun]

/-- While a sweeper runs its limit does not change. -/
theorem limit_of_command (hstart : s.startSweeper.1 = true) (h : s.IsTended) (hmilli : 1000000 ∣ s.now)
    (hperiod : 1000000 ≤ s.sweeper.settings.interval.nanos) (hwhole : 1000000 ∣ s.sweeper.settings.interval.nanos)
    {acts : List Act} (hacts : s.startSweeper.2.InTurn acts) (hcalm : ∀ a ∈ acts, a.isCalm) {now : Int}
    {op : Hub.Op} (hv : (.command, now, op) ∈ s.startSweeper.2.history acts) :
    op = .sweep now s.sweeper.settings.expireAfter := by
  obtain ⟨done, a, rest, rfl, hnow, hapt⟩ := apt_of_mem_history hacts (tended_startSweeper h) hv
  have hdone : s.startSweeper.2.InTurn done := ((inTurn_append _ done _).mp hacts).1
  obtain ⟨hkept, -⟩ := play_start hstart h hmilli hperiod hwhole hdone fun b hb => hcalm b (List.mem_append_left _ hb)
  cases hapt with
  | command => rw [hkept, (start_spec hstart).1, ← hnow]

/-- A sweeper is started at some moment of a run, with an interval of whole milliseconds.  As long as the clock
only advances and no one stops the sweeper, the station keeps time; before that the clock may even have jumped, by
whole milliseconds. -/
theorem exact_eviction {settings : SweepSettings} {walk : Walk} {earlier during : List Order} {s : Station}
    (hs : (opened settings walk).after earlier = s) (hearlier : ∀ o ∈ earlier, o.isWhole)
    (hstart : s.startSweeper.1 = true) (hwhole : ∃ m, 0 < m ∧ s.sweeper.settings.interval = .ofMillis m)
    (hcalm : ∀ o ∈ during, o.isCalm) : KeepsTime settings walk earlier during s := by
  obtain ⟨hperiod, hmillis⟩ := Span.whole_of_ofMillis hwhole
  have hrests : s.timeline.Rests := hs ▸ rests_after (rests_opened settings walk) earlier
  have htended : s.IsTended := hs ▸ tended_after (rests_opened settings walk) (tended_opened settings walk) earlier
  have hmilli : 1000000 ∣ s.now := hs ▸ dvd_now_of_opened settings walk hearlier
  have hturn : s.startSweeper.2.InTurn (s.startSweeper.2.plan during) :=
    inTurn_plan (rests_perform hrests .startSweeper) during
  have hturns : (opened settings walk).InTurn
      ((opened settings walk).plan (earlier ++ .deed .startSweeper :: during)) :=
    inTurn_plan (rests_opened settings walk) _
  obtain ⟨hsweeping, hrounds⟩ := scheduled_after hstart htended hmilli hperiod hmillis hrests hcalm
  refine ⟨?_, ?_, hrounds, ?_, hsweeping, ?_⟩
  · have hplayed := hub_play (opened settings walk)
      ((opened settings walk).plan (earlier ++ .deed .startSweeper :: during))
    rw [play_plan, after_append, hs, history_start hs] at hplayed
    exact hplayed
  · rw [← history_start hs]
    exact punctual_history hturns
  · intro now op hv
    exact limit_of_command hstart htended hmilli hperiod hmillis hturn (isCalm_plan hcalm) hv
  · intro done a rest op hsplit hv
    rw [hsplit] at hturns
    have hdone : ((opened settings walk).play done).IsTended :=
      tended_play ((inTurn_append _ done _).mp hturns).1 (tended_opened settings walk)
    cases apt_of_mem_visits hdone hv with
    | schedule i limit _ _ hsweeping => exact hsweeping

/-- A device is silent from zero on and goes at the second round, since the first is not strictly later than
its deadline. -/
theorem exact_eviction_of_silent :
    let settings : SweepSettings := { expireAfter := .ofMillis 10, interval := .ofMillis 10 }
    let earlier : List Order := [.deed (.onHub (.put { id := "a", link := 0 }))]
    let s := (opened settings).after earlier
    (∀ o ∈ earlier, o.isWhole) ∧ s.startSweeper.1 = true ∧
      (∃ m, 0 < m ∧ s.sweeper.settings.interval = .ofMillis m) ∧
      (∀ o ∈ [Order.advance (.ofMillis 20)], o.isCalm) ∧
      KeepsTime settings .byId earlier [.advance (.ofMillis 20)] s ∧
      (s.startSweeper.2.after [.advance (.ofMillis 19)]).hub.registry.contains "a" = true ∧
      (s.startSweeper.2.after [.advance (.ofMillis 20)]).hub.registry.contains "a" = false := by
  refine ⟨by decide, by decide +kernel, ⟨10, by decide, rfl⟩, by decide, ?_, by decide +kernel, by decide +kernel⟩
  exact exact_eviction rfl (by decide) (by decide +kernel) ⟨10, by decide, rfl⟩ (by decide)

/-- Where devices go at other times than at whole intervals after the start of the sweeper, or sooner than
their limit after a refresh: the clock does not wait for more than thirty years once work recurs, a mark holds one
word of nanoseconds, and callers may name any reason. -/
theorem eviction_off_schedule :
    -- the second sweep comes before a whole interval has passed since the first one
    (let settings : SweepSettings := { expireAfter := .ofMillis 157680000000, interval := .ofMillis 1261440000000 }
     let s := (opened settings).after
       [.deed .startSweeper, .advance (.ofMillis 946080000000), .advance (.ofMillis 315360000000),
        .deed (.onHub (.put { id := "a", link := 0 }))]
     s.now = settings.interval.after 0 ∧ s.hub.registry.contains "a" = true ∧
       (s.after [.advance (.ofMillis 946080000000)]).now < settings.interval.after s.now ∧
       (s.after [.advance (.ofMillis 946080000000)]).hub.registry.contains "a" = false) ∧
    -- a device has just been touched
    (let settings : SweepSettings := { expireAfter := .ofMillis 31536000000 }
     let s := (opened settings).after
       (.deed (.onHub (.put { id := "a", link := 0 })) :: List.replicate 20 (.advance (.ofMillis 946080000000)))
     let touched := s.perform (.onHub (.touch "a"))
     touched.now = s.now ∧ touched.hub.registry.contains "a" = true ∧
       (touched.perform .sweepNow).hub.registry.contains "a" = false) ∧
    -- no sweep runs at all
    (let s := (opened {}).after
       [.deed (.onHub (.addObserver {})), .deed (.onHub (.put { id := "a", link := 0 })),
        .deed (.onHub (.remove "a" .expired))]
     (s.hub.told 0).any Movement.isExpiry = true) := by
  refine ⟨?_, ?_, ?_⟩ <;> decide +kernel

end Station

end Liveness
