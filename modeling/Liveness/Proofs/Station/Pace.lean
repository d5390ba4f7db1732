import Liveness.Proofs.Station.Launches

/-!
# The pace of reconnect attempts

Checks of a timer come at the instants of a schedule, and those that find an attempt
under way do nothing, so from one attempt to the next it takes as many periods as the
latency of the connector fills, and one at least (`Cadence.stride`).  `Station.Paced`
says how far a timer has come: it waits for the check that is to call for its next
attempt, has called for it, or the attempt is under way.  Every act that spares the timer
keeps this (`Station.proceeds_act`) as long as the connector is not connected, and attempts
start only at the instants of their own schedule.
-/

namespace Liveness

/-! ## The stride -/

namespace Cadence

/-- How many periods pass from one attempt to the next. -/
def stride (period latency : Span) : Nat := max 1 ((beat latency + beat period - 1) / beat period).toNat

/-- A period and a latency in whole milliseconds, and the first number of periods, but zero, that is longer than the
latency. No number of periods is as long. -/
structure Paces (p l : Span) (q : Nat) : Prop where
  period : 1000000 ≤ p.nanos
  wholePeriod : 1000000 ∣ p.nanos
  wholeLatency : 1000000 ∣ l.nanos
  pos : 0 < q
  below : beat l < q * beat p
  above : ∀ r : Nat, 0 < r → r < q → r * beat p < beat l

variable {p l : Span} {q : Nat}

theorem beat_pos (hp : 0 < p.nanos) : 0 < beat p := Int.lt_min.mpr ⟨Int.natCast_pos.mpr hp, by decide⟩

theorem Paces.beat_pos (h : Paces p l q) : 0 < beat p := Cadence.beat_pos (Nat.lt_of_lt_of_le (by decide) h.period)

theorem beat_of_isZero (hl : l.isZero = true) : beat l = 0 := by
  have hzero : l.nanos = 0 := by simpa [Span.isZero] using hl
  rw [beat, hzero]
  decide

/-- Attempts that take no time start at every check. -/
theorem Paces.eq_one (h : Paces p l q) (hl : l.isZero = true) : q = 1 := by
  refine Nat.le_antisymm (Nat.le_of_not_lt fun hq => ?_) h.pos
  have hshort := h.above 1 Nat.one_pos hq
  rw [beat_of_isZero hl, Int.natCast_one, Int.one_mul] at hshort
  exact Int.lt_asymm hshort h.beat_pos

/-- A latency that is no positive multiple of the period. -/
theorem paces_stride (hperiod : 1000000 ≤ p.nanos) (hp : 1000000 ∣ p.nanos) (hl : 1000000 ∣ l.nanos)
    (hclash : ∀ r : Nat, 0 < r → beat l ≠ r * beat p) : Paces p l (stride p l) := by
  have hbeat : 0 < beat p := beat_pos (Nat.lt_of_lt_of_le (by decide) hperiod)
  have hle := Int.ediv_mul_le (beat l + beat p - 1) (Int.ne_of_gt hbeat)
  have hlt := Int.lt_ediv_add_one_mul_self (beat l + beat p - 1) hbeat
  have hpos : 0 < stride p l := Nat.lt_of_lt_of_le Nat.one_pos (Nat.le_max_left _ _)
  rcases Int.lt_or_le 0 ((beat l + beat p - 1) / beat p) with hsome | hnone
  · have hstride : (stride p l : Int) = (beat l + beat p - 1) / beat p := by
      rw [stride]
      omega
    have hne := hclash (stride p l) hpos
    rw [← hstride] at hle hlt
    rw [Int.add_mul, Int.one_mul] at hlt
    refine ⟨hperiod, hp, hl, hpos, by omega, fun r _ hr => ?_⟩
    have hmul := Int.mul_le_mul_of_nonneg_right (Int.ofNat_le.mpr (Nat.succ_le_of_lt hr)) (Int.le_of_lt hbeat)
    rw [Nat.succ_eq_add_one, Int.natCast_add, Int.add_mul, Int.natCast_one, Int.one_mul] at hmul
    omega
  · have hone : stride p l = 1 := by
      rw [stride]
      omega
    have hmul := Int.mul_le_mul_of_nonneg_right (Int.add_le_add_right hnone 1) (Int.le_of_lt hbeat)
    rw [Int.zero_add, Int.one_mul] at hmul
    rw [hone]
    refine ⟨hperiod, hp, hl, Nat.one_pos, ?_, fun r hr hr' => absurd hr' (Nat.not_lt_of_le hr)⟩
    rw [Int.natCast_one, Int.one_mul]
    omega

end Cadence

/-! ## Connectors -/

/-- How a connector behaves towards a timer whose attempts, numbered from zero, take so long: what it is like when
some have started and some have ended, which are made at all, what they are, and how they end. -/
structure Manner (l : Span) where
  state : (started ended : Nat) → Connector → Prop
  made : Nat → Prop
  attempt : Nat → Attempt → Prop
  result : Nat → ConnectResult → Prop
  takes {m d : Nat} {conn : Connector} : state m d conn → conn.Takes l
  ask {m : Nat} {conn : Connector} : state m m conn → state m m conn.ask.2
  down {m : Nat} {conn : Connector} : state m m conn → conn.ask.1 = some false → made m
  start {m : Nat} {conn : Connector} : state m m conn → ∀ now,
    attempt m (conn.start now).1 ∧ state (m + 1) m (conn.start now).2.2
  finish {m : Nat} {conn : Connector} {attempt' : Attempt} : state (m + 1) m conn → attempt m attempt' →
    result m (conn.finish attempt').1 ∧ state (m + 1) (m + 1) (conn.finish attempt').2

namespace Station

variable {s s' : Station} {k : TimerId} {c : ConnectorId} {i : EntryId} {e : Entry Job} {start : Int} {p l : Span}
  {q n m d N N' : Nat} {M : Manner l} {a : Act}

theorem roundAt_add (start : Int) (p : Span) (j r : Nat) :
    roundAt start p (j + r) = roundAt start p j + r * Cadence.beat p := by
  unfold roundAt
  rw [Int.natCast_add, Int.add_mul, Int.add_assoc]

theorem roundAt_lt {j k : Nat} (hp : 0 < Cadence.beat p) (hjk : j < k) : roundAt start p j < roundAt start p k := by
  have hmul := Int.mul_lt_mul_of_pos_right (Int.ofNat_lt.mpr hjk) hp
  unfold roundAt
  omega

theorem lt_of_roundAt_lt (start : Int) (p : Span) {j k : Nat} (h : roundAt start p j < roundAt start p k) : j < k :=
  Nat.lt_of_not_le fun hle => Int.not_le.mpr h (roundAt_le hle)

/-- A timer that is free has not called for an attempt. -/
theorem dials_of_free (hf : Flight k N N' s.agenda s.floor) (hfree : (s.timer k).inFlight = false) :
    s.agenda.errands.filter (Job.dials k) = [] := by
  have hcount : s.agenda.unfinished k + s.agenda.called k = (s.timer k).inFlight.toNat := hf.inFlight
  rw [hfree] at hcount
  refine List.length_eq_zero_iff.mp ?_
  rw [← List.countP_eq_length_filter]
  exact (Nat.add_eq_zero_iff.mp hcount).2

/-- There is one unfinished attempt at most, and none while one is called for. -/
theorem eq_of_unfinished (hf : Flight k N N' s.agenda s.floor) {i j : EntryId} {e e' : Entry Job}
    (he : s.agenda.entries[i]? = some e) (hunfinished : Agenda.isUnfinished k e = true)
    (he' : s.agenda.entries[j]? = some e') (hunfinished' : Agenda.isUnfinished k e' = true) :
    i = j ∧ s.agenda.errands.filter (Job.dials k) = [] := by
  have hcount : s.agenda.unfinished k + s.agenda.called k = (s.timer k).inFlight.toNat := hf.inFlight
  have hle : (s.timer k).inFlight.toNat ≤ 1 := Bool.toNat_le _
  -- without the first of them there would be one less
  have hless := Agenda.unfinished_modify he (·.restage .ended) k
  rw [hunfinished, Agenda.isUnfinished, Entry.isLive_restage_ended, Bool.false_and, Bool.toNat_true, Bool.toNat_false]
    at hless
  constructor
  · refine Decidable.by_contra fun hne => ?_
    have hkept : (s.agenda.modify i (·.restage .ended)).entries[j]? = some e' := by
      rw [Agenda.modify, Array.getElem?_modify, if_neg hne, he']
    have hpos : 0 < (s.agenda.modify i (·.restage .ended)).unfinished k :=
      Array.countP_pos_iff.mpr ⟨e', Array.mem_of_getElem? hkept, hunfinished'⟩
    omega
  · refine List.length_eq_zero_iff.mp ?_
    rw [← List.countP_eq_length_filter]
    change s.agenda.called k = 0
    omega

theorem isUnfinished_of_due? {due : Int} {number : Nat} {attempt : Attempt} (hdue : e.due? = some due)
    (hjob : e.job = .answer k c number attempt) : Agenda.isUnfinished k e = true := by
  rw [Agenda.isUnfinished, Entry.isLive_of_due? hdue, hjob, Job.answers, beq_self_eq_true]
  rfl

/-! ## How far a timer has come -/

/-- How far the attempts of a timer have come when its task has run so many times, and so many of them have started
and have ended. -/
inductive Leg (k : TimerId) (c : ConnectorId) (start : Int) (p : Span) (q : Nat) (M : Manner l) (n : Nat) :
    Nat → Nat → Station → Prop
  /-- The next attempt has not been called for. -/
  | idle {m : Nat} {s : Station} {conn : Connector} : s.floor.connectors[c]? = some conn → M.state m m conn →
      n = m * q → (s.timer k).inFlight = false → Leg k c start p q M n m m s
  /-- It has been called for in this instant. -/
  | called {m number : Nat} {s : Station} {conn : Connector} : s.floor.connectors[c]? = some conn → M.state m m conn →
      n = m * q + 1 → M.made m → s.now = roundAt start p (m * q) →
      s.agenda.errands.filter (Job.dials k) = [.dial k c number] → Leg k c start p q M n m m s
  /-- It is under way. -/
  | flying {m number : Nat} {s : Station} {conn : Connector} {j : EntryId} {e : Entry Job} {attempt : Attempt}
      {due : Int} : s.floor.connectors[c]? = some conn → M.state (m + 1) m conn → m * q < n → n ≤ (m + 1) * q →
      l.isZero = false → s.agenda.entries[j]? = some e → e.job = .answer k c number attempt → M.attempt m attempt →
      e.due? = some due → due = roundAt start p (m * q) + Cadence.beat l → s.now ≤ due →
      Leg k c start p q M n (m + 1) m s

/-- A timer at work whose task has run so many times, and of whose attempts so many have started and have ended. -/
structure Paced (k : TimerId) (c : ConnectorId) (i : EntryId) (start : Int) (p : Span) (q : Nat) (M : Manner l)
    (n m d : Nat) (s : Station) : Prop where
  task : (s.timer k).task = some i
  held : 0 < (s.timer k).handles
  entry : ∃ e, s.agenda.entries[i]? = some e ∧ e.job = .check k c ∧ e.period = some p ∧
    e.due? = some (roundAt start p n)
  past : ∀ j < n, roundAt start p j ≤ s.now
  next : s.now ≤ roundAt start p n
  milli : 1000000 ∣ s.now
  leg : Leg k c start p q M n m d s

/-- What an act does to a timer that has started so many attempts. -/
structure Proceeds (k : TimerId) (c : ConnectorId) (i : EntryId) (start : Int) (p : Span) (q : Nat) (M : Manner l)
    (m d : Nat) (s : Station) (a : Act) : Prop where
  paced : ∃ n, Paced k c i start p q M n (m + s.growth Floor.calls k a) (d + (s.ended k a).length) (s.act a)
  starts : s.growth Floor.calls k a = 0 ∨ s.growth Floor.calls k a = 1 ∧ M.made m ∧ s.now = roundAt start p (m * q)
  ended : s.ended k a = [] ∨ ∃ result, s.ended k a = [result] ∧ M.result d result ∧
    s.now = roundAt start p (d * q) + Cadence.beat l

section

variable (hpaces : Cadence.Paces p l q) (hwhole : 1000000 ∣ start)

include hpaces hwhole

theorem dvd_tick (j : Nat) : (1000000 : Int) ∣ roundAt start p j := dvd_roundAt hpaces.wholePeriod hwhole j

/-- A check that wakes up is on time, runs once, and ends no attempt. -/
theorem Paced.ready (h : Paced k c i start p q M n m d s) (hmay : s.May (.time (.wake i))) :
    s.now = roundAt start p n ∧ s.ended k (.time (.wake i)) = [] ∧
      ∃ e, s.agenda.entries[i]? = some e ∧ e.due? = some s.now ∧ e.job = .check k c ∧
        e.plan s.now s.now = ([s.now], .waiting (roundAt start p (n + 1))) ∧
        ((e.ran s.now s.now false).restage (.waiting (roundAt start p (n + 1)))).period = some p ∧
        ((e.ran s.now s.now false).restage (.waiting (roundAt start p (n + 1)))).due? =
          some (roundAt start p (n + 1)) := by
  obtain ⟨e, he, hjob, hperiod, hdue⟩ := h.entry
  have hround := dvd_tick hpaces hwhole n
  have hnow : s.now = roundAt start p n := by
    refine Cadence.eq_of_isReady (hmay _ ⟨e, he, hdue⟩) ?_ hround h.milli
    rw [Instant.floorMilli_of_dvd h.milli, Instant.ceilMilli_of_dvd hround]
    exact h.next
  have hontime : Instant.floorMilli s.now = Instant.ceilMilli s.now := by
    rw [Instant.floorMilli_of_dvd h.milli, Instant.ceilMilli_of_dvd h.milli]
  have hcancelled : e.cancelled = false := (Entry.due?_eq_some.mp hdue).1
  have hlive : (e.ran s.now s.now false).isLive := Entry.isLive_of_due? hdue
  refine ⟨hnow, ?_, e, he, hnow ▸ hdue, hjob, ?_, hperiod, Entry.due?_eq_some.mpr ⟨hcancelled, ?_⟩⟩
  · rw [ended_wake he hdue, hjob]
    rfl
  · simp only [Entry.plan, hperiod]
    rw [Cadence.next_on_time hpaces.period h.milli, Cadence.served_on_time hpaces.period hontime, roundAt_succ, hnow]
  · rw [Entry.restage, if_pos hlive]

/-- What others leave as it is. -/
theorem paced_spared (hmay : s.May a) (hleap : ∀ now, a ≠ .time (.leap now))
    (hspared : Spared k s (s.act a))
    (hconn : ∀ conn, s.floor.connectors[c]? = some conn → ∃ conn', (s.act a).floor.connectors[c]? = some conn' ∧
      ∀ m d, M.state m d conn → M.state m d conn')
    (h : Paced k c i start p q M n m d s) : Paced k c i start p q M n m d (s.act a) := by
  obtain ⟨htask, hheld, ⟨e, he, hjob, hperiod, hdue⟩, hpast, hnext, hmilli, hleg⟩ := h
  have he' := hspared.entries i e he (by rw [hjob]; rfl)
  refine ⟨hspared.task.trans htask, hspared.handles hheld, ⟨e, he', hjob, hperiod, hdue⟩,
    fun j hj => Int.le_trans (hpast j hj) (now_le_act hmay),
    now_act_le hmay hleap hmilli (dvd_tick hpaces hwhole n) ⟨e, he, hdue⟩ hnext, dvd_now_act hmay hleap hmilli, ?_⟩
  cases hleg with
  | idle hc hstate hn hfree =>
    obtain ⟨conn', hc', hstate'⟩ := hconn _ hc
    exact .idle hc' (hstate' _ _ hstate) hn (hspared.inFlight.trans hfree)
  | called hc hstate hn hmade hnow herrands =>
    obtain ⟨conn', hc', hstate'⟩ := hconn _ hc
    refine .called hc' (hstate' _ _ hstate) hn hmade ?_ (hspared.errands.trans herrands)
    -- the clock does not move before the attempt has started
    rw [now_act fun now => ⟨fun heq => ?_, hleap now⟩, hnow]
    subst heq
    have hnone : s.agenda.errands = [] := hmay.2.2.1
    rw [hnone] at herrands
    cases herrands
  | flying hc hstate hlow hhigh hzero hj hjob hattempt hdue hend hle =>
    obtain ⟨conn', hc', hstate'⟩ := hconn _ hc
    have hdvd := Int.dvd_add (dvd_tick hpaces hwhole (d * q)) (Cadence.dvd_beat hpaces.wholeLatency)
    exact .flying hc' (hstate' _ _ hstate) hlow hhigh hzero (hspared.entries _ _ hj (by rw [hjob]; rfl)) hjob hattempt
      hdue hend (now_act_le hmay hleap hmilli (hend ▸ hdvd) ⟨_, hj, hdue⟩ hle)

section

variable (ht : s.IsTended) (hf : Flight k N N' s.agenda s.floor) (h : Paced k c i start p q M n m d s)

include ht hf h

/-- A check calls for the next attempt when its time has come, and leaves one under way alone. -/
theorem paced_check (hmay : s.May (.time (.wake i)))
    (hdown : (s.timer k).inFlight = false → s.floor.reply c = some false) :
    Proceeds k c i start p q M m d s (.time (.wake i)) := by
  obtain ⟨hround, hended, e, he, hdue, hjob, hplan, hperiod', hdue'⟩ := h.ready hpaces hwhole hmay
  have hsame := now_wake s i
  have hpast : ∀ j < n + 1, roundAt start p j ≤ (s.act (.time (.wake i))).now := fun j hj => by
    rw [hsame, hround]
    exact roundAt_le (Nat.le_of_lt_succ hj)
  have hnext : (s.act (.time (.wake i))).now ≤ roundAt start p (n + 1) := by
    rw [hsame, hround]
    exact roundAt_le (Nat.le_succ n)
  suffices ∃ n', Paced k c i start p q M n' m d (s.act (.time (.wake i))) by
    have hcalls : s.growth Floor.calls k (.time (.wake i)) = 0 := growth_check ht he hjob
    refine ⟨?_, .inl hcalls, .inl hended⟩
    rw [hcalls, hended]
    exact this
  cases h.leg with
  | idle hc hstate hn hfree =>
    obtain ⟨hticked, htimer, herrands, hconnectors⟩ := ticked_free ht he hdue hjob hplan hfree (hdown hfree)
    have hdials : (s.act (.time (.wake i))).agenda.errands.filter (Job.dials k) =
        [.dial k c ((s.timer k).attempts + 1)] := by
      rw [herrands, List.filter_append, dials_of_free hf hfree]
      exact List.filter_cons_of_pos (beq_self_eq_true k)
    obtain ⟨hasked, hreply⟩ := getElem?_connectors_asked hc
    refine ⟨n + 1, htimer ▸ h.task, htimer ▸ h.held, ⟨_, hticked.entry, hjob, hperiod', hdue'⟩, hpast, hnext,
      hsame ▸ h.milli, ?_⟩
    refine .called (hconnectors ▸ hasked) (M.ask hstate) (congrArg (· + 1) hn) (M.down hstate ?_) ?_ hdials
    · rw [← hreply]
      exact hdown hfree
    · rw [hsame, hround, hn]
  | called hc hstate hn hmade hnow herrands =>
    -- a task does not wake up twice in one instant
    have hlt : roundAt start p (m * q) < roundAt start p (m * q + 1) := roundAt_lt hpaces.beat_pos (Nat.lt_add_one _)
    rw [← hn, ← hround, ← hnow] at hlt
    exact absurd hlt (Int.lt_irrefl _)
  | @flying _ number _ conn j e' attempt due' hc hstate hlow hhigh hzero hj hjob' hattempt hdue'' hend hle =>
    have hflight : (s.timer k).inFlight = true :=
      inFlight_of_unfinished hf hj (Entry.isLive_of_due? hdue'') (by rw [hjob', Job.answers, beq_self_eq_true])
    obtain ⟨hticked, hfloor, herrands⟩ := ticked_busy ht he hdue hjob hplan hflight
    have htimer : (s.act (.time (.wake i))).timer k = s.timer k := congrArg (Floor.timer · k) hfloor
    have hne : j ≠ i := by
      rintro rfl
      obtain rfl := Option.some.inj (he.symm.trans hj)
      cases hjob'.symm.trans hjob
    refine ⟨n + 1, htimer ▸ h.task, htimer ▸ h.held, ⟨_, hticked.entry, hjob, hperiod', hdue'⟩, hpast, hnext,
      hsame ▸ h.milli, ?_⟩
    refine .flying (hfloor ▸ hc) hstate (Nat.lt_succ_of_lt hlow) ?_ hzero (hticked.others j e' hne hj) hjob'
      hattempt hdue'' hend (hsame ▸ hle)
    -- the attempt ends before the check that would call for the next one
    refine lt_of_roundAt_lt start p ?_
    rw [← hround]
    refine Int.lt_of_le_of_lt (hend ▸ hle) ?_
    rw [Nat.succ_mul, roundAt_add]
    exact Int.add_lt_add_left hpaces.below _

/-- An attempt ends before the next one is called for. -/
theorem paced_answer {j : EntryId} (hmay : s.May (.time (.wake j))) {e : Entry Job} (he : s.agenda.entries[j]? = some e)
    (hlive : e.isLive) (hanswers : e.job.answers k = true) :
    Proceeds k c i start p q M m d s (.time (.wake j)) := by
  have hunfinished : Agenda.isUnfinished k e = true := Bool.and_eq_true_iff.mpr ⟨hlive, hanswers⟩
  obtain ⟨htask, hheld, ⟨e₀, he₀, hcheck, hperiod, hdue₀⟩, hpast, hnext, hmilli, hleg⟩ := h
  cases hleg with
  | idle hc hstate hn hfree => cases hfree.symm.trans (inFlight_of_unfinished hf he hlive hanswers)
  | called hc hstate hn hmade hnow herrands =>
    rw [(eq_of_unfinished hf he hunfinished he hunfinished).2] at herrands
    cases herrands
  | @flying _ number _ conn _ e' attempt due hc hstate hlow hhigh hzero hj hjob hattempt hdue hend hle =>
    obtain ⟨rfl, -⟩ := eq_of_unfinished hf he hunfinished hj (isUnfinished_of_due? hdue hjob)
    obtain rfl := Option.some.inj (he.symm.trans hj)
    obtain ⟨⟨htimer, hentries⟩, -, hconnectors⟩ := landed_wake ht hj hdue hjob (Nat.ne_of_gt hheld)
    obtain ⟨hresult, hstate'⟩ := M.finish hstate hattempt
    have hended : s.ended k (.time (.wake j)) = [(conn.finish attempt).1] := by
      rw [ended_wake hj hdue, hjob, Floor.ended, if_pos rfl, (Floor.conclude_eq hc s.now attempt).1]
    have hcalls : s.growth Floor.calls k (.time (.wake j)) = 0 := growth_answer ht hf hj hjob
    have hkept : (s.act (.time (.wake j))).agenda.entries[i]? = some e₀ := by
      refine hentries i e₀ he₀ (Entry.isLive_of_due? hdue₀) ?_
      rw [hcheck]
      rfl
    -- the last check before this moment was the last one that finds the attempt under way
    have hdvd := Int.dvd_add (dvd_tick hpaces hwhole (d * q)) (Cadence.dvd_beat hpaces.wholeLatency)
    have hnow : s.now = due := by
      refine Cadence.eq_of_isReady (hmay due ⟨e, hj, hdue⟩) ?_ (hend ▸ hdvd) hmilli
      rw [Instant.floorMilli_of_dvd hmilli, Instant.ceilMilli_of_dvd (hend ▸ hdvd)]
      exact hle
    have hn : n = (d + 1) * q := by
      refine Nat.le_antisymm hhigh (Nat.le_of_not_lt fun hlt => ?_)
      obtain ⟨r, rfl⟩ := Nat.exists_eq_add_of_lt hlow
      rw [Nat.succ_mul, Nat.add_assoc] at hlt
      have hshort := hpaces.above (r + 1) (Nat.succ_pos r) (Nat.lt_of_add_lt_add_left hlt)
      rw [hnow, hend, Nat.add_assoc, roundAt_add] at hnext
      omega
    have hsame := now_wake s j
    refine ⟨⟨n, ?_⟩, .inl hcalls, .inr ⟨_, hended, hresult, hnow.trans hend⟩⟩
    rw [hcalls, hended]
    refine ⟨htimer ▸ htask, htimer ▸ hheld, ⟨e₀, hkept, hcheck, hperiod, hdue₀⟩, hsame ▸ hpast, hsame ▸ hnext,
      hsame ▸ hmilli, ?_⟩
    exact .idle (hconnectors ▸ getElem?_connectors_conclude hc s.now attempt) hstate' hn (congrArg Timer.inFlight htimer)

omit hwhole in
/-- An attempt starts at its time. -/
theorem paced_dial {c' : ConnectorId} {number : Nat} {rest : List Job}
    (herrands : s.agenda.errands = .dial k c' number :: rest) :
    Proceeds k c i start p q M m d s (.time .errand) := by
  obtain ⟨htask, hheld, ⟨e₀, he₀, hcheck, hperiod, hdue₀⟩, hpast, hnext, hmilli, hleg⟩ := h
  have hdial : (Job.dial k c' number).dials k = true := beq_self_eq_true k
  cases hleg with
  | idle hc hstate hn hfree =>
    have hflight := inFlight_of_dial hf (by rw [herrands]; exact List.mem_cons_self)
    cases hfree.symm.trans hflight
  | flying hc hstate hlow hhigh hzero hj hjob hattempt hdue hend hle =>
    have hunfinished := isUnfinished_of_due? hdue hjob
    have hnone := (eq_of_unfinished hf hj hunfinished hj hunfinished).2
    rw [herrands, List.filter_cons_of_pos hdial] at hnone
    cases hnone
  | @called _ number' _ conn hc hstate hn hmade hnow hcalled =>
    rw [herrands, List.filter_cons_of_pos hdial] at hcalled
    obtain ⟨heq, -⟩ := List.cons.inj hcalled
    obtain ⟨-, rfl, rfl⟩ := Job.dial.inj heq
    have htakes := M.takes hstate
    obtain ⟨hlaunched, -⟩ := launched_errand ht herrands hc htakes (Nat.ne_of_gt hheld)
    obtain ⟨hattempt, hstate'⟩ := M.start hstate s.now
    have hcalls := (begins_errand ht (k := k) (by rw [herrands]; rfl)).1
    have hended := ended_errand herrands hc htakes
    have hsame := s.now_errand
    cases hlaunched with
    | landed hzero hlanded hconn' =>
      rw [if_pos hzero] at hended
      obtain ⟨hresult, hstate''⟩ := M.finish hstate' hattempt
      have hkept := hlanded.entries i e₀ he₀ (Entry.isLive_of_due? hdue₀) (by rw [hcheck]; rfl)
      refine ⟨⟨n, ?_⟩, .inr ⟨hcalls, hmade, hnow⟩, .inr ⟨_, hended, hresult, ?_⟩⟩
      · rw [hcalls, hended]
        refine ⟨hlanded.timer ▸ htask, hlanded.timer ▸ hheld, ⟨e₀, hkept, hcheck, hperiod, hdue₀⟩, hsame ▸ hpast,
          hsame ▸ hnext, hsame ▸ hmilli, ?_⟩
        refine .idle hconn' hstate'' ?_ (congrArg Timer.inFlight hlanded.timer)
        rw [hn, hpaces.eq_one hzero, Nat.mul_one, Nat.mul_one]
      · rw [Cadence.beat_of_isZero hzero, Int.add_zero]
        exact hnow
    | flying hzero htimer hentries hj hjob hdue hconn' =>
      rw [if_neg (Bool.eq_false_iff.mp hzero)] at hended
      refine ⟨⟨n, ?_⟩, .inr ⟨hcalls, hmade, hnow⟩, .inl hended⟩
      rw [hcalls, hended]
      refine ⟨htimer ▸ htask, htimer ▸ hheld, ⟨e₀, hentries i e₀ he₀, hcheck, hperiod, hdue₀⟩, hsame ▸ hpast,
        hsame ▸ hnext, hsame ▸ hmilli, ?_⟩
      refine .flying hconn' hstate' (hn ▸ Nat.lt_add_one _) ?_ hzero hj hjob hattempt hdue ?_ ?_
      · rw [hn, Nat.succ_mul]
        exact Nat.add_le_add_left hpaces.pos _
      · rw [Cadence.within_after, hnow]
      · rw [hsame]
        exact Cadence.le_within s.now l

/-- A check whose connector answers that it is connected comes at the time of the next attempt, and ends the task. -/
theorem satisfied_check (hmay : s.May (.time (.wake i))) (hfree : (s.timer k).inFlight = false)
    (hup : s.floor.reply c = some true) :
    d = m ∧ s.now = roundAt start p (m * q) ∧ s.ended k (.time (.wake i)) = [] ∧
      s.growth Floor.calls k (.time (.wake i)) = 0 ∧
      (s.act (.time (.wake i))).timer k = { s.timer k with task := none } ∧
      ∃ conn, M.state m m conn ∧ conn.ask.1 = some true ∧
        (s.act (.time (.wake i))).floor.connectors[c]? = some conn.ask.2 := by
  obtain ⟨hround, hended, e, he, hdue, hjob, hplan, -⟩ := h.ready hpaces hwhole hmay
  obtain ⟨htimer, hconnectors⟩ := satisfied_wake ht he hdue hjob hplan hfree hup
  have hcalls : s.growth Floor.calls k (.time (.wake i)) = 0 := growth_check ht he hjob
  cases h.leg with
  | idle hc hstate hn =>
    obtain ⟨hasked, hreply⟩ := getElem?_connectors_asked hc
    exact ⟨rfl, hn ▸ hround, hended, hcalls, htimer, _, hstate, hreply ▸ hup, hconnectors ▸ hasked⟩
  | called hc hstate hn hmade hnow herrands =>
    rw [dials_of_free hf hfree] at herrands
    cases herrands
  | flying hc hstate hlow hhigh hzero hj hjob hattempt hdue' =>
    have hflight := inFlight_of_unfinished hf hj (Entry.isLive_of_due? hdue') (by rw [hjob]; exact beq_self_eq_true k)
    cases hfree.symm.trans hflight

/-- Every act that spares the timer lets it keep its pace, as long as no check finds the connector connected. -/
theorem proceeds_act (hmay : s.May a) (ha : a.spares k) (hleap : ∀ now, a ≠ .time (.leap now))
    (hdown : a = .time (.wake i) → (s.timer k).inFlight = false → s.floor.reply c = some false)
    (hconn : s.Others k a → ∀ conn, s.floor.connectors[c]? = some conn →
      ∃ conn', (s.act a).floor.connectors[c]? = some conn' ∧ ∀ m d, M.state m d conn → M.state m d conn') :
    Proceeds k c i start p q M m d s a := by
  cases turn_act ht k a with
  | check htask =>
    obtain rfl := Option.some.inj (h.task.symm.trans htask)
    exact paced_check hpaces hwhole ht hf h hmay (hdown rfl)
  | answer he hlive hjob =>
    exact paced_answer hpaces hwhole ht hf h hmay he hlive (by rw [hjob]; exact beq_self_eq_true k)
  | dial herrands => exact paced_dial hpaces ht hf h herrands
  | apart hothers =>
    have hcalls := growth_of_others Floor.calls (Act.ne_shutdown_of_spares ha) hothers
    have hended := ended_of_others hothers
    refine ⟨⟨n, ?_⟩, .inl hcalls, .inl hended⟩
    rw [hcalls, hended]
    exact paced_spared hpaces hwhole hmay hleap (spared_act ht ha hothers) (hconn hothers) h

end

end

/-- The instants of the attempts that have started are past. -/
theorem Paced.started_le (hpaces : Cadence.Paces p l q) (h : Paced k c i start p q M n m d s) {j : Nat} (hj : j < m) :
    roundAt start p (j * q) ≤ s.now := by
  have hle : (j + 1) * q ≤ m * q := Nat.mul_le_mul_right q hj
  have hpos := hpaces.pos
  refine h.past _ ?_
  cases h.leg with
  | idle hc hstate hn =>
    rw [Nat.succ_mul] at hle
    omega
  | called hc hstate hn =>
    rw [Nat.succ_mul] at hle
    omega
  | flying hc hstate hlow =>
    exact Nat.lt_of_le_of_lt (Nat.mul_le_mul_right q (Nat.le_of_lt_succ hj)) hlow

/-- After an advance the instant of the next attempt is ahead. -/
theorem Paced.lt_next (h : Paced k c i start p q M n m d s) (hidle : s.timeline.Idle)
    (herrands : s.agenda.errands = []) : s.now < roundAt start p (m * q) := by
  obtain ⟨e, he, -, -, hdue⟩ := h.entry
  have hlt : Instant.floorMilli s.now < roundAt start p n := hidle i _ ⟨e, he, hdue⟩
  rw [Instant.floorMilli_of_dvd h.milli] at hlt
  cases h.leg with
  | idle hc hstate hn => exact hn ▸ hlt
  | called hc hstate hn hmade hnow hcalled =>
    rw [herrands] at hcalled
    cases hcalled
  | flying hc hstate hlow hhigh => exact Int.lt_of_lt_of_le hlt (roundAt_le hhigh)

/-! ## Runs -/

/-- The times at which attempts of a timer start. -/
def startTimes (k : TimerId) : Station → List Act → List Int
  | _, [] => []
  | s, a :: as => List.replicate (s.growth Floor.calls k a) s.now ++ startTimes k (s.act a) as

/-- The times at which attempts of a timer end, and how they end. -/
def endings (k : TimerId) : Station → List Act → List (Int × ConnectResult)
  | _, [] => []
  | s, a :: as => (s.ended k a).map (s.now, ·) ++ endings k (s.act a) as

theorem startTimes_append (as bs : List Act) :
    startTimes k s (as ++ bs) = startTimes k s as ++ startTimes k (s.play as) bs := by
  induction as generalizing s with
  | nil => rfl
  | cons a as ih => rw [List.cons_append, startTimes, startTimes, ih, List.append_assoc, play_cons]

theorem endings_append (as bs : List Act) :
    endings k s (as ++ bs) = endings k s as ++ endings k (s.play as) bs := by
  induction as generalizing s with
  | nil => rfl
  | cons a as ih => rw [List.cons_append, endings, endings, ih, List.append_assoc, play_cons]

/-- So many attempts of a timer start and so many end, each at its time, and each ends as it should. -/
structure Attempted (k : TimerId) (T : Nat → Int) (latency : Int) (R : Nat → ConnectResult → Prop) (m d : Nat)
    (s : Station) (acts : List Act) : Prop where
  starts : startTimes k s acts = (List.range m).map T
  ended : (endings k s acts).length = d
  results : ∀ j x, (endings k s acts)[j]? = some x → x.1 = T j + latency ∧ R j x.2

/-- An act at which no more than one attempt starts and one ends, each at its time. -/
structure Timely (k : TimerId) (T : Nat → Int) (latency : Int) (R : Nat → ConnectResult → Prop) (m d : Nat)
    (s : Station) (a : Act) : Prop where
  starts : s.growth Floor.calls k a = 0 ∨ s.growth Floor.calls k a = 1 ∧ s.now = T m
  ended : s.ended k a = [] ∨ ∃ result, s.ended k a = [result] ∧ R d result ∧ s.now = T d + latency

variable {T : Nat → Int} {latency : Int} {R : Nat → ConnectResult → Prop} {acts : List Act}

theorem Attempted.snoc (h : Attempted k T latency R m d s acts) (ha : Timely k T latency R m d (s.play acts) a) :
    Attempted k T latency R (m + (s.play acts).growth Floor.calls k a) (d + ((s.play acts).ended k a).length) s
      (acts ++ [a]) where
  starts := by
    rw [startTimes_append, h.starts, startTimes, startTimes, List.append_nil]
    rcases ha.starts with hnone | ⟨hone, hnow⟩
    · rw [hnone]
      exact List.append_nil _
    · rw [hone, hnow, List.range_succ, List.map_append]
      rfl
  ended := by
    rw [endings_append, List.length_append, h.ended, endings, endings, List.append_nil, List.length_map]
  results := fun j x hx => by
    rw [endings_append, List.getElem?_append, h.ended] at hx
    split at hx
    · exact h.results j x hx
    · rw [endings, endings, List.append_nil] at hx
      rcases ha.ended with hnone | ⟨result, hone, hresult, hnow⟩
      · rw [hnone] at hx
        cases hx
      · rw [hone] at hx
        obtain ⟨hj, hx⟩ := List.getElem?_eq_some_iff.mp hx
        have hd : j = d := by
          have hlt : j - d < 1 := hj
          omega
        subst hd
        rw [← hx]
        simp only [Nat.sub_self, List.map_cons, List.getElem_cons_zero]
        exact ⟨hnow, hresult⟩

/-- Attempts of which it is known how each of them ends. -/
theorem Attempted.endings_eq {R : Nat → ConnectResult}
    (h : Attempted k T latency (fun j result => result = R j) m d s acts) :
    endings k s acts = (List.range d).map fun j => (T j + latency, R j) := by
  refine List.ext_getElem? fun j => ?_
  cases hx : (endings k s acts)[j]? with
  | none =>
    have hle : d ≤ j := h.ended ▸ List.getElem?_eq_none_iff.mp hx
    rw [List.getElem?_eq_none (by rwa [List.length_map, List.length_range])]
  | some x =>
    obtain ⟨htime, hresult⟩ := h.results j x hx
    have hlt : j < d := h.ended ▸ (List.getElem?_eq_some_iff.mp hx).1
    rw [List.getElem?_map, List.getElem?_range hlt, Option.map_some, ← htime, ← hresult]

/-- What has ended is past. -/
theorem le_now_of_mem_endings (hacts : s.InTurn acts) {x : Int × ConnectResult} (hx : x ∈ endings k s acts) :
    x.1 ≤ (s.play acts).now := by
  induction acts generalizing s with
  | nil => cases hx
  | cons a as ih =>
    rcases List.mem_append.mp hx with hx | hx
    · obtain ⟨result, -, rfl⟩ := List.mem_map.mp hx
      exact now_le_play hacts
    · exact ih hacts.2 hx

/-- What every act keeps, while attempts start and end at their times, holds after a run. -/
theorem attempted_play {I : Nat → Nat → Station → Prop} (hstep : ∀ done a todo m d, acts = done ++ a :: todo →
      I m d (s.play done) → Timely k T latency R m d (s.play done) a ∧
        I (m + (s.play done).growth Floor.calls k a) (d + ((s.play done).ended k a).length) ((s.play done).act a))
    (h : I 0 0 s) : ∃ m d, I m d (s.play acts) ∧ Attempted k T latency R m d s acts := by
  induction acts using List.reverseRecOn with
  | nil => exact ⟨0, 0, h, rfl, rfl, nofun⟩
  | append_singleton acts a ih =>
    obtain ⟨m, d, hI, htime⟩ := ih fun done b todo m d hsplit =>
      hstep done b (todo ++ [a]) m d (by rw [hsplit, List.append_assoc, List.cons_append])
    obtain ⟨hstep', hI'⟩ := hstep acts a [] m d rfl hI
    rw [play_append]
    exact ⟨_, _, hI', htime.snoc hstep'⟩

theorem Proceeds.timely (h : Proceeds k c i start p q M m d s a) :
    Timely k (fun j => roundAt start p (j * q)) (Cadence.beat l) M.result m d s a where
  starts := h.starts.imp_right fun ⟨hone, _, hnow⟩ => ⟨hone, hnow⟩
  ended := h.ended

end Station

end Liveness
