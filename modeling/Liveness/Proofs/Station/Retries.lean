import Liveness.Proofs.Station.Pace

/-!
# Retries until a connector gives in

A timer that is started on a connector that is not connected makes its attempts at equal
intervals, which are as many periods as the latency of the connector fills, as long as
the connector stays down (`Station.attemptAt`).  A connector that refuses some attempts
and then connects, and that no one else uses, refuses the first of these attempts, takes
the next one, and the check after that ends the work of the timer (`Station.Retry`).
-/

namespace Liveness

/-! ## Manners -/

/-- A connector of which no more is known than how long its attempts take. -/
def Manner.patient (l : Span) : Manner l where
  state _ _ conn := conn.Takes l
  made _ := True
  attempt _ _ := True
  result _ _ := True
  takes h := h
  ask := fun {_ conn} h => conn.becomes_ask l h
  down _ _ := trivial
  start := fun {_ conn} h now => ⟨trivial, conn.becomes_start now l h⟩
  finish := fun {_ conn attempt} h _ => ⟨trivial, conn.becomes_finish attempt l h⟩

/-- How an attempt ends at a connector that refuses some attempts, after so many attempts of others. -/
def refusal (refusals earlier j : Nat) : ConnectResult :=
  if j < refusals then .failed s!"simulated refusal on attempt {earlier + j + 1}" else .ok

/-- What becomes of a connector that refuses some attempts when so many more have started and are over. -/
def RefusingConnector.worn (r : RefusingConnector) (m d : Nat) : Connector :=
  .refusing { r with
    refusals := r.refusals - d
    connected := decide (r.refusals < d)
    attempts := r.attempts + m
    finished := r.finished + d }

/-- A connector that refuses some attempts, then connects, and is used by one timer only. -/
def Manner.refusing (r : RefusingConnector) : Manner r.latency where
  state m d conn := conn = r.worn m d
  made j := j ≤ r.refusals
  attempt j attempt := attempt = .counted (r.attempts + j + 1)
  result j result := result = refusal r.refusals r.attempts j
  takes h := h ▸ rfl
  ask h := by
    rw [h]
    rfl
  down h hdown := by
    rw [h] at hdown
    exact Nat.le_of_not_lt (of_decide_eq_false (Option.some.inj hdown))
  start h _ := by
    rw [h]
    exact ⟨rfl, rfl⟩
  finish := fun {m conn attempt} h hattempt => by
    rw [h, hattempt]
    simp only [RefusingConnector.worn, Connector.finish, refusal]
    by_cases hm : m < r.refusals
    · rw [if_pos (Nat.sub_pos_of_lt hm), if_pos hm, decide_eq_false (Nat.lt_asymm hm),
        decide_eq_false (Nat.not_lt_of_le hm)]
      exact ⟨rfl, rfl⟩
    · rw [if_neg (by omega), if_neg hm, decide_eq_true (Nat.lt_succ_of_le (Nat.le_of_not_lt hm))]
      refine ⟨rfl, ?_⟩
      rw [Nat.sub_eq_zero_of_le (Nat.le_of_not_lt hm), Nat.sub_eq_zero_of_le (Nat.le_succ_of_le (Nat.le_of_not_lt hm))]
      rfl

namespace Station

variable {s : Station} {k : TimerId} {c : ConnectorId} {conn : Connector} {l : Span} {N N' m d : Nat} {a : Act}
  {acts : List Act}

/-! ## Orders -/

/-- Orders at which the clock only advances, and that do not take a timer from its work or to it. -/
def Order.spares (k : TimerId) : Order → Bool
  | .deed d => d.spares k
  | .jump _ | .shutdown => false
  | _ => true

/-- Orders that stay away from a connector. -/
def Order.avoids (c : ConnectorId) : Order → Bool
  | .deed d => d.avoids c
  | .connect c' => c' != c
  | _ => true

theorem Order.Brings.spares {o : Order} (h : o.Brings a) (ho : o.spares k) :
    a.spares k ∧ ∀ now, a ≠ .time (.leap now) := by
  cases h with
  | deed => exact ⟨ho, nofun⟩
  | time hleap => exact ⟨rfl, fun now heq => hleap now (Act.time.inj heq)⟩
  | leap | shutdown => cases ho
  | startAttempt | conclude => exact ⟨rfl, nofun⟩

theorem Order.Brings.avoids {o : Order} (h : o.Brings a) (ho : o.avoids c) : a.avoids c := by
  cases h with
  | deed | startAttempt | conclude => exact ho
  | time | leap | shutdown => rfl

/-! ## The work of a timer and its end -/

section

variable {i : EntryId} {start : Int} {p : Span} {q : Nat} {M : Manner l} {reach : Prop}

/-- A timer that was started when its connector was not connected, and of whose attempts so many have started and
have ended. -/
inductive Retry (k : TimerId) (c : ConnectorId) (i : EntryId) (start : Int) (p : Span) (q : Nat) (M : Manner l)
    (reach : Prop) : Nat → Nat → Station → Prop
  | pacing {n m d : Nat} {s : Station} : reach → Paced k c i start p q M n m d s → Retry k c i start p q M reach m d s
  /-- The check at the time of the next attempt has found the connector connected. -/
  | satisfied {m : Nat} {s : Station} {conn : Connector} : reach → Resting k s → (s.timer k).task = none →
      s.floor.connectors[c]? = some conn → M.state m m conn → roundAt start p (m * q) ≤ s.now →
      Retry k c i start p q M reach m m s
  /-- The clock ends before the first check. -/
  | stranded {s : Station} {conn : Connector} : ¬reach → Resting k s → s.isTimerScheduled k = true →
      s.floor.connectors[c]? = some conn → M.state 0 0 conn → Retry k c i start p q M reach 0 0 s

/-- The end of the work of a timer, after so many attempts: all of them have ended, the connector is connected, and
at the time of the next attempt none starts. -/
structure Satisfies (k : TimerId) (c : ConnectorId) (start : Int) (p : Span) (q : Nat) (M : Manner l) (m d : Nat)
    (s : Station) (a : Act) : Prop where
  up : s.floor.reply c = some true
  ended : d = m
  state : ∃ conn, M.state m m conn ∧ conn.ask.1 = some true
  now : s.now = roundAt start p (m * q)
  starts : s.growth Floor.calls k a = 0

theorem Paced.isTimerScheduled {n : Nat} (h : Paced k c i start p q M n m d s) : s.isTimerScheduled k = true := by
  obtain ⟨e, he, -, -, hdue⟩ := h.entry
  rw [isTimerScheduled_of_task h.task he, (Entry.due?_eq_some.mp hdue).1]
  rfl

/-- Every act that spares a timer lets it make its attempts in time, until a check finds the connector connected. -/
theorem retry_act (hpaces : Cadence.Paces p l q) (hwhole : 1000000 ∣ start) (ht : s.IsTended)
    (hf : Flight k N N' s.agenda s.floor) (hmay : s.May a) (ha : a.spares k) (hleap : ∀ now, a ≠ .time (.leap now))
    (hcalm : s.floor.reply c ≠ none)
    (hconn : s.Others k a → ∀ conn, s.floor.connectors[c]? = some conn →
      ∃ conn', (s.act a).floor.connectors[c]? = some conn' ∧ ∀ m d, M.state m d conn → M.state m d conn')
    (h : Retry k c i start p q M reach m d s) :
    Timely k (fun j => roundAt start p (j * q)) (Cadence.beat l) M.result m d s a ∧
      Retry k c i start p q M reach (m + s.growth Floor.calls k a) (d + (s.ended k a).length) (s.act a) ∧
      (s.growth Floor.calls k a ≠ 0 → M.made m) ∧
      (s.isTimerScheduled k = true → (s.act a).isTimerScheduled k = false → Satisfies k c start p q M m d s a) := by
  cases h with
  | pacing hreach hp =>
    by_cases hcheck : a = .time (.wake i) ∧ (s.timer k).inFlight = false ∧ s.floor.reply c = some true
    · obtain ⟨rfl, hfree, hup⟩ := hcheck
      obtain ⟨rfl, hnow, hended, hcalls, htimer, conn, hstate, hconnected, hc⟩ :=
        satisfied_check hpaces hwhole ht hf hp hmay hfree hup
      have htask : ((s.act (.time (.wake i))).timer k).task = none := congrArg Timer.task htimer
      refine ⟨⟨.inl hcalls, .inl hended⟩, ?_, fun h => absurd hcalls h,
        fun _ _ => ⟨hup, rfl, ⟨conn, hstate, hconnected⟩, hnow, hcalls⟩⟩
      rw [hcalls, hended]
      refine .satisfied hreach ⟨htimer ▸ hfree, fun j e hj => ?_⟩ htask hc (M.ask hstate) ?_
      · cases htask.symm.trans hj
      · rw [now_wake, hnow]
        exact Int.le_refl _
    · have hproceeds := proceeds_act hpaces hwhole ht hf hp hmay ha hleap (fun hwake hfree => ?_) hconn
      · obtain ⟨n, hpaced⟩ := hproceeds.paced
        refine ⟨hproceeds.timely, .pacing hreach hpaced, fun hsome => ?_, fun _ hnone => ?_⟩
        · rcases hproceeds.starts with hzero | ⟨-, hmade, -⟩
          · exact absurd hzero hsome
          · exact hmade
        · cases hnone.symm.trans hpaced.isTimerScheduled
      · cases hreply : s.floor.reply c with
        | none => exact absurd hreply hcalm
        | some up =>
          cases up with
          | true => exact absurd ⟨hwake, hfree, hreply⟩ hcheck
          | false => rfl
  | satisfied hreach hrest htask hc hstate hlate =>
    obtain ⟨hrest', hothers⟩ := resting_act ht hf ha hrest
    obtain ⟨conn', hc', hstate'⟩ := hconn hothers _ hc
    have hstarts := growth_of_others Floor.calls (Act.ne_shutdown_of_spares ha) hothers
    have hended := ended_of_others hothers
    refine ⟨⟨.inl hstarts, .inl hended⟩, ?_, fun h => absurd hstarts h, fun hscheduled _ => ?_⟩
    · rw [hstarts, hended]
      exact .satisfied hreach hrest' ((spared_act ht ha hothers).task.trans htask) hc' (hstate' _ _ hstate)
        (Int.le_trans hlate (now_le_act hmay))
    · cases hscheduled.symm.trans (isTimerScheduled_of_task_none htask)
  | stranded hreach hrest hscheduled hc hstate =>
    obtain ⟨hrest', hothers⟩ := resting_act ht hf ha hrest
    obtain ⟨conn', hc', hstate'⟩ := hconn hothers _ hc
    have hstarts := growth_of_others Floor.calls (Act.ne_shutdown_of_spares ha) hothers
    have hended := ended_of_others hothers
    have hscheduled' : (s.act a).isTimerScheduled k = true :=
      ((spared_act ht ha hothers).isTimerScheduled ht).trans hscheduled
    refine ⟨⟨.inl hstarts, .inl hended⟩, ?_, fun h => absurd hstarts h, fun _ hnone => ?_⟩
    · rw [hstarts, hended]
      exact .stranded hreach hrest' hscheduled' hc' (hstate' _ _ hstate)
    · cases hnone.symm.trans hscheduled'

/-- What is known of the connector, and that no more than one attempt is under way. -/
theorem Retry.connector (h : Retry k c i start p q M reach m d s) :
    d ≤ m ∧ m ≤ d + 1 ∧ ∃ conn, s.floor.connectors[c]? = some conn ∧ M.state m d conn := by
  cases h with
  | pacing hreach hp =>
    cases hp.leg with
    | idle hc hstate | called hc hstate => exact ⟨Nat.le_refl _, Nat.le_succ _, _, hc, hstate⟩
    | flying hc hstate => exact ⟨Nat.le_succ _, Nat.le_refl _, _, hc, hstate⟩
  | satisfied hreach hrest htask hc hstate => exact ⟨Nat.le_refl _, Nat.le_succ _, _, hc, hstate⟩
  | stranded hreach hrest hscheduled hc hstate => exact ⟨Nat.le_refl _, Nat.le_succ _, _, hc, hstate⟩

/-- After an advance, a timer at work has started the attempts whose time has come. -/
theorem Retry.started_iff (hpaces : Cadence.Paces p l q) (h : Retry k c i start p q M reach m d s)
    (hidle : s.timeline.Idle) (herrands : s.agenda.errands = []) (hscheduled : s.isTimerScheduled k = true) (j : Nat) :
    j < m ↔ reach ∧ roundAt start p (j * q) ≤ s.now := by
  cases h with
  | pacing hreach hp =>
    refine ⟨fun hj => ⟨hreach, hp.started_le hpaces hj⟩, fun ⟨_, hj⟩ => Nat.lt_of_not_le fun hm => ?_⟩
    have hle : roundAt start p (m * q) ≤ roundAt start p (j * q) := roundAt_le (Nat.mul_le_mul_right q hm)
    exact Int.not_lt.mpr (Int.le_trans hle hj) (hp.lt_next hidle herrands)
  | satisfied hreach hrest htask =>
    cases hscheduled.symm.trans (isTimerScheduled_of_task_none htask)
  | stranded hreach => exact ⟨fun hj => absurd hj (Nat.not_lt_zero j), fun ⟨hr, _⟩ => absurd hr hreach⟩

/-- The work of a timer ends at the time of an attempt, after the ones before have ended. -/
theorem Retry.of_unscheduled (h : Retry k c i start p q M reach m d s) (hnone : s.isTimerScheduled k = false) :
    reach ∧ d = m ∧ roundAt start p (m * q) ≤ s.now := by
  cases h with
  | pacing hreach hp => cases hnone.symm.trans hp.isTimerScheduled
  | satisfied hreach hrest htask hc hstate hlate => exact ⟨hreach, rfl, hlate⟩
  | stranded hreach hrest hscheduled => cases hnone.symm.trans hscheduled

/-- After an advance, all attempts have ended whose time to end has come. -/
theorem Retry.lt_ended (h : Retry k c i start p q M reach m d s)
    (hidle : s.timeline.Idle) {j : Nat} (hj : j < m) (hend : roundAt start p (j * q) + Cadence.beat l ≤ s.now) :
    j < d := by
  cases h with
  | pacing hreach hp =>
    cases hp.leg with
    | idle | called => exact hj
    | @flying _ _ _ _ j' e attempt due _ _ _ _ _ hj' _ _ hdue hend' =>
      refine Nat.lt_of_le_of_ne (Nat.le_of_lt_succ hj) fun heq => ?_
      have hlt : Instant.floorMilli s.now < due := hidle j' due ⟨e, hj', hdue⟩
      rw [Instant.floorMilli_of_dvd hp.milli, hend', ← heq] at hlt
      exact Int.not_lt.mpr hend hlt
  | satisfied => exact hj
  | stranded => exact hj

end

/-! ## From the start on -/

/-- When a timer makes its attempts that starts now: at once or after one period, and then once in every so many
periods as the latency of its connector fills. -/
def attemptAt (s : Station) (settings : ReconnectSettings) (latency : Span) (j : Nat) : Int :=
  settings.initialDelay.after s.now +
    j * (Cadence.stride settings.period latency * Cadence.beat settings.period)

/-- The times of the attempts are instants of the schedule. -/
theorem roundAt_firstDue (s : Station) (settings : ReconnectSettings) (latency : Span) :
    (fun j => roundAt (s.firstDue settings.initialDelay) settings.period
      (j * Cadence.stride settings.period latency)) = s.attemptAt settings latency := by
  funext j
  rw [roundAt, attemptAt, firstDue, Int.natCast_mul, Int.mul_assoc]

/-- A timer can be started at a whole millisecond on a connector that is not connected and whose attempts all take the
same time. The period and that time are whole milliseconds, and no attempt ends at the time of a check. -/
structure SetsOut (k : TimerId) (c : ConnectorId) (conn : Connector) (l : Span) (s : Station) : Prop where
  starts : (s.startTimer k c).1 = true
  free : (s.timer k).inFlight = false
  held : 0 < (s.timer k).handles
  connector : s.floor.connectors[c]? = some conn
  takes : conn.Takes l
  period : ∃ n, 0 < n ∧ (s.timer k).settings.period = .ofMillis n
  latency : ∃ n, l = .ofMillis n
  clash : ∀ r : Nat, 0 < r → Cadence.beat l ≠ r * Cadence.beat (s.timer k).settings.period
  milli : 1000000 ∣ s.now

/-- What has become of a timer that was started in a station, when so many of its attempts have started and have
ended. -/
def Pursues (s : Station) (k : TimerId) (c : ConnectorId) {l : Span} (M : Manner l) : Nat → Nat → Station → Prop :=
  Retry k c (s.takeTimer k c).1 (s.firstDue (s.timer k).settings.initialDelay) (s.timer k).settings.period
    (Cadence.stride (s.timer k).settings.period l) M ((s.timer k).settings.initialDelay.after s.now < Cadence.clockEnd)

namespace SetsOut

variable (h : SetsOut k c conn l s)

include h

theorem paces : Cadence.Paces (s.timer k).settings.period l (Cadence.stride (s.timer k).settings.period l) := by
  obtain ⟨hlong, hwhole⟩ := Span.whole_of_ofMillis h.period
  obtain ⟨n, hn⟩ := h.latency
  exact Cadence.paces_stride hlong hwhole (hn ▸ Nat.dvd_mul_left 1000000 n) h.clash

theorem whole : 1000000 ∣ s.firstDue (s.timer k).settings.initialDelay := by
  refine dvd_firstDue h.milli ?_
  unfold ReconnectSettings.initialDelay
  split
  · exact Nat.dvd_zero _
  · exact h.paces.wholePeriod

theorem startTimer_eq : (s.startTimer k c).2 = s.act (.deed (.startTimer k c)) :=
  (if_pos (Array.getElem?_eq_some_iff.mp h.connector).1).symm

theorem connector_started : (s.startTimer k c).2.floor.connectors[c]? = some conn := by
  rw [h.startTimer_eq]
  exact (serves_perform s (.startTimer k c)).others c conn nofun h.connector

theorem entry_started :
    ∃ e, (s.startTimer k c).2.agenda.entries[(s.takeTimer k c).1]? = some e ∧ e.cancelled = false ∧
      Fresh s (.check k c) (s.timer k).settings.initialDelay (s.timer k).settings.period e := by
  obtain ⟨htimer, hagenda⟩ := startTimer_of_fst h.starts
  obtain ⟨-, -, hup⟩ := (startTimer_fst s k c).mp h.starts
  obtain ⟨e, he, hfresh⟩ :=
    fresh_every s "reconnect" (.check k c) (s.timer k).settings.initialDelay (s.timer k).settings.period
  have hcancelled := s.isCancelled_every_eq "reconnect" (.check k c) (s.timer k).settings.initialDelay
    (s.timer k).settings.period
  rw [Agenda.isCancelled, he, hup] at hcancelled
  exact ⟨e, hagenda ▸ he, hcancelled, hfresh⟩

/-- The timer waits for its first check, if the clock goes that far. -/
theorem paced (hreach : (s.timer k).settings.initialDelay.after s.now < Cadence.clockEnd) {M : Manner l}
    (hstate : M.state 0 0 conn) :
    Paced k c (s.takeTimer k c).1 (s.firstDue (s.timer k).settings.initialDelay) (s.timer k).settings.period
      (Cadence.stride (s.timer k).settings.period l) M 0 0 0 (s.startTimer k c).2 := by
  obtain ⟨htimer, hagenda⟩ := startTimer_of_fst h.starts
  obtain ⟨e, he, hcancelled, hfresh⟩ := h.entry_started
  have hnow : (s.startTimer k c).2.now = s.now := (congrArg Agenda.now hagenda).trans (now_every s _ _ _ _)
  have hperiod : (s.timer k).settings.period.asPeriod = (s.timer k).settings.period :=
    if_neg (Nat.not_lt_of_le (Span.whole_of_ofMillis h.period).1)
  have hdue : e.due? = some (roundAt (s.firstDue (s.timer k).settings.initialDelay) (s.timer k).settings.period 0) := by
    rw [roundAt_zero]
    exact hfresh.waits hcancelled hreach
  refine ⟨htimer ▸ rfl, htimer ▸ h.held, ⟨e, he, hfresh.job, hfresh.period.trans (congrArg some hperiod), hdue⟩,
    fun j hj => absurd hj (Nat.not_lt_zero j), ?_, hnow ▸ h.milli, ?_⟩
  · rw [hnow, roundAt_zero]
    exact Int.le_add_of_nonneg_right (Int.natCast_nonneg _)
  · exact .idle h.connector_started hstate (Nat.zero_mul _).symm (htimer ▸ h.free)

/-- Otherwise it never does anything. -/
theorem resting (hreach : ¬(s.timer k).settings.initialDelay.after s.now < Cadence.clockEnd) :
    Resting k (s.startTimer k c).2 ∧ (s.startTimer k c).2.isTimerScheduled k = true := by
  obtain ⟨htimer, hagenda⟩ := startTimer_of_fst h.starts
  obtain ⟨e, he, hcancelled, hfresh⟩ := h.entry_started
  have htask : ((s.startTimer k c).2.timer k).task = some (s.takeTimer k c).1 := htimer ▸ rfl
  refine ⟨⟨htimer ▸ h.free, fun i e' hi he' => ?_⟩, ?_⟩
  · obtain rfl := Option.some.inj (htask.symm.trans hi)
    obtain rfl := Option.some.inj (he.symm.trans he')
    exact Bool.eq_false_iff.mpr fun hlive => hreach (hfresh.live hlive)
  · rw [isTimerScheduled_of_task htask he, hcancelled]
    rfl

theorem pursues {M : Manner l} (hstate : M.state 0 0 conn) :
    s.Pursues k c M 0 0 (s.startTimer k c).2 ∧ (s.startTimer k c).2.isTimerScheduled k = true := by
  by_cases hreach : (s.timer k).settings.initialDelay.after s.now < Cadence.clockEnd
  · have hpaced := h.paced hreach hstate
    exact ⟨.pacing hreach hpaced, hpaced.isTimerScheduled⟩
  · obtain ⟨hrest, hscheduled⟩ := h.resting hreach
    exact ⟨.stranded hreach hrest hscheduled h.connector_started hstate, hscheduled⟩

/-- Where a run stands before one of its acts. -/
theorem before_act (hrests : s.timeline.Rests) (ht : s.IsTended) (hf : Flight k N N' s.agenda s.floor)
    {orders : List Order} (hspares : ∀ o ∈ orders, o.spares k) {done todo : List Act}
    (hsplit : (s.startTimer k c).2.plan orders = done ++ a :: todo) :
    ((s.startTimer k c).2.play done).May a ∧ ((s.startTimer k c).2.play done).IsTended ∧
      (∃ N N', Flight k N N' ((s.startTimer k c).2.play done).agenda ((s.startTimer k c).2.play done).floor) ∧
      a.spares k ∧ ∀ now, a ≠ .time (.leap now) := by
  have hmay : s.May (.deed (.startTimer k c)) := hrests.errands
  have hrests' : (s.startTimer k c).2.timeline.Rests := by
    rw [h.startTimer_eq]
    exact rests_perform hrests _
  have ht' : (s.startTimer k c).2.IsTended := by
    rw [h.startTimer_eq]
    exact tended_act hmay ht
  have hf' : Flight k N N' (s.startTimer k c).2.agenda (s.startTimer k c).2.floor := by
    rw [h.startTimer_eq]
    exact flight_perform hf ht _
  have hturn := inTurn_plan hrests' orders
  rw [hsplit] at hturn
  obtain ⟨hdone, hmay', -⟩ := (inTurn_append _ done (a :: todo)).mp hturn
  obtain ⟨o, ho, hbrings⟩ := brings_of_mem_plan (hsplit ▸ List.mem_append_right done List.mem_cons_self)
  exact ⟨hmay', tended_play hdone ht', ⟨_, _, flight_play hdone ht' hf'⟩, hbrings.spares (hspares o ho)⟩

end SetsOut

/-! ## While the connector stays down -/

/-- A connector would answer at any moment of a run that it is not connected. -/
def StaysDown (c : ConnectorId) (s : Station) (acts : List Act) : Prop :=
  ∀ done todo, acts = done ++ todo → (s.play done).floor.reply c = some false

section

variable (h : SetsOut k c conn l s) (hrests : s.timeline.Rests) (ht : s.IsTended) (hf : Flight k N N' s.agenda s.floor)
  {orders : List Order} (hspares : ∀ o ∈ orders, o.spares k) {done todo : List Act}
  (hsplit : (s.startTimer k c).2.plan orders = done ++ todo)

include h hrests ht hf hspares hsplit

/-- As long as its connector stays down, a timer starts its attempts in time, and does not end its work. -/
theorem attempts_down (hdown : StaysDown c (s.startTimer k c).2 done) :
    ∃ m d, (s.Pursues k c (.patient l) m d ((s.startTimer k c).2.play done) ∧
        ((s.startTimer k c).2.play done).isTimerScheduled k = true) ∧
      Attempted k (s.attemptAt (s.timer k).settings l) (Cadence.beat l) (fun _ _ => True) m d
        (s.startTimer k c).2 done := by
  rw [← s.roundAt_firstDue]
  refine attempted_play
    (I := fun m d s' => s.Pursues k c (.patient l) m d s' ∧ s'.isTimerScheduled k = true)
    (fun done' a todo' m d hsplit' ⟨hretry, hscheduled⟩ => ?_) (h.pursues h.takes)
  have hsplit'' : (s.startTimer k c).2.plan orders = done' ++ a :: (todo' ++ todo) := by
    rw [hsplit, hsplit', List.append_assoc, List.cons_append]
  obtain ⟨hmay, ht', ⟨_, _, hf'⟩, ha, hleap⟩ := h.before_act hrests ht hf hspares hsplit''
  have hreply : ((s.startTimer k c).2.play done').floor.reply c = some false := hdown done' (a :: todo') hsplit'
  have hconn : ∀ conn', ((s.startTimer k c).2.play done').floor.connectors[c]? = some conn' →
      ∃ conn'', (((s.startTimer k c).2.play done').act a).floor.connectors[c]? = some conn'' ∧
        ∀ m d, (Manner.patient l).state m d conn' → (Manner.patient l).state m d conn'' := by
    intro conn' hc
    obtain ⟨conn'', hc', hbecomes⟩ := (serves_act (Act.ne_shutdown_of_spares ha)).becomes c conn' hc
    exact ⟨conn'', hc', fun _ _ => hbecomes l⟩
  obtain ⟨htimely, hretry', -, hsatisfies⟩ :=
    retry_act h.paces h.whole ht' hf' hmay ha hleap (hreply ▸ nofun) (fun _ => hconn) hretry
  refine ⟨htimely, hretry', (Bool.not_eq_false _).mp fun hnone => ?_⟩
  cases hreply.symm.trans (hsatisfies hscheduled hnone).up

end

theorem attemptAt_succ (s : Station) (settings : ReconnectSettings) (latency : Span) (j : Nat) :
    s.attemptAt settings latency (j + 1) = s.attemptAt settings latency j +
      Cadence.stride settings.period latency * Cadence.beat settings.period := by
  unfold attemptAt
  rw [Int.natCast_add, Int.add_mul, Int.natCast_one, Int.one_mul, ← Int.add_assoc]

/-- An attempt starts at the first check after the one before has ended. -/
theorem SetsOut.attemptAt_between (h : SetsOut k c conn l s) (j : Nat) :
    let T := s.attemptAt (s.timer k).settings l
    T j + Cadence.beat l < T (j + 1) ∧ T (j + 1) ≤ T j + Cadence.beat l + Cadence.beat (s.timer k).settings.period := by
  intro T
  have hpaces := h.paces
  have hnext : T (j + 1) = _ := s.attemptAt_succ (s.timer k).settings l j
  rw [hnext]
  generalize Cadence.stride (s.timer k).settings.period l = q at hpaces
  refine ⟨Int.add_lt_add_left hpaces.below _, ?_⟩
  rw [Int.add_assoc]
  refine Int.add_le_add_left ?_ _
  cases q with
  | zero => exact absurd hpaces.pos (Nat.lt_irrefl 0)
  | succ r =>
    rw [Int.natCast_add, Int.add_mul, Int.natCast_one, Int.one_mul]
    refine Int.add_le_add_right ?_ _
    cases r with
    | zero =>
      rw [Int.natCast_zero, Int.zero_mul]
      exact Cadence.beat_nonneg _
    | succ r => exact Int.le_of_lt (hpaces.above (r + 1) (Nat.succ_pos r) (Nat.lt_succ_self _))

/-! ## Until the connector gives in -/

/-- What the attempts of a timer have come to, at a connector that refuses some and that no one else uses, when so
many have started and have ended. -/
structure Tried (k : TimerId) (c : ConnectorId) (r : RefusingConnector) (T : Nat → Int) (m d : Nat) (s : Station)
    (acts : List Act) : Prop where
  starts : startTimes k s acts = (List.range m).map T
  ended : endings k s acts = (List.range d).map fun j => (T j + Cadence.beat r.latency, refusal r.refusals r.attempts j)
  most : m ≤ r.refusals + 1
  alone : d ≤ m ∧ m ≤ d + 1
  connector : (s.play acts).floor.connectors[c]? = some (r.worn m d)

variable {r : RefusingConnector}

theorem Tried.end_le_now {T : Nat → Int} (h : Tried k c r T m d s acts) (hacts : s.InTurn acts) {j : Nat} (hj : j < d) :
    T j + Cadence.beat r.latency ≤ (s.play acts).now := by
  have hmem : (T j + Cadence.beat r.latency, refusal r.refusals r.attempts j) ∈ endings k s acts := by
    rw [h.ended]
    exact List.mem_map.mpr ⟨j, List.mem_range.mpr hj, rfl⟩
  exact le_now_of_mem_endings hacts hmem

/-- A timer that tries a connector that refuses some attempts: it makes one more at most, and has made that one when
its work is done. -/
structure Courts (k : TimerId) (c : ConnectorId) (r : RefusingConnector) (s : Station) (m d : Nat) (s' : Station) :
    Prop where
  pursues : s.Pursues k c (.refusing r) m d s'
  sole : Sole k c s'
  most : m ≤ r.refusals + 1
  last : s'.isTimerScheduled k = false → m = r.refusals + 1

/-- The connector answers that it is connected once it has taken an attempt. -/
theorem Courts.reply {s' : Station} (h : Courts k c r s m d s') : s'.floor.reply c = some (decide (r.refusals < d)) := by
  obtain ⟨-, -, conn, hc, rfl⟩ := Retry.connector h.pursues
  exact (getElem?_connectors_asked hc).2

theorem courts_act {s' : Station} (h : SetsOut k c (.refusing r) r.latency s) (ht : s'.IsTended)
    (hf : Flight k N N' s'.agenda s'.floor) (hmay : s'.May a) (ha : a.spares k) (hleap : ∀ now, a ≠ .time (.leap now))
    (havoids : a.avoids c) (hcourts : Courts k c r s m d s') :
    Timely k (s.attemptAt (s.timer k).settings r.latency) (Cadence.beat r.latency)
        (fun j result => result = refusal r.refusals r.attempts j) m d s' a ∧
      Courts k c r s (m + s'.growth Floor.calls k a) (d + (s'.ended k a).length) (s'.act a) ∧
      (s'.isTimerScheduled k = true → (s'.act a).isTimerScheduled k = false →
        s'.now = s.attemptAt (s.timer k).settings r.latency (r.refusals + 1) ∧ s'.growth Floor.calls k a = 0) := by
  have hreply := hcourts.reply
  obtain ⟨hpursues, hsole, hmost, hlast⟩ := hcourts
  have hconn : s'.Others k a → ∀ conn, s'.floor.connectors[c]? = some conn →
      ∃ conn', (s'.act a).floor.connectors[c]? = some conn' ∧
        ∀ m d, (Manner.refusing r).state m d conn → (Manner.refusing r).state m d conn' := fun hothers conn hc =>
    ⟨conn, (serves_act (Act.ne_shutdown_of_spares ha)).others c conn (reach_of_sole hsole havoids hothers) hc, fun _ _ => id⟩
  obtain ⟨htimely, hpursues', hmade, hsatisfies⟩ :=
    retry_act h.paces h.whole ht hf hmay ha hleap (hreply ▸ nofun) hconn hpursues
  have hT := s.roundAt_firstDue (s.timer k).settings r.latency
  rw [hT] at htimely
  -- the check that ends the work finds that the last attempt has connected
  have hend : s'.isTimerScheduled k = true → (s'.act a).isTimerScheduled k = false →
      m = r.refusals + 1 ∧ s'.now = s.attemptAt (s.timer k).settings r.latency (r.refusals + 1) ∧
        s'.growth Floor.calls k a = 0 := by
    intro hscheduled hnone
    obtain ⟨hup, rfl, -, hnow, hstarts⟩ := hsatisfies hscheduled hnone
    have hm : d = r.refusals + 1 :=
      Nat.le_antisymm hmost (of_decide_eq_true (Option.some.inj (hreply.symm.trans hup)))
    refine ⟨hm, ?_, hstarts⟩
    rw [← hm]
    exact hnow.trans (congrFun hT d)
  have hmost' : m + s'.growth Floor.calls k a ≤ r.refusals + 1 := by
    rcases htimely.starts with hzero | ⟨hone, -⟩
    · rwa [hzero]
    · rw [hone]
      exact Nat.succ_le_succ (hmade (hone ▸ Nat.one_ne_zero))
  refine ⟨htimely, ⟨hpursues', sole_act havoids hsole, hmost', fun hnone => ?_⟩,
    fun hscheduled hnone => (hend hscheduled hnone).2⟩
  cases hscheduled : s'.isTimerScheduled k with
  | true =>
    obtain ⟨hm, -, hstarts⟩ := hend hscheduled hnone
    rw [hm, hstarts]
  | false =>
    have hm := hlast hscheduled
    exact Nat.le_antisymm hmost' (hm ▸ Nat.le_add_right _ _)

theorem SetsOut.courts (h : SetsOut k c (.refusing r) r.latency s) (hdown : s.floor.reply c = some false)
    (hsole : Sole k c s) : Courts k c r s 0 0 (s.startTimer k c).2 := by
  have hstate : (Manner.refusing r).state 0 0 (.refusing r) := by
    have hconnected : r.connected = false := by
      rw [(getElem?_connectors_asked h.connector).2] at hdown
      exact Option.some.inj hdown
    obtain ⟨refusals, latency, connected, attempts, finished⟩ := r
    subst hconnected
    rfl
  obtain ⟨hpursues, hscheduled⟩ := h.pursues hstate
  refine ⟨hpursues, ?_, Nat.zero_le _, fun hnone => ?_⟩
  · rw [h.startTimer_eq]
    refine Agenda.Only.grows hsole (grows_perform s (.startTimer k c)) fun job htaken _ => ?_
    obtain rfl : job = .check k c := htaken
    rfl
  · cases hnone.symm.trans hscheduled

section

variable (h : SetsOut k c (.refusing r) r.latency s) (hdown : s.floor.reply c = some false)
  (hrests : s.timeline.Rests) (ht : s.IsTended)
  (hf : Flight k N N' s.agenda s.floor) (hsole : Sole k c s) {orders : List Order} (hspares : ∀ o ∈ orders, o.spares k)
  (havoids : ∀ o ∈ orders, o.avoids c) {done todo : List Act}

include h hdown hrests ht hf hsole hspares havoids

theorem attempts_refused (hsplit : (s.startTimer k c).2.plan orders = done ++ todo) :
    ∃ m d, Courts k c r s m d ((s.startTimer k c).2.play done) ∧
      Attempted k (s.attemptAt (s.timer k).settings r.latency) (Cadence.beat r.latency)
        (fun j result => result = refusal r.refusals r.attempts j) m d (s.startTimer k c).2 done := by
  refine attempted_play (I := Courts k c r s) (fun done' a todo' m d hsplit' hcourts => ?_) (h.courts hdown hsole)
  have hsplit'' : (s.startTimer k c).2.plan orders = done' ++ a :: (todo' ++ todo) := by
    rw [hsplit, hsplit', List.append_assoc, List.cons_append]
  obtain ⟨hmay, ht', ⟨_, _, hf'⟩, ha, hleap⟩ := h.before_act hrests ht hf hspares hsplit''
  obtain ⟨o, ho, hbrings⟩ := brings_of_mem_plan (hsplit'' ▸ List.mem_append_right done' List.mem_cons_self)
  obtain ⟨htimely, hcourts', -⟩ := courts_act h ht' hf' hmay ha hleap (hbrings.avoids (havoids o ho)) hcourts
  exact ⟨htimely, hcourts'⟩

/-- The work of the timer ends at the time of the attempt after the one that connects, and none starts then. -/
theorem unscheduled_at (hsplit : (s.startTimer k c).2.plan orders = done ++ a :: todo)
    (hscheduled : ((s.startTimer k c).2.play done).isTimerScheduled k = true)
    (hnone : (((s.startTimer k c).2.play done).act a).isTimerScheduled k = false) :
    ((s.startTimer k c).2.play done).now = s.attemptAt (s.timer k).settings r.latency (r.refusals + 1) ∧
      ((s.startTimer k c).2.play done).growth Floor.calls k a = 0 := by
  obtain ⟨m, d, hcourts, -⟩ := attempts_refused h hdown hrests ht hf hsole hspares havoids hsplit
  obtain ⟨hmay, ht', ⟨_, _, hf'⟩, ha, hleap⟩ := h.before_act hrests ht hf hspares hsplit
  obtain ⟨o, ho, hbrings⟩ := brings_of_mem_plan (hsplit ▸ List.mem_append_right done List.mem_cons_self)
  exact (courts_act h ht' hf' hmay ha hleap (hbrings.avoids (havoids o ho)) hcourts).2.2 hscheduled hnone

end

theorem Courts.tried {T : Nat → Int} (hcourts : Courts k c r s m d ((s.startTimer k c).2.play acts))
    (hattempted : Attempted k T (Cadence.beat r.latency) (fun j result => result = refusal r.refusals r.attempts j) m d
      (s.startTimer k c).2 acts) : Tried k c r T m d (s.startTimer k c).2 acts := by
  obtain ⟨hdm, hmd, conn, hc, rfl⟩ := Retry.connector hcourts.pursues
  exact ⟨hattempted.starts, hattempted.endings_eq, hcourts.most, ⟨hdm, hmd⟩, hc⟩

/-- After an advance, the attempts have started and have ended whose time has come, and the work is done if the time
after them has. -/
theorem Courts.complete {s' : Station} (h : SetsOut k c (.refusing r) r.latency s) (hcourts : Courts k c r s m d s')
    (hidle : s'.timeline.Idle) (herrands : s'.agenda.errands = []) :
    let T := s.attemptAt (s.timer k).settings r.latency
    let reach := (s.timer k).settings.initialDelay.after s.now < Cadence.clockEnd
    (∀ j, j < m ↔ reach ∧ j ≤ r.refusals ∧ T j ≤ s'.now) ∧
      (∀ j, reach → j ≤ r.refusals → T j + Cadence.beat r.latency ≤ s'.now → j < d) ∧
      (s'.isTimerScheduled k = false ↔ reach ∧ T (r.refusals + 1) ≤ s'.now) := by
  intro T reach
  have hT : ∀ j, roundAt (s.firstDue (s.timer k).settings.initialDelay) (s.timer k).settings.period
      (j * Cadence.stride (s.timer k).settings.period r.latency) = T j := congrFun (s.roundAt_firstDue _ _)
  have hstarted : ∀ j, j < m ↔ reach ∧ j ≤ r.refusals ∧ T j ≤ s'.now := by
    intro j
    rw [← hT]
    cases hscheduled : s'.isTimerScheduled k with
    | true =>
      have hiff := Retry.started_iff h.paces hcourts.pursues hidle herrands hscheduled j
      exact ⟨fun hj => ⟨(hiff.mp hj).1, Nat.le_of_lt_succ (Nat.lt_of_lt_of_le hj hcourts.most), (hiff.mp hj).2⟩,
        fun ⟨hreach, _, hle⟩ => hiff.mpr ⟨hreach, hle⟩⟩
    | false =>
      obtain ⟨hreach, -, hlate⟩ := Retry.of_unscheduled hcourts.pursues hscheduled
      have hm := hcourts.last hscheduled
      refine ⟨fun hj => ⟨hreach, by omega, Int.le_trans (roundAt_le (Nat.mul_le_mul_right _ (Nat.le_of_lt hj))) hlate⟩,
        fun ⟨_, hle, _⟩ => by omega⟩
  refine ⟨hstarted, fun j hreach hj hend => ?_, fun hnone => ?_, fun ⟨hreach, hlate⟩ => ?_⟩
  · have hbeat := Cadence.beat_nonneg r.latency
    refine Retry.lt_ended hcourts.pursues hidle ((hstarted j).mpr ⟨hreach, hj, by omega⟩) ?_
    rw [hT]
    exact hend
  · obtain ⟨hreach, -, hlate⟩ := Retry.of_unscheduled hcourts.pursues hnone
    rw [hcourts.last hnone, hT] at hlate
    exact ⟨hreach, hlate⟩
  · refine (Bool.not_eq_true _).mp fun hscheduled => ?_
    have hlt := (Retry.started_iff h.paces hcourts.pursues hidle herrands hscheduled (r.refusals + 1)).mpr
      ⟨hreach, (hT _).symm ▸ hlate⟩
    exact Nat.not_le_of_lt hlt hcourts.most

/-- The times of the attempts of a timer that is started once on a connector that is not connected, while the clock
only advances and no one takes the timer from its work. As long as the connector is not connected, they start at equal
intervals and no others do.  A connector that refuses some attempts, and that no one else uses, refuses exactly these
and takes the next one; the timer's work ends at the first check after that, at which no attempt starts, and no attempt
starts ever after. -/
theorem attempt_times (settings : SweepSettings) (walk : Walk) (earlier during : List Order) (k : TimerId)
    (c : ConnectorId) (conn : Connector) (l : Span)
    (h : SetsOut k c conn l ((opened settings walk).after earlier))
    (hdown : ((opened settings walk).after earlier).floor.reply c = some false) (hspares : ∀ o ∈ during, o.spares k) :
    let s := (opened settings walk).after earlier
    let started := (s.startTimer k c).2
    let T := s.attemptAt (s.timer k).settings l
    let reach := (s.timer k).settings.initialDelay.after s.now < Cadence.clockEnd
    (∀ done todo, started.plan during = done ++ todo → StaysDown c started done →
      ∃ m, startTimes k started done = (List.range m).map T) ∧
    (∀ amount, StaysDown c started (started.plan (during ++ [.advance amount])) →
      ∃ m, startTimes k started (started.plan (during ++ [.advance amount])) = (List.range m).map T ∧
        ∀ j, j < m ↔ reach ∧ T j ≤ (started.after (during ++ [.advance amount])).now) ∧
    (∀ r, conn = .refusing r → Sole k c s → (∀ o ∈ during, o.avoids c) →
      (∀ done todo, started.plan during = done ++ todo → ∃ m d, Tried k c r T m d started done) ∧
      (∀ done a todo, started.plan during = done ++ a :: todo → (started.play done).isTimerScheduled k = true →
        ((started.play done).act a).isTimerScheduled k = false →
        (started.play done).now = T (r.refusals + 1) ∧ (started.play done).growth Floor.calls k a = 0) ∧
      (∀ amount, let after := started.after (during ++ [.advance amount])
        ∃ m d, Tried k c r T m d started (started.plan (during ++ [.advance amount])) ∧
          (∀ j, j < m ↔ reach ∧ j ≤ r.refusals ∧ T j ≤ after.now) ∧
          (∀ j, j < d ↔ reach ∧ j ≤ r.refusals ∧ T j + Cadence.beat r.latency ≤ after.now) ∧
          (after.isTimerScheduled k = false ↔ reach ∧ T (r.refusals + 1) ≤ after.now))) ∧
    ∀ j, T j + Cadence.beat l < T (j + 1) ∧
      T (j + 1) ≤ T j + Cadence.beat l + Cadence.beat (s.timer k).settings.period := by
  intro s started T reach
  have hrests : s.timeline.Rests := rests_after (rests_opened settings walk) earlier
  have ht : s.IsTended := tended_after (rests_opened settings walk) (tended_opened settings walk) earlier
  have hf := flight_play (inTurn_plan (rests_opened settings walk) earlier) (tended_opened settings walk)
    (flight_opened settings walk k)
  rw [play_plan] at hf
  have hstarted : started.timeline.Rests := by
    rw [show started = s.perform (.startTimer k c) from h.startTimer_eq]
    exact rests_perform hrests _
  have hspares' : ∀ amount, ∀ o ∈ during ++ [.advance amount], o.spares k := fun _ =>
    List.forall_mem_append.mpr ⟨hspares, List.forall_mem_singleton.mpr rfl⟩
  have hidle : ∀ amount, (started.after (during ++ [.advance amount])).timeline.Idle := by
    intro amount
    rw [after_append]
    exact (Timeline.advance_spec Floor.orderly_worker (rests_after hstarted during) amount).2.1
  have herrands : ∀ amount, (started.after (during ++ [.advance amount])).agenda.errands = [] := fun amount =>
    (rests_after hstarted (during ++ [Order.advance amount])).errands
  refine ⟨fun done todo hsplit hdown => ?_, fun amount hdown => ?_, ?_, h.attemptAt_between⟩
  · obtain ⟨m, d, -, hattempted⟩ := attempts_down h hrests ht hf hspares hsplit hdown
    exact ⟨m, hattempted.starts⟩
  · obtain ⟨m, d, ⟨hpursues, hscheduled⟩, hattempted⟩ :=
      attempts_down h hrests ht hf (hspares' amount) (List.append_nil _).symm hdown
    rw [play_plan] at hpursues hscheduled
    refine ⟨m, hattempted.starts, fun j => ?_⟩
    rw [← show _ = T j from congrFun (s.roundAt_firstDue _ _) j]
    exact Retry.started_iff h.paces hpursues (hidle amount) (herrands amount) hscheduled j
  · rintro r rfl hsole havoids
    obtain rfl : r.latency = l := h.takes
    have havoids' : ∀ amount, ∀ o ∈ during ++ [.advance amount], o.avoids c := fun _ =>
      List.forall_mem_append.mpr ⟨havoids, List.forall_mem_singleton.mpr rfl⟩
    refine ⟨fun done todo hsplit => ?_, fun done a todo hsplit => ?_, fun amount => ?_⟩
    · obtain ⟨m, d, hcourts, hattempted⟩ := attempts_refused h hdown hrests ht hf hsole hspares havoids hsplit
      exact ⟨m, d, hcourts.tried hattempted⟩
    · exact unscheduled_at h hdown hrests ht hf hsole hspares havoids hsplit
    · obtain ⟨m, d, hcourts, hattempted⟩ :=
        attempts_refused h hdown hrests ht hf hsole (hspares' amount) (havoids' amount) (List.append_nil _).symm
      have htried := hcourts.tried hattempted
      rw [play_plan] at hcourts
      obtain ⟨hstarts, hends, hdone⟩ := hcourts.complete h (hidle amount) (herrands amount)
      refine ⟨m, d, htried, hstarts, fun j => ⟨fun hj => ?_, fun ⟨hreach, hle, hlate⟩ => hends j hreach hle hlate⟩,
        hdone⟩
      obtain ⟨hreach, hle, -⟩ := (hstarts j).mp (Nat.lt_of_lt_of_le hj htried.alone.1)
      have hpast := htried.end_le_now (inTurn_plan hstarted _) hj
      rw [play_plan] at hpast
      exact ⟨hreach, hle, hpast⟩

/-- A connector that refuses two attempts of fifteen milliseconds is tried in every other period of ten, three times,
and is found connected where the fourth attempt would be. -/
theorem attempt_times_of_two_refusals :
    let conn := Connector.refusing { refusals := 2, latency := .ofMillis 15 }
    let earlier := [Order.deed (.addConnector conn),
      .deed (.addTimer (some { period := .ofMillis 10, fireImmediately := false }))]
    let s := (opened {}).after earlier
    let started := (s.startTimer 0 0).2
    let early := started.plan [.advance (.ofMillis 60)]
    let late := started.plan [.advance (.ofMillis 80)]
    SetsOut 0 0 conn (.ofMillis 15) s ∧ s.floor.reply 0 = some false ∧ Sole 0 0 s ∧ StaysDown 0 started early ∧
      startTimes 0 started early = [10000000, 30000000, 50000000] ∧
      startTimes 0 started late = [10000000, 30000000, 50000000] ∧
      endings 0 started late =
        [(25000000, .failed "simulated refusal on attempt 1"), (45000000, .failed "simulated refusal on attempt 2"),
          (65000000, .ok)] ∧
      (started.after [.advance (.ofMillis 80)]).isTimerScheduled 0 = false := by
  intro conn earlier s started early late
  have hclash : ∀ r : Nat, 0 < r → Cadence.beat (.ofMillis 15) ≠ r * Cadence.beat (s.timer 0).settings.period := by
    intro r _
    rw [show Cadence.beat (.ofMillis 15) = 15000000 by decide,
      show Cadence.beat (s.timer 0).settings.period = 10000000 by decide +kernel]
    omega
  have hsets : SetsOut 0 0 conn (.ofMillis 15) s :=
    ⟨by decide +kernel, by decide +kernel, by decide +kernel, rfl, rfl, ⟨10, by decide, by decide +kernel⟩, ⟨15, rfl⟩,
      hclash, by decide +kernel⟩
  have hreply : s.floor.reply 0 = some false := by decide +kernel
  have hsole : Sole 0 0 s := by
    refine ⟨fun i e he => ?_, fun job hjob => ?_⟩
    · cases he
    · cases hjob
  have hdown : StaysDown 0 started early := by
    intro done todo hsplit
    have hall : ∀ n < early.length + 1, (started.play (early.take n)).floor.reply 0 = some false := by
      decide +kernel
    have hdone : early.take done.length = done := by
      rw [hsplit, List.take_left]
    have hlength : done.length < early.length + 1 := by
      rw [hsplit, List.length_append]
      omega
    exact hdone ▸ hall done.length hlength
  obtain ⟨-, hreached, hrefused, -⟩ :=
    attempt_times {} .byId earlier [] 0 0 conn (.ofMillis 15) hsets hreply fun _ ho => absurd ho List.not_mem_nil
  obtain ⟨-, -, hcomplete⟩ := hrefused _ rfl hsole fun _ ho => absurd ho List.not_mem_nil
  obtain ⟨n, hearly, hn⟩ := hreached (.ofMillis 60) hdown
  obtain ⟨m, d, htried, hm, hd, hunscheduled⟩ := hcomplete (.ofMillis 80)
  have hthree : ∀ x, 2 < x → ¬3 < x → x = 3 := by omega
  have hn3 := hthree n ((hn 2).mpr (by decide +kernel)) ((hn 3).not.mpr (by decide +kernel))
  have hm3 := hthree m ((hm 2).mpr (by decide +kernel)) ((hm 3).not.mpr (by decide +kernel))
  have hd3 := hthree d ((hd 2).mpr (by decide +kernel)) ((hd 3).not.mpr (by decide +kernel))
  refine ⟨hsets, hreply, hsole, hdown, ?_, ?_, ?_, hunscheduled.mpr (by decide +kernel)⟩
  · rw [show startTimes 0 started early = _ from hearly, hn3]
    decide +kernel
  · rw [show startTimes 0 started late = _ from htried.starts, hm3]
    decide +kernel
  · rw [show endings 0 started late = _ from htried.ended, hd3]
    decide +kernel

/-- When the attempts of a timer start that is started at once, on a connector that refuses all attempts. -/
def tries (settings : ReconnectSettings) (latency : Span) (orders : List Order) : List Int :=
  let s := (opened {}).after
    [.deed (.addConnector (.scripted { plans := ⟨[.fails], 0⟩, latency })), .deed (.addTimer settings)]
  let started := (s.startTimer 0 0).2
  startTimes 0 started (started.plan orders)

/-- No wait but the first one is longer than thirty years, be it for the second check of a timer with a period of
forty years, or for the end of attempts that take fifty years, every twenty. -/
theorem attempt_times_off_schedule :
    tries { period := .ofMillis 1261440000000 } .zero [.advance (.ofMillis 946080000000)] =
        [0, 946080000000000000] ∧
      tries { period := .ofMillis 630720000000 } (.ofMillis 1576800000000)
          [.advance (.ofMillis 946080000000), .advance (.ofMillis 315360000000)] =
        [0, 1261440000000000000] := by
  decide +kernel

end Station

end Liveness
