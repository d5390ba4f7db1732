import Liveness.Proofs.Station.Attempts

/-!
# The single flight of reconnect attempts

Whatever callers order and whatever connectors do, a timer has no more than one attempt that
is not over, says so truly, and counts those that have begun (`Station.single_flight`).  What has begun
and what is over is what the connectors themselves count in the acts that are the timer's own
(`Station.grown`).  Each check of a live task calls for an attempt just when none is under way and
the connector answers that it is not connected, and ends the task just when none is under way and the
connector answers that it is.  However an attempt ends, its timer is not in flight any more.
-/

namespace Liveness

namespace Station

variable {s : Station} {k : TimerId} {n m : Nat}

/-- Whether an act is a timer's own: its work wakes up, or an attempt begins that it called for. -/
def isOwn (k : TimerId) (s : Station) : Act → Bool
  | .time (.wake i) => (s.agenda.entries[i]?).any (·.job.timer? == some k)
  | .time .errand => s.agenda.errands.head?.any (·.timer? == some k)
  | _ => false

/-- By how much a count of the connectors grows on account of a timer: in an act of its own, and as a shutdown
takes its attempts away. -/
def growth (mark : Floor → Nat) (k : TimerId) (s : Station) : Act → Nat
  | .shutdown => s.floor.dropped mark k s.now (s.agenda.entries.toList.filter fun e => e.errand && e.isLive)
  | a => s.floor.growth mark (s.isOwn k a) (s.act a).floor

theorem growth_time (mark : Floor → Nat) (k : TimerId) (s : Station) (a : Timeline.Act) :
    s.growth mark k (.time a) = s.floor.growth mark (s.isOwn k (.time a)) (s.act (.time a)).floor := rfl

/-- By how much a count of the connectors grows on account of a timer in a list of acts. -/
def grown (mark : Floor → Nat) (k : TimerId) : Station → List Act → Nat
  | _, [] => 0
  | s, a :: as => s.growth mark k a + grown mark k (s.act a) as

/-- Work that does not wake up counts for nothing. -/
theorem growth_wake (mark : Floor → Nat) {i : EntryId}
    (h : ∀ (e : Entry Job) (due : Int), s.agenda.entries[i]? = some e → e.due? = some due →
      s.growth mark k (.time (.wake i)) = 0) : s.growth mark k (.time (.wake i)) = 0 := by
  by_cases hwaits : ∃ due, s.timeline.Waits i due
  · obtain ⟨due, e, he, hdue⟩ := hwaits
    exact h e due he hdue
  · have hsame : (s.act (.time (.wake i))).floor = s.floor :=
      congrArg Timeline.host (Timeline.wake_of_not_waits Floor.worker (not_exists.mp hwaits))
    rw [growth_time, hsame, Floor.growth_self]

/-- The attempts of a timer at some moment: how many connectors have begun and how many they are over with. -/
structure Moment (k : TimerId) (begun ended : Nat) (s : Station) : Prop where
  ended_le : ended ≤ begun
  alone : begun ≤ ended + 1
  inFlight : (s.timer k).inFlight = true ↔ begun + s.agenda.called k = ended + 1
  attempts : (s.timer k).attempts = begun + s.agenda.called k

/-- Between orders, and whenever time passes, the attempts that were called for have begun. -/
structure Pause (k : TimerId) (begun ended : Nat) (s : Station) : Prop where
  ended_le : ended ≤ begun
  alone : begun ≤ ended + 1
  inFlight : (s.timer k).inFlight = true ↔ begun = ended + 1
  attempts : (s.timer k).attempts = begun

/-! ## Checks -/

/-- What a check of a timer's connector does. -/
structure Checks (k : TimerId) (c : ConnectorId) (s s' : Station) : Prop where
  scheduled : s.isTimerScheduled k = true
  /-- It calls for an attempt at the connector, or for nothing. -/
  calls : s'.agenda.errands = s.agenda.errands ++
    if (s.timer k).inFlight = false ∧ s.floor.reply c = some false then [.dial k c ((s.timer k).attempts + 1)] else []
  unscheduled : s'.isTimerScheduled k = false ↔ (s.timer k).inFlight = false ∧ s.floor.reply c = some true
  /-- A connector that panics instead of answering leaves the timer as it was. -/
  panics : s.floor.reply c = none → s'.timer k = s.timer k

theorem isTimerScheduled_of_task {i : EntryId} {e : Entry Job} (htask : (s.floor.timer k).task = some i)
    (he : s.agenda.entries[i]? = some e) : s.isTimerScheduled k = !e.cancelled :=
  isScheduled_of_task htask he

theorem isTimerScheduled_of_task_none (hnone : (s.timer k).task = none) : s.isTimerScheduled k = false := by
  rw [isTimerScheduled, hnone]
  rfl

/-- A run of a check, on the agenda and the floor. -/
theorem runOnce_check {i : EntryId} {e : Entry Job} {c : ConnectorId} (he : s.agenda.entries[i]? = some e)
    (hlive : e.isLive) (hjob : e.job = .check k c) (due : Int) :
    s.runOnce i due = ⟨(s.agenda.modify i fun e' => e'.ran due s.now (s.floor.check s.now k c).2.panicked).fulfil
      (s.floor.check s.now k c).2, (s.floor.check s.now k c).1, s.sweeper⟩ := by
  obtain ⟨a, f, sweeper⟩ := s
  have hrun : Floor.worker.run e.job e.runs a.now f = f.check a.now k c := by
    rw [hjob]
    rfl
  change Station.mk (Timeline.runOnce Floor.worker i ⟨a, f⟩ due).agenda
    (Timeline.runOnce Floor.worker i ⟨a, f⟩ due).host sweeper = _
  rw [Timeline.runOnce_of_live Floor.worker he hlive, hrun]
  rfl

/-- A task that has run goes on, if it was not cancelled by the way. -/
theorem isTimerScheduled_of_ran {a : Agenda Job} {f : Floor} {sweeper : Sweeper} {i : EntryId} {e : Entry Job}
    (he : a.entries[i]? = some e) (hcancelled : e.cancelled = false) (htask : (f.timer k).task = some i) (due now : Int)
    (errands : List Job) (panicked : Bool) :
    isTimerScheduled ⟨(a.modify i fun e' => e'.ran due now panicked).fulfil { errands, panicked }, f, sweeper⟩ k =
      true := by
  have hran : (a.modify i fun e' => e'.ran due now panicked).entries[i]? = some (e.ran due now panicked) := by
    rw [Agenda.modify, Array.getElem?_modify, if_pos rfl, he]
    rfl
  exact (isTimerScheduled_of_task (s := ⟨_, f, sweeper⟩) htask hran).trans (congrArg not hcancelled)

/-- A check that finds the timer in flight, or a connector that panics, neither calls for an attempt nor ends its
task. -/
theorem checks_of_timers {a : Agenda Job} {f f' : Floor} {sweeper : Sweeper} {i : EntryId} {e : Entry Job}
    {c : ConnectorId} (he : a.entries[i]? = some e) (hcancelled : e.cancelled = false)
    (htask : (f.timer k).task = some i) (htimers : f'.timers = f.timers)
    (hcalls : ¬((f.timer k).inFlight = false ∧ f.reply c = some false))
    (hends : ¬((f.timer k).inFlight = false ∧ f.reply c = some true)) (due : Int) (panicked : Bool) :
    Checks k c ⟨a, f, sweeper⟩
      ⟨(a.modify i fun e' => e'.ran due a.now panicked).fulfil { panicked }, f', sweeper⟩ := by
  have htimer : f'.timer k = f.timer k := Floor.timer_of_timers htimers k
  refine ⟨?_, ?_, ?_, fun _ => htimer⟩
  · rw [isTimerScheduled_of_task htask he, hcancelled]
    rfl
  · exact (Agenda.errands_fulfil _ _).trans (congrArg (a.errands ++ ·) (if_neg hcalls).symm)
  · refine iff_of_false ?_ hends
    rw [isTimerScheduled_of_ran he hcancelled (htimer.symm ▸ htask)]
    exact fun h => Bool.false_ne_true h.symm

/-- A check calls for an attempt or ends its task, and does neither while an attempt is under way. -/
theorem checks_runOnce (h : s.IsTended) {i : EntryId} {e : Entry Job} {c : ConnectorId}
    (he : s.agenda.entries[i]? = some e) (hlive : e.isLive) (hjob : e.job = .check k c) (due : Int) :
    Checks k c s (s.runOnce i due) := by
  rw [runOnce_check he hlive hjob]
  obtain ⟨a, f, sweeper⟩ := s
  have hable : f.Able e.job := (h.entries i e he).able
  rw [hjob] at hable
  have htask : (f.timer k).task = some i := h.checks i e k c he hjob hlive
  have hcancelled : e.cancelled = false := (Entry.isLive_iff.mp hlive).1
  have hscheduled : isTimerScheduled ⟨a, f, sweeper⟩ k = true := by
    rw [isTimerScheduled_of_task htask he, hcancelled]
    rfl
  change Checks k c ⟨a, f, sweeper⟩ ⟨(a.modify i fun e' => e'.ran due a.now (f.check a.now k c).2.panicked).fulfil
    (f.check a.now k c).2, (f.check a.now k c).1, sweeper⟩
  rcases Floor.check_cases hable.1 hable.2 a.now with
    ⟨hflight, heq⟩ | ⟨hfree, hnone, heq⟩ | ⟨hfree, hup, ⟨hnone, -⟩ | ⟨j, hj, heq⟩⟩ | ⟨hfree, hdown, heq⟩
  · have hbusy : ¬(f.timer k).inFlight = false := fun hfree => Bool.false_ne_true (hfree.symm.trans hflight)
    rw [heq]
    exact checks_of_timers he hcancelled htask rfl (fun h => hbusy h.1) (fun h => hbusy h.1) due _
  · have hsilent : ∀ up, ¬f.reply c = some up := fun up h => Option.some_ne_none up (h.symm.trans hnone)
    rw [heq]
    have htimers : (f.asked c).timers = f.timers := rfl
    exact checks_of_timers he hcancelled htask htimers (fun h => hsilent false h.2) (fun h => hsilent true h.2) due true
  · rw [hnone] at htask
    cases htask
  · have hcalls : ¬((f.timer k).inFlight = false ∧ f.reply c = some false) := fun h =>
      Bool.false_ne_true (Option.some.inj (h.2.symm.trans hup))
    rw [heq]
    refine ⟨hscheduled, ?_, ?_, fun hnone => absurd (hup.symm.trans hnone) (Option.some_ne_none true)⟩
    · exact (Agenda.errands_fulfil _ _).trans (congrArg (a.errands ++ ·) (if_neg hcalls).symm)
    · have htask' : (((f.asked c).modifyTimer k fun t => { t with task := none }).timer k).task = none := by
        rw [Floor.timer_modifyTimer, if_pos ⟨rfl, hable.1⟩]
      have hnone : isScheduled ⟨(a.modify i fun e' => e'.ran due a.now false).fulfil { cancels := [j] },
          ((f.asked c).modifyTimer k fun t => { t with task := none }).log a.now .timerSatisfied, sweeper⟩
            (((f.asked c).modifyTimer k fun t => { t with task := none }).timer k).task = false := by
        rw [htask']
        rfl
      exact iff_of_true hnone ⟨hfree, hup⟩
  · have hends : ¬((f.timer k).inFlight = false ∧ f.reply c = some true) := fun h =>
      Bool.false_ne_true (Option.some.inj (hdown.symm.trans h.2))
    rw [heq]
    refine ⟨hscheduled, ?_, ?_, fun hnone => absurd (hdown.symm.trans hnone) (Option.some_ne_none false)⟩
    · exact (Agenda.errands_fulfil _ _).trans (congrArg (a.errands ++ ·) (if_pos ⟨hfree, hdown⟩).symm)
    · have htask' : (((f.asked c).modifyTimer k fun t =>
          { t with attempts := (f.timer k).attempts + 1, inFlight := true }).timer k).task = some i := by
        rw [Floor.timer_modifyTimer, if_pos ⟨rfl, hable.1⟩]
        exact htask
      rw [isTimerScheduled_of_ran he hcancelled htask']
      exact iff_of_false (fun h => Bool.false_ne_true h.symm) hends

theorem checks_of_mem_runs (h : s.IsTended) {i : EntryId} {x : Station × Station} (hx : x ∈ s.runs i)
    {e : Entry Job} {c : ConnectorId} (he : x.1.agenda.entries[i]? = some e) (hlive : e.isLive)
    (hjob : e.job = .check k c) : Checks k c x.1 x.2 := by
  obtain ⟨dues, hx⟩ := mem_runs hx
  obtain ⟨due, heq⟩ := eq_of_mem_runsOf hx
  rw [heq]
  exact checks_runOnce (tended_of_mem_runsOf h hx) he hlive hjob due

/-! ## Acts and runs -/

/-- What an act does to the attempts of a timer. -/
structure Conducts (k : TimerId) (begun ended : Nat) (s : Station) (a : Act) : Prop where
  checks : ∀ i, a = .time (.wake i) → ∀ x ∈ s.runs i, ∀ (e : Entry Job) (c : ConnectorId),
    x.1.agenda.entries[i]? = some e → e.isLive → e.job = .check k c → Checks k c x.1 x.2
  /-- An attempt that was called for begins at its connector. -/
  begins : ∀ c number, a = .time .errand → s.agenda.errands.head? = some (.dial k c number) →
    s.growth Floor.calls k a = 1 ∧ ∃ x y, s.floor.connectors[c]? = some x ∧ (s.act a).floor.connectors[c]? = some y ∧
      y.calls = x.calls + 1
  /-- An attempt is over, well or not, or because it was taken away. -/
  released : 0 < s.growth Floor.finished k a → ((s.act a).timer k).inFlight = false
  shutdown : a = .shutdown → ((s.act a).timer k).inFlight = false
  pause : (∀ i, a ≠ .time (.wake i)) → a ≠ .time .errand → Pause k begun ended s

/-- Every act in its turn keeps the equations, and one in which an attempt is over leaves the timer free. -/
theorem flight_act {a : Act} (hmay : s.May a) (ht : s.IsTended) (h : Flight k n m s.agenda s.floor) :
    Flight k (n + s.growth Floor.calls k a) (m + s.growth Floor.finished k a) (s.act a).agenda (s.act a).floor ∧
      (0 < s.growth Floor.finished k a → ((s.act a).timer k).inFlight = false) := by
  cases a with
  | deed d => exact ⟨flight_perform h ht d, nofun⟩
  | time a =>
    obtain ⟨agenda, floor, sweeper⟩ := s
    cases a with
    | wake i => exact Timeline.flight_wake (t := ⟨agenda, floor⟩) h ht i
    | errand => exact Timeline.flight_beginNext (t := ⟨agenda, floor⟩) h ht
    | clock now | leap now => exact ⟨h.steady (fun _ => ⟨rfl, rfl⟩) rfl rfl, nofun⟩
  | shutdown =>
    obtain ⟨agenda, floor, sweeper⟩ := s
    exact (Timeline.flight_shutdown (t := ⟨agenda, floor⟩) h ht hmay).imp_right fun hfree _ => hfree
  | startAttempt c => exact ⟨h.steady (Floor.quiet_startAttempt s.floor s.now c).steady rfl rfl, nofun⟩
  | conclude c attempt => exact ⟨h.steady (Floor.quiet_conclude s.floor s.now c attempt).steady rfl rfl, nofun⟩

theorem flight_play {acts : List Act} (hacts : s.InTurn acts) (ht : s.IsTended)
    (h : Flight k n m s.agenda s.floor) :
    Flight k (n + grown Floor.calls k s acts) (m + grown Floor.finished k s acts) (s.play acts).agenda
      (s.play acts).floor := by
  induction acts generalizing s n m with
  | nil => exact h
  | cons a as ih =>
    rw [grown, grown, ← Nat.add_assoc, ← Nat.add_assoc]
    exact ih hacts.2 (tended_act hacts.1 ht) (flight_act hacts.1 ht h).1

theorem flight_opened (settings : SweepSettings) (walk : Walk) (k : TimerId) :
    Flight k 0 0 (opened settings walk).agenda (opened settings walk).floor where
  inFlight := by simp [opened, Agenda.unfinished, Agenda.called, Floor.timer, Timer.disabled]
  attempts := by simp [opened, Agenda.called, Floor.timer, Timer.disabled]
  balance := by simp [opened, Agenda.unfinished]

theorem moment_of_flight (h : Flight k n m s.agenda s.floor) : Moment k n m s := by
  have hcount : s.agenda.unfinished k + s.agenda.called k = (s.timer k).inFlight.toNat := h.inFlight
  have hbalance := h.balance
  have hle : (s.timer k).inFlight.toNat ≤ 1 := Bool.toNat_le _
  refine ⟨by omega, by omega, ?_, h.attempts⟩
  cases hflight : (s.timer k).inFlight with
  | true =>
    rw [hflight, Bool.toNat_true] at hcount
    exact iff_of_true rfl (by omega)
  | false =>
    rw [hflight, Bool.toNat_false] at hcount
    exact iff_of_false nofun (by omega)

theorem pause_of_flight (h : Flight k n m s.agenda s.floor) (herrands : s.agenda.errands = []) : Pause k n m s := by
  have hcalled : s.agenda.called k = 0 := by rw [Agenda.called, herrands]; rfl
  obtain ⟨hended, halone, hflight, hattempts⟩ := moment_of_flight h
  rw [hcalled] at hflight hattempts
  exact ⟨hended, halone, hflight, hattempts⟩

/-- An attempt begins at the connector that was checked. -/
theorem begins_errand (ht : s.IsTended) {c : ConnectorId} {number : Nat}
    (herrand : s.agenda.errands.head? = some (.dial k c number)) :
    s.growth Floor.calls k (.time .errand) = 1 ∧ ∃ x y, s.floor.connectors[c]? = some x ∧
      (s.act (.time .errand)).floor.connectors[c]? = some y ∧ y.calls = x.calls + 1 := by
  obtain ⟨rest, hrest⟩ : ∃ rest, s.agenda.errands = .dial k c number :: rest := List.head?_eq_some_iff.mp herrand
  have hable : s.floor.Able (.dial k c number) := (ht.errands _ (by rw [hrest]; exact List.mem_cons_self)).2
  have hfloor : (s.act (.time .errand)).floor = (s.floor.dial s.now k c number).1 := by
    change (Timeline.beginNext Floor.worker s.timeline).host = _
    simp only [Timeline.beginNext, show s.timeline.agenda.errands = _ from hrest]
    rfl
  have hc : c < s.floor.connectors.size := hable.2
  have hx : s.floor.connectors[c]? = some s.floor.connectors[c] := Array.getElem?_eq_getElem hc
  obtain ⟨y, hy, hcalls⟩ := Floor.calls_dial hx s.now k number
  refine ⟨?_, _, y, hx, hfloor ▸ hy, hcalls⟩
  have hown : s.isOwn k (.time .errand) = true := by
    rw [isOwn, herrand]
    exact beq_self_eq_true (some k)
  rw [growth_time, hown, hfloor, (Floor.counts_dial hable.2 s.now k number).growth_calls]

theorem conducts_of_may {a : Act} (hmay : s.May a) (ht : s.IsTended) (h : Flight k n m s.agenda s.floor) :
    Conducts k n m s a where
  checks := fun i _ x hx e c he hlive hjob => checks_of_mem_runs ht hx he hlive hjob
  begins := by
    rintro c number rfl herrand
    exact begins_errand ht herrand
  released := (flight_act hmay ht h).2
  shutdown := by
    rintro rfl
    obtain ⟨agenda, floor, sweeper⟩ := s
    exact (Timeline.flight_shutdown (t := ⟨agenda, floor⟩) h ht hmay).2
  pause := by
    intro hwake herrand
    refine pause_of_flight h ?_
    cases a with
    | time a =>
      cases a with
      | wake i => exact absurd rfl (hwake i)
      | errand => exact absurd rfl herrand
      | clock now => exact hmay.2.2.1
      | leap now => exact hmay.2
    | deed | shutdown | startAttempt | conclude => exact hmay

/-- The attempts of a timer, at every moment of every run, whatever connectors do: one at a time has begun and is
not over, the timer says so and counts those that have begun, and it checks its connector and is released as it
should. -/
theorem single_flight (settings : SweepSettings) (walk : Walk) (orders : List Order) (k : TimerId) :
    let s := opened settings walk
    (∀ done todo, s.plan orders = done ++ todo →
      Moment k (s.grown Floor.calls k done) (s.grown Floor.finished k done) (s.play done) ∧
      ∀ a rest, todo = a :: rest →
        Conducts k (s.grown Floor.calls k done) (s.grown Floor.finished k done) (s.play done) a) ∧
    Pause k (s.grown Floor.calls k (s.plan orders)) (s.grown Floor.finished k (s.plan orders)) (s.after orders) := by
  intro s
  have hturn : s.InTurn (s.plan orders) := inTurn_plan (rests_opened settings walk) orders
  have htended : s.IsTended := tended_opened settings walk
  have hflight : ∀ done, s.InTurn done → Flight k (s.grown Floor.calls k done) (s.grown Floor.finished k done)
      (s.play done).agenda (s.play done).floor := by
    intro done hdone
    have hplay := flight_play hdone htended (flight_opened settings walk k)
    rwa [Nat.zero_add, Nat.zero_add] at hplay
  constructor
  · intro done todo hsplit
    rw [hsplit] at hturn
    obtain ⟨hdone, htodo⟩ := (inTurn_append _ done todo).mp hturn
    refine ⟨moment_of_flight (hflight done hdone), ?_⟩
    rintro a rest rfl
    exact conducts_of_may htodo.1 (tended_play hdone htended) (hflight done hdone)
  · have hend := hflight _ hturn
    rw [play_plan] at hend
    exact pause_of_flight hend (rests_after (rests_opened settings walk) orders).errands

/-- Of three attempts the first fails after a while, the second panics at once and the third never ends; a caller's own
attempt at the same connector does not count. -/
theorem single_flight_of_three :
    let orders : List Order := [
      .deed (.addConnector (.scripted { plans := ⟨[.fails, .panics, .connects, .hangs], 0⟩,
                                        latencies := ⟨[.ofMillis 13, .zero, .ofMillis 2, .ofMillis 1], 0⟩,
                                        replies := ⟨[.asItIs, .asItIs, .is false], 0⟩ })),
      .deed (.addTimer (some { period := .ofMillis 10, fireImmediately := false })),
      .deed (.startTimer 0 0), .advance (.ofMillis 35), .connect 0, .deed (.setConnected 0 false),
      .advance (.ofMillis 20)]
    let s := opened {}
    s.grown Floor.calls 0 (s.plan orders) = 3 ∧ s.grown Floor.finished 0 (s.plan orders) = 2 ∧
      ((s.after orders).timer 0).inFlight = true ∧ ((s.after orders).timer 0).attempts = 3 := by
  intro orders s
  have hcalls : s.grown Floor.calls 0 (s.plan orders) = 3 := by decide +kernel
  have hfinished : s.grown Floor.finished 0 (s.plan orders) = 2 := by decide +kernel
  have hpause := (single_flight {} .byId orders 0).2
  refine ⟨hcalls, hfinished, hpause.inFlight.mpr ?_, hpause.attempts.trans hcalls⟩
  rw [hcalls, hfinished]

end Station

end Liveness
