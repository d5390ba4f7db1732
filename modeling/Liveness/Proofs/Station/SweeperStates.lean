import Liveness.Proofs.Station.Schedule
import Liveness.Proofs.Station.Tracks

/-!
# The states of the sweeper

The sweeper runs while it has a task that was not cancelled.  Only a start takes it there
(`Station.isSweeping_of_act`), and as long as it runs its settings do not change, so at
every moment its task recurs and sweeps by the settings that the sweeper shows
(`Station.Steered`).  No sweep is made by the schedule while the sweeper does not run,
and so none from a stop on to the next start.
-/

namespace Liveness

namespace Station

variable {s : Station} {a : Act}

/-! ## Deeds of the sweeper -/

/-- When a start is not refused. -/
theorem startSweeper_fst (s : Station) :
    s.startSweeper.1 = true ↔ s.isSweeping = false ∧ s.agenda.isShutdown = false := by
  have hcancelled := s.isCancelled_every_eq "liveness-sweep" (.sweep s.sweeper.settings.expireAfter)
    s.sweeper.settings.interval s.sweeper.settings.interval
  unfold startSweeper
  dsimp only
  rw [hcancelled]
  cases s.isSweeping <;> cases s.agenda.isShutdown <;> simp

/-- A start that is refused leaves the sweeper alone. -/
theorem sweeper_startSweeper_of_refused (hstart : s.startSweeper.1 = false) :
    s.startSweeper.2.sweeper = s.sweeper := by
  unfold startSweeper at hstart ⊢
  dsimp only at hstart ⊢
  split at hstart
  · rename_i hsweeping
    rw [if_pos hsweeping]
  · rename_i hidle
    rw [if_neg hidle]
    split at hstart
    · rename_i hrefused
      rw [if_pos hrefused]
      exact sweeper_every s "liveness-sweep" (.sweep s.sweeper.settings.expireAfter) s.sweeper.settings.interval
        s.sweeper.settings.interval
    · cases hstart

theorem fresh_sweepEntry (s : Station) :
    Fresh s (.sweep s.sweeper.settings.expireAfter) s.sweeper.settings.interval s.sweeper.settings.interval
      s.sweepEntry := fresh_recurring s _ _ _ _

/-- A stop says whether the sweeper ran. -/
theorem stopSweeper_fst (s : Station) : s.stopSweeper.1 = s.isSweeping := by
  unfold stopSweeper isSweeping isScheduled
  split
  · rename_i hnone
    rw [hnone]
    rfl
  · rename_i task htask
    rw [htask]
    rfl

theorem sweeper_stopSweeper (s : Station) : s.stopSweeper.2.sweeper = { s.sweeper with task := none } := by
  unfold stopSweeper
  split
  · rename_i hnone
    rw [← hnone]
  · dsimp only
    split <;> rfl

/-- Settings that are taken over change nothing else. -/
theorem setSweeper_eq (s : Station) (settings : SweepSettings) :
    s.setSweeper settings = match settings.validate, s.isSweeping with
      | .error e, _ => .error (.invalid e)
      | .ok _, true => .error .running
      | .ok _, false => .ok { s with sweeper := { s.sweeper with settings } } := by
  unfold setSweeper
  cases settings.validate with
  | error e => rfl
  | ok u => cases s.isSweeping <;> rfl

/-! ## Starts -/

/-- Whether an act starts the sweeper. -/
def startsSweeper (s : Station) : Act → Bool
  | .deed .startSweeper => s.startSweeper.1
  | _ => false

/-- Whether the sweeper is started in a list of acts. -/
def resumes : Station → List Act → Bool
  | _, [] => false
  | s, a :: as => s.startsSweeper a || resumes (s.act a) as

/-- A sweeper later on that was not started in between: as long as it runs its settings stay. -/
structure Steers (s s' : Station) : Prop where
  task : s'.sweeper.task = s.sweeper.task ∨ s'.sweeper.task = none
  settings : s.isSweeping = true → s'.sweeper.settings = s.sweeper.settings

theorem Steers.of_eq {s' : Station} (h : s'.sweeper = s.sweeper) : s.Steers s' :=
  ⟨.inl (congrArg Sweeper.task h), fun _ => congrArg Sweeper.settings h⟩

theorem steers_perform {d : Deed} (hstart : s.startsSweeper (.deed d) = false) : s.Steers (s.perform d) := by
  cases hown : d.isOfSweeper with
  | false => exact .of_eq (sweeper_perform_of_not_isOfSweeper hown)
  | true =>
    cases d with
    | startSweeper => exact .of_eq (sweeper_startSweeper_of_refused hstart)
    | stopSweeper =>
      rw [perform]
      refine ⟨.inr ?_, fun _ => ?_⟩ <;> rw [sweeper_stopSweeper]
    | setSweeper settings =>
      simp only [perform, setSweeper]
      cases settings.validate with
      | error e => exact .of_eq rfl
      | ok u =>
        cases hsweeping : s.isSweeping with
        | true => exact .of_eq rfl
        | false => exact ⟨.inl rfl, fun h => absurd (hsweeping.symm.trans h) Bool.false_ne_true⟩
    | _ => cases hown

theorem steers_act (hstart : s.startsSweeper a = false) : s.Steers (s.act a) := by
  cases a with
  | deed d => exact steers_perform hstart
  | time | shutdown | startAttempt | conclude => exact .of_eq rfl

/-- Only a start makes the sweeper run. -/
theorem isSweeping_of_act (ht : s.IsTended) (hstart : s.startsSweeper a = false)
    (h : (s.act a).isSweeping = true) : s.isSweeping = true := by
  refine isScheduled_of_later (s.act a) (fun i hi => ?_) (fun i e he => later_act he a) (steers_act hstart).task h
  obtain ⟨e, limit, he, -⟩ := ht.sweeper i hi
  exact ⟨e, he⟩

theorem startsSweeper_iff : s.startsSweeper a = true ↔ a = .deed .startSweeper ∧ s.startSweeper.1 = true := by
  constructor
  · intro h
    cases a with
    | deed d =>
      cases d with
      | startSweeper => exact ⟨rfl, h⟩
      | _ => cases h
    | time | shutdown | startAttempt | conclude => cases h
  · rintro ⟨rfl, h⟩
    exact h

/-! ## While the sweeper runs -/

/-- The task of a sweeper that runs recurs and sweeps by the settings that the sweeper shows. -/
def Steered (s : Station) : Prop :=
  s.isSweeping = true → ∃ i e, s.sweeper.task = some i ∧ s.agenda.entries[i]? = some e ∧
    e.Tracks (.sweep s.sweeper.settings.expireAfter) s.sweeper.settings.interval.asPeriod False s.now

theorem steered_startSweeper (hstart : s.startSweeper.1 = true) : s.startSweeper.2.Steered := by
  intro _
  obtain ⟨hsweeper, hnow, hentry, -⟩ := start_spec hstart
  have hwait : s.sweeper.settings.interval.nanos ≤ s.sweeper.settings.interval.asPeriod.nanos := by
    unfold Span.asPeriod
    split
    · rw [Span.nanos_ofMillis]
      omega
    · exact Nat.le_refl _
  refine ⟨s.agenda.entries.size, s.sweepEntry, by rw [hsweeper], hentry, ?_⟩
  rw [hsweeper, hnow]
  exact (fresh_sweepEntry s).tracks hwait False

/-- Sweeps do not panic. -/
theorem calm_of_sweep {i : EntryId} {e : Entry Job} {limit : Span} (he : s.agenda.entries[i]? = some e)
    (hjob : e.job = .sweep limit) : Calm i (s.runs i) := by
  intro x hx e' he' _
  obtain ⟨dues, hx⟩ := mem_runs hx
  obtain ⟨e'', he'', hsame⟩ := job_of_mem_runsOf hx he
  obtain rfl := Option.some.inj (he'.symm.trans he'')
  rw [hsame.trans hjob]
  rfl

theorem steered_act (hmay : s.May a) (ht : s.IsTended) (h : s.Steered) : (s.act a).Steered := by
  cases hstart : s.startsSweeper a with
  | true =>
    obtain ⟨rfl, hfst⟩ := startsSweeper_iff.mp hstart
    exact steered_startSweeper hfst
  | false =>
    intro hsweeping
    have hbefore := isSweeping_of_act ht hstart hsweeping
    obtain ⟨i, e, htask, he, htracks⟩ := h hbefore
    obtain ⟨hsame, hsettings⟩ := steers_act hstart
    obtain ⟨e', he', htracks'⟩ :=
      tracks_act hmay he (Nat.lt_of_lt_of_le (by decide) (Span.asPeriod_ge _))
        (fun _ _ => calm_of_sweep he htracks.job) htracks id
    rcases hsame with hsame | hnone
    · refine ⟨i, e', hsame.trans htask, he', ?_⟩
      rw [hsettings hbefore]
      exact htracks'
    · rw [isSweeping, hnone] at hsweeping
      cases hsweeping

theorem steered_opened (settings : SweepSettings) (walk : Walk) : (opened settings walk).Steered := nofun

theorem steered_play {acts : List Act} (hacts : s.InTurn acts) (ht : s.IsTended) (h : s.Steered) :
    (s.play acts).Steered := by
  induction acts generalizing s with
  | nil => exact h
  | cons a as ih => exact ih hacts.2 (tended_act hacts.1 ht) (steered_act hacts.1 ht h)

/-- A sweep of the schedule is made by the task of a sweeper that runs, and by the settings that it shows. -/
theorem sweep_of_mem_visits (ht : s.IsTended) (h : s.Steered) {op : Hub.Op} (hv : (.schedule, op) ∈ s.visits a) :
    s.isSweeping = true ∧ op = .sweep s.now s.sweeper.settings.expireAfter := by
  cases apt_of_mem_visits ht hv with
  | schedule i limit _ htask hsweeping hentry =>
    obtain ⟨j, e, htask', he, htracks⟩ := h hsweeping
    obtain ⟨e', he', hjob⟩ := hentry
    obtain rfl := Option.some.inj (htask.symm.trans htask')
    obtain rfl := Option.some.inj (he.symm.trans he')
    obtain rfl := Job.sweep.inj (hjob.symm.trans htracks.job)
    exact ⟨hsweeping, rfl⟩

theorem not_isSweeping_play {acts : List Act} (hacts : s.InTurn acts) (ht : s.IsTended)
    (hidle : s.isSweeping = false) (hstart : resumes s acts = false) : (s.play acts).isSweeping = false := by
  induction acts generalizing s with
  | nil => exact hidle
  | cons a as ih =>
    rw [resumes, Bool.or_eq_false_iff] at hstart
    refine ih hacts.2 (tended_act hacts.1 ht) ?_ hstart.2
    exact Bool.eq_false_iff.mpr fun h => Bool.eq_false_iff.mp hidle (isSweeping_of_act ht hstart.1 h)

theorem sweeper_act (ht : s.IsTended) (hstart : s.startsSweeper a = false) (h : (s.act a).isSweeping = true) :
    (s.act a).sweeper = s.sweeper := by
  obtain ⟨htask, hsettings⟩ := steers_act hstart
  have hsame := hsettings (isSweeping_of_act ht hstart h)
  rcases htask with htask | hnone
  · cases hafter : (s.act a).sweeper
    cases hbefore : s.sweeper
    rw [hafter, hbefore] at htask hsame
    exact congrArg₂ Sweeper.mk hsame htask
  · rw [isSweeping, hnone] at h
    cases h

/-- As long as the sweeper runs, it keeps its settings and its task. -/
theorem sweeper_play {acts : List Act} (hacts : s.InTurn acts) (ht : s.IsTended) (hstart : resumes s acts = false)
    (h : (s.play acts).isSweeping = true) : (s.play acts).sweeper = s.sweeper := by
  induction acts generalizing s with
  | nil => rfl
  | cons a as ih =>
    rw [resumes, Bool.or_eq_false_iff] at hstart
    have ht' := tended_act hacts.1 ht
    have hsweeping : (s.act a).isSweeping = true := by
      refine (Bool.not_eq_false _).mp fun hidle => ?_
      exact Bool.false_ne_true ((not_isSweeping_play hacts.2 ht' hidle hstart.2).symm.trans h)
    exact (ih hacts.2 ht' hstart.2 h).trans (sweeper_act ht hstart.1 hsweeping)

/-- While it does not run, no sweep is made by its schedule. -/
theorem scheduled_of_resumes {acts : List Act} (hacts : s.InTurn acts) (ht : s.IsTended)
    (hidle : s.isSweeping = false) (hstart : resumes s acts = false) : scheduled (s.history acts) = [] := by
  induction acts generalizing s with
  | nil => rfl
  | cons a as ih =>
    rw [resumes, Bool.or_eq_false_iff] at hstart
    have hidle' : (s.act a).isSweeping = false :=
      Bool.eq_false_iff.mpr fun h => Bool.eq_false_iff.mp hidle (isSweeping_of_act ht hstart.1 h)
    rw [history, scheduled_append, ih hacts.2 (tended_act hacts.1 ht) hidle' hstart.2, List.append_nil]
    refine List.filterMap_eq_nil_iff.mpr fun w hw => if_neg fun hsource => ?_
    obtain ⟨⟨source, op⟩, hv, rfl⟩ := List.mem_map.mp hw
    obtain rfl : source = .schedule := hsource
    cases apt_of_mem_visits ht hv with
    | schedule _ _ _ _ hsweeping => exact absurd (hidle.symm.trans hsweeping) Bool.false_ne_true

/-! ## Runs -/

/-- The sweeper at some moment. -/
structure SweeperState (s : Station) : Prop where
  alone : ∀ (i j : EntryId) (e e' : Entry Job) limit limit', s.agenda.entries[i]? = some e →
    s.agenda.entries[j]? = some e' → e.job = .sweep limit → e'.job = .sweep limit' → e.isLive → e'.isLive → i = j
  live : ∀ (i : EntryId) (e : Entry Job) limit, s.agenda.entries[i]? = some e → e.job = .sweep limit → e.isLive →
    s.isSweeping = true
  /-- A sweeper that runs has a task, which has not ended unless the clock came to its end. -/
  task : s.isSweeping = true → ∃ i e, s.sweeper.task = some i ∧ s.agenda.entries[i]? = some e ∧
    e.job = .sweep s.sweeper.settings.expireAfter ∧ e.period = some s.sweeper.settings.interval.asPeriod ∧
    (s.sweeper.settings.interval.asPeriod.nanos ≤ wordMax →
      s.sweeper.settings.interval.asPeriod.after s.now < Cadence.clockEnd → e.isLive)
  start : s.startSweeper.1 = true ↔ s.isSweeping = false ∧ s.agenda.isShutdown = false
  started : s.startSweeper.1 = true →
    s.startSweeper.2.isSweeping = true ∧ s.startSweeper.2.sweeper.settings = s.sweeper.settings
  refused : s.startSweeper.1 = false →
    s.startSweeper.2.isSweeping = s.isSweeping ∧ s.startSweeper.2.sweeper = s.sweeper
  stop : s.stopSweeper.1 = s.isSweeping
  stopped : s.stopSweeper.2.isSweeping = false ∧ s.stopSweeper.2.sweeper.settings = s.sweeper.settings
  /-- Settings are checked first, and taken over only while the sweeper does not run. -/
  set : ∀ settings, s.setSweeper settings = match settings.validate, s.isSweeping with
    | .error e, _ => .error (.invalid e)
    | .ok _, true => .error .running
    | .ok _, false => .ok { s with sweeper := { s.sweeper with settings } }
  kept : ∀ settings refusal, s.setSweeper settings = .error refusal → s.perform (.setSweeper settings) = s

theorem isSweeping_startSweeper_of_refused (ht : s.IsTended) (hstart : s.startSweeper.1 = false) :
    s.startSweeper.2.isSweeping = s.isSweeping := by
  cases hsweeping : s.isSweeping with
  | true =>
    have hsame : s.startSweeper.2 = s := by
      unfold startSweeper
      rw [if_pos hsweeping]
    exact (congrArg isSweeping hsame).trans hsweeping
  | false =>
    refine Bool.eq_false_iff.mpr fun h => Bool.eq_false_iff.mp hsweeping ?_
    exact isSweeping_of_act (a := .deed .startSweeper) ht hstart h

theorem sweeperState_of_steered (ht : s.IsTended) (h : s.Steered) : SweeperState s where
  alone := fun i j e e' limit limit' he he' hjob hjob' hlive hlive' =>
    Option.some.inj ((ht.sweeps i e limit he hjob hlive).symm.trans (ht.sweeps j e' limit' he' hjob' hlive'))
  live := fun i e limit he hjob hlive => by
    rw [isSweeping, isScheduled_of_task (ht.sweeps i e limit he hjob hlive) he, (Entry.isLive_iff.mp hlive).1]
    rfl
  task := fun hsweeping => by
    obtain ⟨i, e, htask, he, htracks⟩ := h hsweeping
    rw [isSweeping, isScheduled_of_task htask he, Bool.not_eq_true'] at hsweeping
    exact ⟨i, e, htask, he, htracks.job, htracks.period,
      fun hword hreach => htracks.lasts hsweeping hword hreach not_false⟩
  start := startSweeper_fst s
  started := fun hstart => by
    obtain ⟨hsweeper, -, hentry, -⟩ := start_spec hstart
    rw [isSweeping, hsweeper]
    exact ⟨isScheduled_of_task rfl hentry, rfl⟩
  refused := fun hstart =>
    ⟨isSweeping_startSweeper_of_refused ht hstart, sweeper_startSweeper_of_refused hstart⟩
  stop := stopSweeper_fst s
  stopped := by
    rw [isSweeping, sweeper_stopSweeper]
    exact ⟨rfl, rfl⟩
  set := setSweeper_eq s
  kept := fun settings refusal hrefused => by
    rw [perform, hrefused]

/-- The states of the sweeper, at every moment of every run and from any settings: it has one live task at most
and runs while it has one, starts, stops and takes settings over as it should.  While it runs its settings stay,
its task keeps to them, and every sweep of the schedule goes by them; while it does not run no sweep is made by
the schedule until the next start. -/
theorem sweeper_states (settings : SweepSettings) (walk : Walk) (orders : List Order) (done todo : List Act)
    (hsplit : (opened settings walk).plan orders = done ++ todo) :
    let s := (opened settings walk).play done
    SweeperState s ∧
    (∀ a rest op, todo = a :: rest → (.schedule, op) ∈ s.visits a →
      s.isSweeping = true ∧ op = .sweep s.now s.sweeper.settings.expireAfter) ∧
    (∀ mid rest, todo = .deed .startSweeper :: mid ++ rest → s.startSweeper.1 = true →
      ∃ i e, s.startSweeper.2.sweeper.task = some i ∧ (s.startSweeper.2.play mid).agenda.entries[i]? = some e ∧
        e.job = .sweep s.sweeper.settings.expireAfter ∧
        e.OnGrid (s.firstDue s.sweeper.settings.interval) s.sweeper.settings.interval.asPeriod) ∧
    ∀ mid rest, todo = mid ++ rest → resumes s mid = false →
      ((s.play mid).isSweeping = true → (s.play mid).sweeper = s.sweeper) ∧
      (s.isSweeping = false → scheduled (s.history mid) = [] ∧ (s.play mid).isSweeping = false) := by
  intro s
  have hturn : (opened settings walk).InTurn (done ++ todo) :=
    hsplit ▸ inTurn_plan (rests_opened settings walk) orders
  obtain ⟨hdone, htodo⟩ := (inTurn_append _ done todo).mp hturn
  have ht : s.IsTended := tended_play hdone (tended_opened settings walk)
  have hsteered : s.Steered := steered_play hdone (tended_opened settings walk) (steered_opened settings walk)
  refine ⟨sweeperState_of_steered ht hsteered, ?_, ?_, ?_⟩
  · rintro a rest op rfl hv
    exact sweep_of_mem_visits ht hsteered hv
  · rintro mid rest rfl hstart
    have hmid := ((inTurn_append _ _ _).mp htodo.2).1
    obtain ⟨hsweeper, -, hentry, -⟩ := start_spec hstart
    obtain ⟨e, he, hjob, hgrid⟩ := (fresh_sweepEntry s).play hmid hentry
    exact ⟨_, e, congrArg Sweeper.task hsweeper, he, hjob, hgrid⟩
  · rintro mid rest rfl hstart
    have hmid := ((inTurn_append _ _ _).mp htodo).1
    exact ⟨sweeper_play hmid ht hstart, fun hidle =>
      ⟨scheduled_of_resumes hmid ht hidle hstart, not_isSweeping_play hmid ht hidle hstart⟩⟩

/-- A sweeper with an interval of ten milliseconds has swept twice when it is stopped, and does not sweep
afterwards. -/
theorem sweeper_states_of_stop :
    let settings : SweepSettings := { expireAfter := .ofMillis 5, interval := .ofMillis 10 }
    let before := [Order.deed .startSweeper, .advance (.ofMillis 25), .deed .stopSweeper]
    let s := (opened settings).after before
    let mid := s.plan [.advance (.ofMillis 50)]
    (opened settings).plan (before ++ [.advance (.ofMillis 50)]) = (opened settings).plan before ++ mid ∧
      (scheduled ((opened settings).history ((opened settings).plan before))).map Prod.fst = [10000000, 20000000] ∧
      resumes s mid = false ∧ s.isSweeping = false ∧ scheduled (s.history mid) = [] := by
  intro settings before s mid
  have hplan : (opened settings).plan (before ++ [.advance (.ofMillis 50)]) =
      (opened settings).plan before ++ mid := plan_append _ _ _
  have hplay : (opened settings).play ((opened settings).plan before) = s := play_plan _ _
  have hstates := sweeper_states settings .byId _ _ _ hplan
  rw [hplay] at hstates
  obtain ⟨-, -, -, hmid⟩ := hstates
  have hstart : resumes s mid = false := by decide +kernel
  have hidle : s.isSweeping = false := by decide +kernel
  obtain ⟨-, hnone⟩ := hmid mid [] (by rw [List.append_nil]) hstart
  exact ⟨hplan, by decide +kernel, hstart, hidle, (hnone hidle).1⟩

/-- Where the sweeper does not go by its settings: with an interval longer than any the clock can wait for it runs
without a live task, and an interval below one millisecond counts as one millisecond, here of a sweeper that has
swept last at 10.2 ms and by its interval is due again every 0.1 ms. -/
theorem sweeper_off_settings :
    (let s := (opened { interval := ⟨9223372036854775808000000000⟩ }).after [.deed .startSweeper]
     s.isSweeping = true ∧ s.agenda.active = 0) ∧
    (let s := opened { expireAfter := ⟨1⟩, interval := ⟨100000⟩ }
     let orders := [Order.deed .startSweeper, .jump ⟨10200000⟩, .jump ⟨1000000⟩]
     s.sweeper.settings.validate = .ok () ∧ (s.after orders).now = 11200000 ∧
       (scheduled (s.history (s.plan orders))).map Prod.fst = [10200000]) := by
  refine ⟨?_, ?_⟩ <;> decide +kernel

end Station

end Liveness
