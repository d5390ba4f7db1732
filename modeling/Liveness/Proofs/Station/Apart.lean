import Liveness.Proofs.Station.FixedRate
import Liveness.Proofs.Station.SingleFlight
import Liveness.Proofs.Station.Timers

/-!
# What others leave of a timer

A timer at work is checked by its task, and its attempts start and end.  These are the
acts of its own (`Station.Turn`); all others leave its task, its flag and the entries and
errands that are of it as they are (`Station.spared_act`), as long as callers do not
take it from its work.  A timer without a task that could call for an attempt
therefore rests for ever (`Station.resting_act`).
-/

namespace Liveness

namespace Floor

/-- How the attempts of a timer end that a run of some work ends. -/
def ended (f : Floor) (k : TimerId) (now : Int) : Job → List ConnectResult
  | .answer k' c _ attempt => if k' = k then [(f.conclude now c attempt).1] else []
  | .dial k' c _ =>
    let (attempt, latency, f) := f.startAttempt now c
    if k' = k ∧ attempt.ends ∧ latency.isZero then [(f.conclude now c attempt).1] else []
  | _ => []

theorem ended_of_ne {k : TimerId} {job : Job} (hjob : job.timer? ≠ some k) (f : Floor) (now : Int) :
    f.ended k now job = [] := by
  cases job with
  | answer k' | dial k' =>
    have hne : k' ≠ k := fun heq => hjob (congrArg some heq)
    simp only [ended, hne, false_and, if_false]
  | sweep | report | traffic | silence | check | probe | note => rfl

end Floor

namespace Timeline

/-- What others leave of a timer on an agenda and a floor. -/
structure Spares (k : TimerId) (t t' : Timeline Job Floor) : Prop where
  timer : t'.host.timer k = t.host.timer k
  errands : t'.agenda.errands.filter (Job.dials k) = t.agenda.errands.filter (Job.dials k)
  entries : ∀ (i : EntryId) (e : Entry Job), t.agenda.entries[i]? = some e → e.job.timer? = some k →
    t'.agenda.entries[i]? = some e

variable {task : Option EntryId} {k : TimerId} {t t₁ t₂ t₃ : Timeline Job Floor} {i : EntryId} {job : Job}

theorem Spares.refl (k : TimerId) (t : Timeline Job Floor) : Spares k t t := ⟨rfl, rfl, fun _ _ he _ => he⟩

theorem Spares.trans (h : Spares k t₁ t₂) (h' : Spares k t₂ t₃) : Spares k t₁ t₃ where
  timer := h'.timer.trans h.timer
  errands := h'.errands.trans h.errands
  entries := fun i e he hk => h'.entries i e (h.entries i e he hk) hk

/-- An entry that is not of the timer may change. -/
theorem spares_modify (t : Timeline Job Floor) {g : Entry Job → Entry Job}
    (hjob : ∀ e, t.agenda.entries[i]? = some e → e.job.timer? ≠ some k) :
    Spares k t { t with agenda := t.agenda.modify i g } where
  timer := rfl
  errands := rfl
  entries := fun j e he hk => by
    have hne : i ≠ j := by
      rintro rfl
      exact hjob e he hk
    rwa [Agenda.modify, Array.getElem?_modify, if_neg hne]

/-- What a run of other work asks for. -/
theorem spares_fulfil (ht : Tended task t.agenda t.host) (hjob : job.timer? ≠ some k) (runs : List Run) (now : Int) :
    Spares k t ⟨t.agenda.fulfil (Floor.run job runs now t.host).2, (Floor.run job runs now t.host).1⟩ where
  timer := Floor.timer_run_of_ne hjob runs now t.host
  errands := by
    have hnone : (Floor.run job runs now t.host).2.errands.filter (Job.dials k) = [] := by
      refine List.filter_eq_nil_iff.mpr fun job' hjob' hdials => ?_
      obtain ⟨k', c, number, rfl, rfl⟩ := Floor.errands_run hjob'
      exact hjob (congrArg some (beq_iff_eq.mp hdials))
    rw [Agenda.errands_fulfil, List.filter_append, hnone, List.append_nil]
  entries := fun i e he hk => by
    obtain ⟨e', he', -, hsame, -⟩ := Agenda.kept_fulfil (Floor.run job runs now t.host).2 he
    rw [he', hsame fun hmem => ?_]
    obtain ⟨k', hk', htask⟩ := Floor.task_of_mem_cancels hmem
    obtain ⟨e₁, c, he₁, hcheck⟩ := ht.tasks k' i htask
    obtain rfl := Option.some.inj (he.symm.trans he₁)
    rw [hcheck] at hk
    exact hjob (hk'.trans hk)

theorem spares_runOnce (ht : Tended task t.agenda t.host)
    (hjob : ∀ e, t.agenda.entries[i]? = some e → e.job.timer? ≠ some k) (due : Int) :
    Spares k t (runOnce Floor.worker i t due) := by
  refine runOnce_cases Floor.worker (P := Spares k t) due (.refl k t) fun e he _ => ?_
  have hran := ht.modify i (fun e' => e'.later_ran due t.agenda.now
    (Floor.worker.run e.job e.runs t.agenda.now t.host).2.panicked) fun e' => Entry.isLive_of_ran
  exact (spares_modify t hjob).trans (spares_fulfil (t := ⟨_, t.host⟩) hran (hjob e he) e.runs t.agenda.now)

/-- Other work leaves the timer alone when it wakes up. -/
theorem spares_wake (ht : Tended task t.agenda t.host)
    (hjob : ∀ e, t.agenda.entries[i]? = some e → e.isLive → e.job.timer? ≠ some k) :
    Spares k t (wake Floor.worker t i) := by
  by_cases hwaits : ∃ due, t.Waits i due
  · obtain ⟨due, e, he, hdue⟩ := hwaits
    have hother : e.job.timer? ≠ some k := hjob e he (Entry.isLive_of_due? hdue)
    suffices Tended task (wake Floor.worker t i).agenda (wake Floor.worker t i).host ∧
        (∃ e, (wake Floor.worker t i).agenda.entries[i]? = some e ∧ e.job.timer? ≠ some k) ∧
        Spares k t (wake Floor.worker t i) from this.2.2
    refine wake_induction Floor.worker
      (P := fun t' => Tended task t'.agenda t'.host ∧ (∃ e, t'.agenda.entries[i]? = some e ∧ e.job.timer? ≠ some k) ∧
        Spares k t t') ?_ ?_ ⟨ht, ⟨e, he, hother⟩, .refl k t⟩
    · rintro t' due ⟨ht', ⟨e', he', hother'⟩, hspares⟩
      obtain ⟨e₁, he₁, hlater⟩ := (goes_runOnce Floor.orderly_worker t' i due).old i e' he'
      refine ⟨tended_runOnce ht' i due, ⟨e₁, he₁, hlater.job ▸ hother'⟩, hspares.trans (spares_runOnce ht' ?_ due)⟩
      intro e₂ he₂
      obtain rfl := Option.some.inj (he'.symm.trans he₂)
      exact hother'
    · rintro t' stage ⟨ht', ⟨e', he', hother'⟩, hspares⟩
      refine ⟨ht'.modify i (fun _ => ⟨rfl, rfl, rfl, id⟩) fun _ => Entry.isLive_of_restage, ⟨e'.restage stage, ?_, hother'⟩,
        hspares.trans (spares_modify t' fun e₂ he₂ => ?_)⟩
      · simp only [Agenda.modify, Array.getElem?_modify, if_true, he', Option.map_some]
      · obtain rfl := Option.some.inj (he'.symm.trans he₂)
        exact hother'
  · rw [wake_of_not_waits Floor.worker (not_exists.mp hwaits)]
    exact .refl k t

/-- The start of an attempt leaves all other timers alone. -/
theorem spares_beginNext (ht : Tended task t.agenda t.host)
    (hjob : ∀ job, t.agenda.errands.head? = some job → job.timer? ≠ some k) :
    Spares k t (beginNext Floor.worker t) := by
  cases hjobs : t.agenda.errands with
  | nil =>
    simp only [beginNext, hjobs]
    exact .refl k t
  | cons job rest =>
    have hup : t.agenda.isShutdown = false := by
      refine Bool.eq_false_iff.mpr fun hdown => ?_
      rw [(ht.ended hdown).1] at hjobs
      cases hjobs
    have herrands := ht.errands
    rw [hjobs] at hjob herrands
    have hother : job.timer? ≠ some k := hjob job rfl
    have hdials : ¬job.dials k = true := by
      obtain ⟨⟨k', c, number, rfl⟩, -⟩ := herrands job List.mem_cons_self
      exact fun hdials => hother (congrArg some (beq_iff_eq.mp hdials))
    have hrest : Tended task { t.agenda with errands := rest } t.host :=
      ht.withErrands hup fun job' hmem => herrands job' (List.mem_cons_of_mem _ hmem)
    have hdrop : Spares k t ⟨{ t.agenda with errands := rest }, t.host⟩ :=
      ⟨rfl, by rw [hjobs, List.filter_cons_of_neg hdials], fun _ _ he _ => he⟩
    simp only [beginNext, hjobs]
    exact hdrop.trans (spares_fulfil hrest hother [] t.agenda.now)

end Timeline

namespace Station

variable {s s' : Station} {k : TimerId} {a : Act} {n : Nat}

/-! ## Acts of others -/

/-- Deeds that do not take a timer from its work or to it. -/
def Deed.spares (k : TimerId) : Deed → Bool
  | .startTimer k' _ | .stopTimer k' | .setAutoConnect k' false | .dropTimer k' => k' != k
  | _ => true

/-- A timer that others have left at its work. -/
structure Spared (k : TimerId) (s s' : Station) : Prop where
  task : (s'.timer k).task = (s.timer k).task
  inFlight : (s'.timer k).inFlight = (s.timer k).inFlight
  handles : 0 < (s.timer k).handles → 0 < (s'.timer k).handles
  errands : s'.agenda.errands.filter (Job.dials k) = s.agenda.errands.filter (Job.dials k)
  entries : ∀ (i : EntryId) (e : Entry Job), s.agenda.entries[i]? = some e → e.job.timer? = some k →
    s'.agenda.entries[i]? = some e

theorem Spared.of_spares (h : Timeline.Spares k s.timeline s'.timeline) : Spared k s s' where
  task := congrArg Timer.task h.timer
  inFlight := congrArg Timer.inFlight h.timer
  handles := fun hpos => (congrArg Timer.handles h.timer : (s'.timer k).handles = (s.timer k).handles) ▸ hpos
  errands := h.errands
  entries := h.entries

/-- What a deed that spares a timer leaves of its task. -/
theorem task_perform {d : Deed} (hd : d.spares k) :
    ((s.perform d).timer k).task = (s.timer k).task ∧
      (0 < (s.timer k).handles → 0 < ((s.perform d).timer k).handles) := by
  by_cases hown : d.timer? = some k
  · have hmakes := makes_perform (s := s) hown
    generalize (s.perform d).timer k = t at hmakes ⊢
    cases hmakes with
    | same | on | pace => exact ⟨rfl, id⟩
    | hold hle => exact ⟨rfl, fun hpos => Nat.lt_of_lt_of_le hpos hle⟩
    | start | stop | off | drop => simp [Deed.spares] at hd
  · rcases timer_perform_of_ne (s := s) hown with heq | ⟨hk, hnew⟩
    · rw [heq]
      exact ⟨rfl, id⟩
    · have hold : s.timer k = .disabled := timer_of_size (Nat.le_of_eq hk.symm)
      rcases hnew with hnew | ⟨settings, hnew⟩
      · rw [hnew, hold]
        exact ⟨rfl, id⟩
      · rw [hnew, hold]
        exact ⟨rfl, id⟩

/-- No deed that spares a timer takes away what is of it. -/
theorem not_drops_of_spares (ht : s.IsTended) {d : Deed} (hd : d.spares k) {i : EntryId} {e : Entry Job}
    (he : s.agenda.entries[i]? = some e) (hk : e.job.timer? = some k) (hon : ∀ k', d ≠ .setAutoConnect k' true) :
    ¬d.Drops s i := by
  have htask : ∀ k', (s.timer k').task = some i → k' = k := by
    intro k' hi
    obtain ⟨e', c, he', hjob⟩ := ht.tasks k' i hi
    obtain rfl := Option.some.inj (he.symm.trans he')
    rw [hjob] at hk
    exact Option.some.inj hk
  cases d with
  | stopSweeper =>
    intro hi
    obtain ⟨e', limit, he', hjob⟩ := ht.sweeper i hi
    obtain rfl := Option.some.inj (he.symm.trans he')
    rw [hjob] at hk
    cases hk
  | cancel j =>
    rintro ⟨rfl, hfree⟩
    simp only [isFree, he] at hfree
    split at hfree
    · rename_i hjob
      rw [hjob] at hk
      cases hk
    · rename_i hjob
      rw [hjob] at hk
      cases hk
    · cases hfree
  | stopSimulation n =>
    rintro ⟨sim, hsim, hi⟩
    obtain ⟨⟨e₁, he₁, hjob₁⟩, e₂, he₂, hjob₂⟩ := ht.simulations n sim hsim
    rcases hi with rfl | rfl
    · obtain rfl := Option.some.inj (he.symm.trans he₁)
      rw [hjob₁] at hk
      cases hk
    · obtain rfl := Option.some.inj (he.symm.trans he₂)
      rw [hjob₂] at hk
      cases hk
  | stopTimer k' | dropTimer k' =>
    intro hi
    obtain rfl := htask k' hi
    simp [Deed.spares] at hd
  | setAutoConnect k' on =>
    cases on with
    | true => exact absurd rfl (hon k')
    | false =>
      intro hi
      obtain rfl := htask k' hi
      simp [Deed.spares] at hd
  | onHub | sweepNow | startSweeper | setSweeper | every | once | note | startReporter | startSimulation
  | addTimer | startTimer | setTimerPeriod | holdTimer | addConnector | setConnected => exact id

theorem spared_perform (ht : s.IsTended) {d : Deed} (hd : d.spares k) : Spared k s (s.perform d) where
  task := (task_perform hd).1
  inFlight := (steady_perform s d k).1
  handles := (task_perform hd).2
  errands := by rw [(grows_perform s d).errands]
  entries := fun i e he hk => by
    by_cases hon : ∃ k', d = .setAutoConnect k' true
    · -- switching a timer on does nothing to the agenda
      obtain ⟨k', rfl⟩ := hon
      have hsame : (s.perform (.setAutoConnect k' true)).agenda = s.agenda := by
        simp only [perform, setAutoConnect]
        split <;> rfl
      rw [hsame]
      exact he
    · obtain ⟨e', he', -, hsame⟩ := (grows_perform s d).old he
      rw [he', hsame (not_drops_of_spares ht hd he hk (not_exists.mp hon))]

/-- How the attempts of a timer end that an act ends. -/
def ended (s : Station) (k : TimerId) : Act → List ConnectResult
  | .time (.wake i) =>
    ((s.agenda.entries[i]?).filter fun e => e.due?.isSome).elim [] fun e => s.floor.ended k s.now e.job
  | .time .errand => s.agenda.errands.head?.elim [] (s.floor.ended k s.now)
  | _ => []

theorem ended_wake {i : EntryId} {e : Entry Job} {due : Int} (he : s.agenda.entries[i]? = some e)
    (hdue : e.due? = some due) : s.ended k (.time (.wake i)) = s.floor.ended k s.now e.job := by
  rw [ended, he, Option.filter_some, hdue]
  rfl

/-- Acts that spare a timer. -/
def Act.spares (k : TimerId) : Act → Bool
  | .deed d => d.spares k
  | .shutdown => false
  | _ => true

theorem Act.ne_shutdown_of_spares (ha : a.spares k) : a ≠ .shutdown := by
  rintro rfl
  cases ha

/-- Acts that are no work of a timer. -/
def Others (s : Station) (k : TimerId) : Act → Prop
  | .time (.wake i) => ∀ e, s.agenda.entries[i]? = some e → e.isLive → e.job.timer? ≠ some k
  | .time .errand => ∀ job, s.agenda.errands.head? = some job → job.timer? ≠ some k
  | _ => True

theorem spared_act (ht : s.IsTended) (ha : a.spares k) (hothers : s.Others k a) : Spared k s (s.act a) := by
  cases a with
  | deed d => exact spared_perform ht ha
  | time a =>
    cases a with
    | wake i => exact .of_spares (Timeline.spares_wake (t := s.timeline) ht hothers)
    | errand => exact .of_spares (Timeline.spares_beginNext (t := s.timeline) ht hothers)
    | clock | leap => exact ⟨rfl, rfl, id, rfl, fun _ _ he _ => he⟩
  | shutdown => cases ha
  | startAttempt c =>
    refine .of_spares ⟨?_, rfl, fun _ _ he _ => he⟩
    exact Floor.timer_of_timers (Floor.timers_startAttempt s.floor s.now c) k
  | conclude c attempt =>
    refine .of_spares ⟨?_, rfl, fun _ _ he _ => he⟩
    exact Floor.timer_of_timers (Floor.timers_conclude s.floor s.now c attempt) k

/-- What others leave of a task stays scheduled as it was. -/
theorem Spared.isTimerScheduled (ht : s.IsTended) (h : Spared k s s') :
    s'.isTimerScheduled k = s.isTimerScheduled k := by
  cases htask : (s.timer k).task with
  | none => rw [isTimerScheduled_of_task_none htask, isTimerScheduled_of_task_none (h.task.trans htask)]
  | some i =>
    obtain ⟨e, c, he, hjob⟩ := ht.tasks k i htask
    rw [isTimerScheduled_of_task (h.task.trans htask) (h.entries i e he (by rw [hjob]; rfl)),
      isTimerScheduled_of_task htask he]

/-- Others begin no attempt of the timer, and are over with none. -/
theorem growth_of_others (mark : Floor → Nat) (ha : a ≠ .shutdown) (hothers : s.Others k a) : s.growth mark k a = 0 := by
  cases a with
  | time a =>
    cases a with
    | wake i =>
      refine growth_wake mark fun e due he hdue => ?_
      have hown : s.isOwn k (.time (.wake i)) = false := by
        rw [isOwn, he, Option.any_some]
        exact beq_false_of_ne (hothers e he (Entry.isLive_of_due? hdue))
      rw [growth_time, hown, Floor.growth_false]
    | errand =>
      have hown : s.isOwn k (.time .errand) = false := by
        rw [isOwn]
        cases hhead : s.agenda.errands.head? with
        | none => rfl
        | some job => exact beq_false_of_ne (hothers job hhead)
      rw [growth_time, hown, Floor.growth_false]
    | clock | leap => rfl
  | shutdown => exact absurd rfl ha
  | deed | startAttempt | conclude => rfl

/-- Nor do they end one in any way. -/
theorem ended_of_others (hothers : s.Others k a) : s.ended k a = [] := by
  cases a with
  | time a =>
    cases a with
    | wake i =>
      rw [ended]
      cases he : (s.agenda.entries[i]?).filter fun e => e.due?.isSome with
      | none => rfl
      | some e =>
        obtain ⟨he, hsome⟩ := Option.filter_eq_some_iff.mp he
        obtain ⟨due, hdue⟩ := Option.isSome_iff_exists.mp hsome
        exact Floor.ended_of_ne (hothers e he (Entry.isLive_of_due? hdue)) s.floor s.now
    | errand =>
      rw [ended]
      cases hhead : s.agenda.errands.head? with
      | none => rfl
      | some job => exact Floor.ended_of_ne (hothers job hhead) s.floor s.now
    | clock | leap => rfl
  | deed | shutdown | startAttempt | conclude => rfl

/-- The part that an act has in the work of a timer. -/
inductive Turn (k : TimerId) (s : Station) : Act → Prop
  | check {i : EntryId} {e : Entry Job} {c : ConnectorId} : (s.timer k).task = some i →
      s.agenda.entries[i]? = some e → e.isLive → e.job = .check k c → Turn k s (.time (.wake i))
  | answer {i : EntryId} {e : Entry Job} {c : ConnectorId} {number : Nat} {attempt : Attempt} :
      s.agenda.entries[i]? = some e → e.isLive → e.job = .answer k c number attempt → Turn k s (.time (.wake i))
  | dial {c : ConnectorId} {number : Nat} {rest : List Job} : s.agenda.errands = .dial k c number :: rest →
      Turn k s (.time .errand)
  | apart {a : Act} : s.Others k a → Turn k s a

theorem turn_act (ht : s.IsTended) (k : TimerId) (a : Act) : Turn k s a := by
  cases a with
  | time a =>
    cases a with
    | wake i =>
      by_cases hown : ∃ e, s.agenda.entries[i]? = some e ∧ e.isLive ∧ e.job.timer? = some k
      · obtain ⟨e, he, hlive, hk⟩ := hown
        rcases Job.check_or_answer (ht.entries i e he).begun hk with ⟨c, hjob⟩ | ⟨c, number, attempt, hjob⟩
        · exact .check (ht.checks i e k c he hjob hlive) he hlive hjob
        · exact .answer he hlive hjob
      · exact .apart fun e he hlive hk => hown ⟨e, he, hlive, hk⟩
    | errand =>
      by_cases hown : ∃ job, s.agenda.errands.head? = some job ∧ job.timer? = some k
      · obtain ⟨job, hhead, hk⟩ := hown
        obtain ⟨rest, hjobs⟩ := List.head?_eq_some_iff.mp hhead
        obtain ⟨⟨k', c, number, rfl⟩, -⟩ := ht.errands job (by rw [hjobs]; exact List.mem_cons_self)
        obtain rfl := Option.some.inj hk
        exact .dial hjobs
      · exact .apart fun job hhead hk => hown ⟨job, hhead, hk⟩
    | clock | leap => exact .apart trivial
  | deed | shutdown | startAttempt | conclude => exact .apart trivial

/-! ## Timers at rest -/

/-- A timer without an attempt under way, and without a task that could call for one. -/
structure Resting (k : TimerId) (s : Station) : Prop where
  inFlight : (s.timer k).inFlight = false
  task : ∀ i e, (s.timer k).task = some i → s.agenda.entries[i]? = some e → e.isLive = false

/-- An unfinished attempt shows on its timer. -/
theorem inFlight_of_unfinished (hf : Flight k n m s.agenda s.floor) {i : EntryId} {e : Entry Job}
    (he : s.agenda.entries[i]? = some e) (hlive : e.isLive) (hanswers : e.job.answers k = true) :
    (s.timer k).inFlight = true := by
  have hpos : 0 < s.agenda.unfinished k :=
    Array.countP_pos_iff.mpr ⟨e, Array.mem_of_getElem? he, Bool.and_eq_true_iff.mpr ⟨hlive, hanswers⟩⟩
  have hcount : s.agenda.unfinished k + s.agenda.called k = (s.timer k).inFlight.toNat := hf.inFlight
  refine (Bool.not_eq_false _).mp fun hfree => ?_
  rw [hfree] at hcount
  exact absurd (Nat.add_eq_zero_iff.mp hcount).1 (Nat.ne_of_gt hpos)

/-- So does one that was called for. -/
theorem inFlight_of_dial (hf : Flight k n m s.agenda s.floor) {c : ConnectorId} {number : Nat}
    (hmem : .dial k c number ∈ s.agenda.errands) : (s.timer k).inFlight = true := by
  have hpos : 0 < s.agenda.called k := List.countP_pos_iff.mpr ⟨_, hmem, beq_self_eq_true k⟩
  have hcount : s.agenda.unfinished k + s.agenda.called k = (s.timer k).inFlight.toNat := hf.inFlight
  refine (Bool.not_eq_false _).mp fun hfree => ?_
  rw [hfree] at hcount
  exact absurd (Nat.add_eq_zero_iff.mp hcount).2 (Nat.ne_of_gt hpos)

/-- A timer that rests goes on to rest, and does nothing. -/
theorem resting_act (ht : s.IsTended) (hf : Flight k n m s.agenda s.floor) (ha : a.spares k) (h : Resting k s) :
    Resting k (s.act a) ∧ s.Others k a := by
  cases turn_act ht k a with
  | check htask he hlive => exact absurd hlive (Bool.eq_false_iff.mp (h.task _ _ htask he))
  | answer he hlive hjob =>
    have hflight := inFlight_of_unfinished hf he hlive (by rw [hjob, Job.answers, beq_self_eq_true])
    cases h.inFlight.symm.trans hflight
  | dial herrands =>
    have hflight := inFlight_of_dial hf (by rw [herrands]; exact List.mem_cons_self)
    cases h.inFlight.symm.trans hflight
  | apart hothers =>
    have hspared : Spared k s (s.act a) := spared_act ht ha hothers
    refine ⟨⟨hspared.inFlight.trans h.inFlight, fun i e' htask he' => ?_⟩, hothers⟩
    have hbefore : (s.timer k).task = some i := hspared.task.symm.trans htask
    obtain ⟨e, c, he, hjob⟩ := ht.tasks k i hbefore
    obtain rfl := Option.some.inj ((hspared.entries i e he (by rw [hjob]; rfl)).symm.trans he')
    exact h.task i e hbefore he

end Station

end Liveness
