import Liveness.Proofs.Station.Launches
import Liveness.Proofs.Station.Tracks

/-!
# The states of a timer

A timer is at work while it has a task that was not cancelled.  Only a start takes it
there (`Station.turns_act`), so at every moment its task recurs as it was started and
the timer is switched on (`Station.Poised`).  Work ends by a stop, by switching off, with
the last handle, by a check that finds the connector connected, or by a shutdown; from
there on to the next start the timer begins no attempt (`Station.Dormant`), even while an
attempt goes on that began before.
-/

namespace Liveness

/-- A timer later on that was not started in between. -/
structure Timer.Turns (t t' : Timer) : Prop where
  task : t'.task = none ∨ t'.task = t.task ∧ (t.isAutoConnect = true → t'.isAutoConnect = true)
  frozen : t'.frozen = true → t.frozen = true ∧ t'.settings = t.settings

theorem Timer.Turns.refl (t : Timer) : t.Turns t := ⟨.inr ⟨rfl, id⟩, fun h => ⟨h, rfl⟩⟩

theorem Timer.Left.turns {t t' : Timer} (h : t.Left t') : t.Turns t' where
  task := by
    rcases h.task with htask | hnone
    · exact .inr ⟨htask, fun hauto => h.isAutoConnect.trans hauto⟩
    · exact .inl hnone
  frozen := fun hfrozen => ⟨h.frozen.symm.trans hfrozen, h.settings⟩

namespace Station

variable {s : Station} {k : TimerId} {a : Act} {n m : Nat} {upset upset' : EntryId → Prop}

/-! ## Starts -/

/-- Whether an act starts a timer. -/
def startsTimer (s : Station) (k : TimerId) : Act → Bool
  | .deed (.startTimer k' c) => k' == k && decide (c < s.floor.connectors.size) && (s.startTimer k c).1
  | _ => false

/-- Whether a timer is started in a list of acts. -/
def restarts (k : TimerId) : Station → List Act → Bool
  | _, [] => false
  | s, a :: as => s.startsTimer k a || restarts k (s.act a) as

/-- Whether an act is a deed of a timer. -/
def Act.isOf (k : TimerId) : Act → Bool
  | .deed d => d.timer? == some k
  | _ => false

/-- Whether the deeds of a timer are done by those who hold it. -/
def inHand (k : TimerId) : Station → List Act → Bool
  | _, [] => true
  | s, a :: as => (!a.isOf k || decide (0 < (s.timer k).handles)) && inHand k (s.act a) as

theorem turns_perform {d : Deed} (hstart : s.startsTimer k (.deed d) = false) :
    (s.timer k).Turns ((s.perform d).timer k) := by
  by_cases hd : d.timer? = some k
  · have hmakes := makes_perform (s := s) hd
    generalize (s.perform d).timer k = t at hmakes ⊢
    cases hmakes with
    | same => exact .refl _
    | start hc hfst =>
      rw [startsTimer, beq_self_eq_true, hfst, decide_eq_true hc] at hstart
      cases hstart
    | stop => exact ⟨.inl rfl, fun hfrozen => ⟨hfrozen, rfl⟩⟩
    | off hthaw => exact ⟨.inl rfl, fun hfrozen => absurd (hthaw.symm.trans hfrozen) Bool.false_ne_true⟩
    | on hthaw =>
      refine ⟨.inr ⟨rfl, fun _ => ?_⟩, fun hfrozen => absurd (hthaw.symm.trans hfrozen) Bool.false_ne_true⟩
      rw [Timer.isAutoConnect, hthaw]
      rfl
    | pace period hthaw =>
      exact ⟨.inr ⟨rfl, id⟩, fun hfrozen => absurd (hthaw.symm.trans hfrozen) Bool.false_ne_true⟩
    | hold => exact ⟨.inr ⟨rfl, id⟩, fun hfrozen => ⟨hfrozen, rfl⟩⟩
    | drop =>
      refine ⟨?_, fun hfrozen => ⟨hfrozen, rfl⟩⟩
      dsimp only
      split
      · exact .inl rfl
      · exact .inr ⟨rfl, id⟩
  · rcases timer_perform_of_ne hd with heq | ⟨hk, hnew | ⟨settings, hnew⟩⟩
    · rw [heq]
      exact .refl _
    · rw [hnew, timer_of_size (Nat.le_of_eq hk.symm)]
      exact .refl _
    · rw [hnew, timer_of_size (Nat.le_of_eq hk.symm)]
      exact ⟨.inl rfl, fun hfrozen => absurd hfrozen Bool.false_ne_true⟩

/-- Only a start takes a timer to work. -/
theorem turns_act (hstart : s.startsTimer k a = false) : (s.timer k).Turns ((s.act a).timer k) := by
  by_cases hdeed : ∃ d, a = .deed d
  · obtain ⟨d, rfl⟩ := hdeed
    exact turns_perform hstart
  · exact (left_act (not_exists.mp hdeed) k).turns

theorem act_of_startsTimer (hstart : s.startsTimer k a = true) :
    ∃ c, c < s.floor.connectors.size ∧ (s.startTimer k c).1 = true ∧ s.act a = (s.startTimer k c).2 := by
  cases a with
  | deed d =>
    cases d with
    | startTimer k' c =>
      simp only [startsTimer, Bool.and_eq_true, beq_iff_eq, decide_eq_true_eq] at hstart
      obtain ⟨⟨rfl, hc⟩, hfst⟩ := hstart
      exact ⟨c, hc, hfst, by simp only [act, perform, if_pos hc]⟩
    | _ => cases hstart
  | time | shutdown | startAttempt | conclude => cases hstart

/-! ## Timers at work -/

/-- A timer that is at work later on was at work before. -/
theorem isTimerScheduled_of_later (s' : Station) (ht : s.IsTended)
    (hlater : ∀ (i : EntryId) (e : Entry Job), s.agenda.entries[i]? = some e →
      ∃ e', s'.agenda.entries[i]? = some e' ∧ e.Later e')
    (htask : (s'.timer k).task = (s.timer k).task ∨ (s'.timer k).task = none)
    (h : s'.isTimerScheduled k = true) : s.isTimerScheduled k = true := by
  refine isScheduled_of_later s' (fun i hi => ?_) hlater htask h
  obtain ⟨e, c, he, -⟩ := ht.tasks k i hi
  exact ⟨e, he⟩

theorem isTimerScheduled_of_act (ht : s.IsTended) (hstart : s.startsTimer k a = false)
    (h : (s.act a).isTimerScheduled k = true) : s.isTimerScheduled k = true := by
  refine isTimerScheduled_of_later _ ht (fun i e he => later_act he a) ?_ h
  rcases (turns_act hstart).task with hnone | ⟨htask, -⟩
  · exact .inr hnone
  · exact .inl htask

/-- Whether a check of a timer asks its connector in an act, and this panics. -/
def Upsets (k : TimerId) (i : EntryId) (s : Station) (a : Act) : Prop :=
  a = .time (.wake i) ∧ ∃ x ∈ s.runs i, ∃ (e : Entry Job) (c : ConnectorId), x.1.agenda.entries[i]? = some e ∧
    e.isLive ∧ e.job = .check k c ∧ (x.1.timer k).inFlight = false ∧ x.1.floor.reply c = none

/-- Whether one does in a list of acts. -/
def Upset (k : TimerId) (i : EntryId) : Station → List Act → Prop
  | _, [] => False
  | s, a :: as => Upsets k i s a ∨ Upset k i (s.act a) as

/-- Without that no check panics. -/
theorem calm_of_not_upsets (ht : s.IsTended) {i : EntryId} {e : Entry Job} {c : ConnectorId}
    (he : s.agenda.entries[i]? = some e) (hjob : e.job = .check k c) (hcalm : ¬Upsets k i s (.time (.wake i))) :
    Calm i (s.runs i) := by
  intro x hx e' he' hlive
  obtain ⟨dues, hx'⟩ := mem_runs hx
  obtain ⟨e'', he'', hsame⟩ := job_of_mem_runsOf hx' he
  obtain rfl := Option.some.inj (he'.symm.trans he'')
  have hcheck : e'.job = .check k c := hsame.trans hjob
  have hable : x.1.floor.Able e'.job := ((tended_of_mem_runsOf ht hx').entries i e' he').able
  rw [hcheck] at hable ⊢
  change (x.1.floor.check x.1.now k c).2.panicked = false
  rcases Floor.check_cases hable.1 hable.2 x.1.now with
    ⟨-, heq⟩ | ⟨hfree, hnone, -⟩ | ⟨-, -, ⟨-, heq⟩ | ⟨task, -, heq⟩⟩ | ⟨-, -, heq⟩
  · rw [heq]
  · exact absurd ⟨rfl, x, hx, e', c, he', hlive, hcheck, hfree, hnone⟩ hcalm
  · rw [heq]
  · rw [heq]
  · rw [heq]

/-- What is true of a timer at every moment; some of its tasks may have been upset. -/
structure Poised (k : TimerId) (upset : EntryId → Prop) (s : Station) : Prop where
  auto : s.isTimerScheduled k = true → (s.timer k).isAutoConnect = true
  frozen : (s.timer k).frozen = true → (s.timer k).settings = .disabled ∧ (s.timer k).task = none
  task : ∀ i, (s.timer k).task = some i → ∃ c p e, s.agenda.entries[i]? = some e ∧ 0 < p.nanos ∧
    e.Tracks (.check k c) p (upset i) s.now

/-- A start takes on a task that lasts. -/
theorem poised_startTimer {c : ConnectorId} (hstart : (s.startTimer k c).1 = true) :
    Poised k upset (s.startTimer k c).2 := by
  obtain ⟨htimer, hagenda⟩ := startTimer_of_fst hstart
  obtain ⟨hauto, -, -⟩ := (startTimer_fst s k c).mp hstart
  have hthaw : (s.timer k).frozen = false := by
    rw [Timer.isAutoConnect, Bool.and_eq_true, Bool.not_eq_true'] at hauto
    exact hauto.1
  obtain ⟨e, he, hfresh⟩ :=
    fresh_every s "reconnect" (.check k c) (s.timer k).settings.initialDelay (s.timer k).settings.period
  refine ⟨fun _ => ?_, fun hfrozen => ?_, fun i hi => ?_⟩
  · rw [htimer]
    exact hauto
  · rw [htimer] at hfrozen
    exact absurd (hthaw.symm.trans hfrozen) Bool.false_ne_true
  · rw [htimer] at hi
    obtain rfl := Option.some.inj hi
    have hdelay : (s.timer k).settings.initialDelay.nanos ≤ (s.timer k).settings.period.asPeriod.nanos := by
      unfold ReconnectSettings.initialDelay Span.asPeriod
      split
      · exact Nat.zero_le _
      · split
        · rw [Span.nanos_ofMillis]
          omega
        · exact Nat.le_refl _
    refine ⟨c, (s.timer k).settings.period.asPeriod, e, hagenda ▸ he,
      Nat.lt_of_lt_of_le (by decide) (Span.asPeriod_ge _), ?_⟩
    have hnow : (s.startTimer k c).2.now = s.now := by
      rw [now, hagenda]
      exact now_every s _ _ _ _
    rw [hnow]
    exact hfresh.tracks hdelay (upset (s.takeTimer k c).1)

theorem poised_act (hmay : s.May a) (ht : s.IsTended) (h : Poised k upset s)
    (hupset : ∀ i, upset i ∨ Upsets k i s a → upset' i) : Poised k upset' (s.act a) := by
  cases hstart : s.startsTimer k a with
  | true =>
    obtain ⟨c, -, hfst, hact⟩ := act_of_startsTimer hstart
    rw [hact]
    exact poised_startTimer hfst
  | false =>
    have hturns := turns_act hstart
    refine ⟨fun hscheduled => ?_, fun hfrozen => ?_, fun i hi => ?_⟩
    · rcases hturns.task with hnone | ⟨-, hauto⟩
      · rw [isTimerScheduled, hnone] at hscheduled
        cases hscheduled
      · exact hauto (h.auto (isTimerScheduled_of_act ht hstart hscheduled))
    · obtain ⟨hfrozen₀, hsettings⟩ := hturns.frozen hfrozen
      obtain ⟨hdisabled, hidle⟩ := h.frozen hfrozen₀
      refine ⟨hsettings.trans hdisabled, ?_⟩
      rcases hturns.task with hnone | ⟨htask, -⟩
      · exact hnone
      · exact htask.trans hidle
    · rcases hturns.task with hnone | ⟨htask, -⟩
      · cases hnone.symm.trans hi
      · obtain ⟨c, p, e, he, hp, htracks⟩ := h.task i (htask.symm.trans hi)
        have hcalm : ¬upset' i → a = .time (.wake i) → Calm i (s.runs i) := by
          rintro hnot rfl
          exact calm_of_not_upsets ht he htracks.job fun hups => hnot (hupset i (.inr hups))
        obtain ⟨e', he', htracks'⟩ := tracks_act hmay he hp hcalm htracks fun hups => hupset i (.inl hups)
        exact ⟨c, p, e', he', hp, htracks'⟩

theorem poised_opened (settings : SweepSettings) (walk : Walk) (k : TimerId) (upset : EntryId → Prop) :
    Poised k upset (opened settings walk) where
  auto := nofun
  frozen := fun _ => ⟨rfl, rfl⟩
  task := nofun

/-! ## Timers that no one holds -/

/-- Only a drop takes a handle away. -/
theorem handles_perform {d : Deed} (hdrop : d ≠ .dropTimer k) :
    (s.timer k).handles ≤ ((s.perform d).timer k).handles := by
  by_cases hd : d.timer? = some k
  · have hmakes := makes_perform (s := s) hd
    generalize (s.perform d).timer k = t at hmakes ⊢
    cases hmakes with
    | drop => exact absurd rfl hdrop
    | hold hle => exact hle
    | same | start | stop | off | on | pace => exact Nat.le_refl _
  · rcases timer_perform_of_ne hd with heq | ⟨hk, hnew⟩
    · exact Nat.le_of_eq (congrArg Timer.handles heq).symm
    · have hold : (s.timer k).handles = 1 := congrArg Timer.handles (timer_of_size (Nat.le_of_eq hk.symm))
      rcases hnew with hnew | ⟨settings, hnew⟩
      · exact Nat.le_of_eq (hold.trans (congrArg Timer.handles hnew).symm)
      · exact Nat.le_of_eq (hold.trans (congrArg Timer.handles hnew).symm)

/-- If the deeds of a timer are done by those who hold it, it stays tidy. -/
theorem tidy_act (hheld : a.isOf k = true → 0 < (s.timer k).handles) (h : (s.timer k).IsTidy) :
    ((s.act a).timer k).IsTidy := by
  by_cases hdeed : ∃ d, a = .deed d
  · obtain ⟨d, rfl⟩ := hdeed
    change ((s.perform d).timer k).IsTidy
    by_cases hdrop : d = .dropTimer k
    · subst hdrop
      obtain ⟨n, -, heq⟩ := timer_dropTimer s k
      simp only [perform, heq]
      rintro rfl hflight
      change (s.timer k).inFlight = false at hflight
      simp [hflight]
    · by_cases hd : d.timer? = some k
      · have hpos : 0 < ((s.perform d).timer k).handles :=
          Nat.lt_of_lt_of_le (hheld (beq_iff_eq.mpr hd)) (handles_perform hdrop)
        exact fun hnone => absurd hnone (Nat.ne_of_gt hpos)
      · rcases timer_perform_of_ne hd with heq | ⟨-, hnew | ⟨settings, hnew⟩⟩
        · rwa [heq]
        · rw [hnew]
          exact Timer.isTidy_of_task rfl
        · rw [hnew]
          exact Timer.isTidy_of_task rfl
  · exact (left_act (not_exists.mp hdeed) k).tidy h

/-- A timer that no one holds stays so, if no one does its deeds. -/
theorem handles_act (hfree : a.isOf k = false) (h : (s.timer k).handles = 0) : ((s.act a).timer k).handles = 0 := by
  by_cases hdeed : ∃ d, a = .deed d
  · obtain ⟨d, rfl⟩ := hdeed
    have hd : d.timer? ≠ some k := fun heq => Bool.eq_false_iff.mp hfree (beq_iff_eq.mpr heq)
    rcases timer_perform_of_ne hd with heq | ⟨hk, -⟩
    · exact (congrArg Timer.handles heq).trans h
    · rw [timer_of_size (Nat.le_of_eq hk.symm)] at h
      cases h
  · exact (left_act (not_exists.mp hdeed) k).handles.trans h

/-! ## Timers that are not at work -/

/-- A timer that begins no attempt: it is not at work, or no one holds it and it is about to end. -/
structure Dormant (k : TimerId) (s : Station) : Prop where
  called : s.agenda.called k = 0
  idle : s.isTimerScheduled k = false ∨ (s.timer k).handles = 0 ∧ (s.timer k).IsTidy

/-- A timer that begins no attempt asks for none. -/
theorem errands_of_dormant (ht : s.IsTended) (h : Dormant k s) {i : EntryId} {e : Entry Job}
    (he : s.agenda.entries[i]? = some e) (hlive : e.isLive) (runs : List Run) :
    (Floor.run e.job runs s.now s.floor).2.errands.countP (Job.dials k) = 0 := by
  refine List.countP_eq_zero.mpr fun job hjob hdials => ?_
  obtain ⟨k', c, number, hcheck, rfl⟩ := Floor.errands_run hjob
  obtain rfl : k' = k := beq_iff_eq.mp hdials
  have htask : (s.floor.timer k').task = some i := ht.checks i e k' c he hcheck hlive
  rcases h.idle with hidle | ⟨hhandles, htidy⟩
  · rw [isTimerScheduled_of_task htask he, (Entry.isLive_iff.mp hlive).1] at hidle
    cases hidle
  · -- its task is still there, so an attempt is under way and the check does nothing
    have hflight : (s.floor.timer k').inFlight = true := by
      refine (Bool.not_eq_false _).mp fun hflight => ?_
      cases htask.symm.trans (htidy hhandles hflight)
    have hable : s.floor.Able e.job := (ht.entries i e he).able
    rw [hcheck] at hable hjob
    rcases Floor.check_cases hable.1 hable.2 s.now with ⟨-, heq⟩ | ⟨hfree, -⟩ | ⟨hfree, -⟩ | ⟨hfree, -⟩
    · rw [Floor.run, heq] at hjob
      cases hjob
    · cases hfree.symm.trans hflight
    · cases hfree.symm.trans hflight
    · cases hfree.symm.trans hflight

theorem dormant_runOnce (ht : s.IsTended) (h : Dormant k s) (i : EntryId) (due : Int) :
    Dormant k (s.runOnce i due) := by
  have hleft : (s.timer k).Left ((s.runOnce i due).timer k) :=
    (Timeline.leaves_runOnce s.timeline i due).left k
  refine ⟨?_, ?_⟩
  · refine Timeline.runOnce_cases Floor.worker (t := s.timeline) (P := fun t => t.agenda.called k = 0) due h.called
      fun e he hlive => ?_
    rw [Agenda.called, Agenda.errands_fulfil, List.countP_append]
    exact Nat.add_eq_zero_iff.mpr ⟨h.called, errands_of_dormant ht h he hlive e.runs⟩
  · rcases h.idle with hidle | ⟨hhandles, htidy⟩
    · refine .inl (Bool.eq_false_iff.mpr fun hscheduled => Bool.eq_false_iff.mp hidle ?_)
      exact isTimerScheduled_of_later (s.runOnce i due) ht
        (Timeline.goes_runOnce Floor.orderly_worker s.timeline i due).old hleft.task hscheduled
    · exact .inr ⟨hleft.handles.trans hhandles, hleft.tidy htidy⟩

/-- What every run keeps and its new stage as well is kept when work wakes up. -/
theorem wake_induct {P : Station → Prop} {i : EntryId} (hrun : ∀ s due, P s → P (s.runOnce i due))
    (hstage : ∀ s : Station, ∀ stage, P s → P { s with agenda := s.agenda.modify i (·.restage stage) }) (h : P s) :
    P (s.act (.time (.wake i))) :=
  Timeline.wake_induction Floor.worker (t := s.timeline) (P := fun t => P ⟨t.agenda, t.host, s.sweeper⟩)
    (fun t due => hrun ⟨t.agenda, t.host, s.sweeper⟩ due) (fun t stage => hstage ⟨t.agenda, t.host, s.sweeper⟩ stage) h

theorem dormant_restage (ht : s.IsTended) (h : Dormant k s) (i : EntryId) (stage : Stage) :
    Dormant k { s with agenda := s.agenda.modify i (·.restage stage) } where
  called := h.called
  idle := by
    refine h.idle.imp (fun hidle => Bool.eq_false_iff.mpr fun hscheduled => Bool.eq_false_iff.mp hidle ?_) id
    refine isTimerScheduled_of_later { s with agenda := s.agenda.modify i (·.restage stage) } ht
      (fun j e he => ?_) (.inl rfl) hscheduled
    obtain ⟨e', he', hlater, -⟩ := (Agenda.ages_modify (P := fun _ => True) s.agenda i (g := (·.restage stage))
      (fun _ => ⟨rfl, rfl, rfl, id⟩) fun _ => Entry.isLive_of_restage).old j e he
    exact ⟨e', he', hlater⟩

theorem dormant_wake (ht : s.IsTended) (h : Dormant k s) (i : EntryId) : Dormant k (s.act (.time (.wake i))) := by
  refine (wake_induct (P := fun s => s.IsTended ∧ Dormant k s) ?_ ?_ ⟨ht, h⟩).2
  · exact fun s due hs => ⟨tended_runOnce hs.1 i due, dormant_runOnce hs.1 hs.2 i due⟩
  · exact fun s stage hs => ⟨Tended.modify hs.1 i (fun _ => ⟨rfl, rfl, rfl, id⟩) fun _ => Entry.isLive_of_restage,
      dormant_restage hs.1 hs.2 i stage⟩

/-- A timer that begins no attempt does not call for one in any act. -/
theorem called_act (hmay : s.May a) (ht : s.IsTended) (h : Dormant k s) : (s.act a).agenda.called k = 0 := by
  cases a with
  | deed d => exact (congrArg (List.countP (Job.dials k)) (grows_perform s d).errands).trans h.called
  | time a =>
    cases a with
    | wake i => exact (dormant_wake ht h i).called
    | errand =>
      change (Timeline.beginNext Floor.worker s.timeline).agenda.called k = 0
      have hcalled : s.agenda.errands.countP (Job.dials k) = 0 := h.called
      unfold Timeline.beginNext
      split
      · exact hcalled
      · rename_i job rest hjobs
        rw [show s.timeline.agenda.errands = s.agenda.errands from rfl] at hjobs
        rw [hjobs, List.countP_cons] at hcalled
        obtain ⟨⟨k', c, number, rfl⟩, -⟩ := ht.errands job (by rw [hjobs]; exact List.mem_cons_self)
        have hnone : (Floor.run (.dial k' c number) [] s.now s.floor).2.errands = [] := by
          refine List.eq_nil_iff_forall_not_mem.mpr fun job hjob => ?_
          obtain ⟨k'', c', number', hcheck, -⟩ := Floor.errands_run hjob
          cases hcheck
        change Agenda.called (Agenda.fulfil _ (Floor.run (.dial k' c number) [] s.now s.floor).2) k = 0
        rw [Agenda.called, Agenda.errands_fulfil, hnone, List.append_nil]
        exact (Nat.add_eq_zero_iff.mp hcalled).1
    | clock | leap => exact h.called
  | shutdown | startAttempt | conclude => exact h.called

/-- An attempt that was not called for does not begin. -/
theorem growth_of_called (hmay : s.May a) (ht : s.IsTended) (hf : Flight k n m s.agenda s.floor)
    (hcalled : s.agenda.called k = 0) : s.growth Floor.calls k a = 0 := by
  by_cases hdown : a = .shutdown
  · subst hdown
    exact (Timeline.dropped_shutdown (t := s.timeline) ht k).1
  cases turn_act ht k a with
  | check htask he hlive hjob => exact growth_check ht he hjob
  | answer he hlive hjob => exact growth_answer ht hf he hjob
  | dial herrands =>
    rw [Agenda.called, herrands, List.countP_cons] at hcalled
    simp [Job.dials] at hcalled
  | apart hothers => exact growth_of_others Floor.calls hdown hothers

/-- As long as it is not started a timer begins no attempt. -/
theorem dormant_act (hmay : s.May a) (ht : s.IsTended) (hheld : a.isOf k = true → 0 < (s.timer k).handles)
    (hstart : s.startsTimer k a = false) (h : Dormant k s) : Dormant k (s.act a) := by
  refine ⟨called_act hmay ht h, ?_⟩
  rcases h.idle with hidle | ⟨hhandles, htidy⟩
  · exact .inl (Bool.eq_false_iff.mpr fun hscheduled =>
      Bool.eq_false_iff.mp hidle (isTimerScheduled_of_act ht hstart hscheduled))
  · have hfree : a.isOf k = false :=
      Bool.eq_false_iff.mpr fun hof => absurd hhandles (Nat.ne_of_gt (hheld hof))
    exact .inr ⟨handles_act hfree hhandles, tidy_act hheld htidy⟩

theorem dormant_play {acts : List Act} (hacts : s.InTurn acts) (ht : s.IsTended) (hheld : inHand k s acts = true)
    (hstart : restarts k s acts = false) (hf : Flight k n m s.agenda s.floor) (h : Dormant k s) :
    Dormant k (s.play acts) ∧ grown Floor.calls k s acts = 0 := by
  induction acts generalizing s n m with
  | nil => exact ⟨h, rfl⟩
  | cons a as ih =>
    obtain ⟨hmay, hacts⟩ := hacts
    rw [inHand, Bool.and_eq_true, Bool.or_eq_true, Bool.not_eq_true', decide_eq_true_eq] at hheld
    rw [restarts, Bool.or_eq_false_iff] at hstart
    have h' := dormant_act hmay ht
      (fun hof => hheld.1.resolve_left fun hfree => Bool.false_ne_true (hfree.symm.trans hof)) hstart.1 h
    obtain ⟨hend, hnone⟩ := ih hacts (tended_act hmay ht) hheld.2 hstart.2 (flight_act hmay ht hf).1 h'
    refine ⟨hend, ?_⟩
    rw [grown, growth_of_called hmay ht hf h.called, hnone]

/-! ## The end of work -/

/-- What ends the work of a timer: a stop, switching off, the drop of the last handle, a shutdown, or a check that
finds the connector connected. -/
inductive Ends (s : Station) (k : TimerId) : Act → Prop
  | stop : Ends s k (.deed (.stopTimer k))
  | off : Ends s k (.deed (.setAutoConnect k false))
  | drop : (s.timer k).handles = 1 → Ends s k (.deed (.dropTimer k))
  | shutdown : Ends s k .shutdown
  | satisfied {i : EntryId} {x : Station × Station} {e : Entry Job} {c : ConnectorId} : x ∈ s.runs i →
      x.1.agenda.entries[i]? = some e → e.isLive → e.job = .check k c → (x.1.timer k).inFlight = false →
      x.1.floor.reply c = some true → Ends s k (.time (.wake i))

theorem flight_of_mem_runsOf {i : EntryId} {e : Entry Job} {dues : List Int} {x : Station × Station}
    (hx : x ∈ s.runsOf i dues) (h : Flight k n m s.agenda s.floor) (ht : s.IsTended)
    (he : s.agenda.entries[i]? = some e) (hanswer : ∀ k c number attempt, e.job ≠ .answer k c number attempt) :
    Flight k n m x.1.agenda x.1.floor := by
  induction dues generalizing s e with
  | nil => cases hx
  | cons due dues ih =>
    rcases List.mem_cons.mp hx with rfl | hx
    · exact h
    · obtain ⟨e', he', hlater⟩ := (Timeline.goes_runOnce Floor.orderly_worker s.timeline i due).old i e he
      exact ih hx (Timeline.flight_runOnce (t := s.timeline) h ht he hanswer due) (tended_runOnce ht i due) he'
        (hlater.job ▸ hanswer)

/-- A timer that begins no attempt after some run begins none after the later ones. -/
theorem dormant_of_mem_runsOf {i : EntryId} {dues : List Int} {x : Station × Station} (hx : x ∈ s.runsOf i dues)
    (ht : s.IsTended) (h : Dormant k x.2) : Dormant k (dues.foldl (fun s due => s.runOnce i due) s) := by
  have hlater : ∀ (dues : List Int) (s : Station), s.IsTended → Dormant k s →
      Dormant k (dues.foldl (fun s due => s.runOnce i due) s) := by
    intro dues
    induction dues with
    | nil => exact fun s _ hs => hs
    | cons due dues ih => exact fun s ht hs => ih _ (tended_runOnce ht i due) (dormant_runOnce ht hs i due)
  induction dues generalizing s with
  | nil => cases hx
  | cons due dues ih =>
    rcases List.mem_cons.mp hx with rfl | hx
    · exact hlater dues _ (tended_runOnce ht i due) h
    · exact ih hx (tended_runOnce ht i due)

theorem tended_runs (ht : s.IsTended) (i : EntryId) (dues : List Int) :
    (dues.foldl (fun s due => s.runOnce i due) s).IsTended := by
  induction dues generalizing s with
  | nil => exact ht
  | cons due dues ih => exact ih (tended_runOnce ht i due)

theorem dormant_of_satisfied {i : EntryId} {x : Station × Station} {e : Entry Job} {c : ConnectorId} (ht : s.IsTended)
    (h : Flight k n m s.agenda s.floor) (hx : x ∈ s.runs i) (he : x.1.agenda.entries[i]? = some e) (hlive : e.isLive)
    (hjob : e.job = .check k c) (hfree : (x.1.timer k).inFlight = false) (hup : x.1.floor.reply c = some true) :
    Dormant k (s.act (.time (.wake i))) := by
  have hchecks : Checks k c x.1 x.2 := checks_of_mem_runs ht hx he hlive hjob
  unfold runs at hx
  split at hx
  · cases hx
  · rename_i e₀ he₀
    split at hx
    · cases hx
    · rename_i due hdue
      obtain ⟨e', he', hsame⟩ := job_of_mem_runsOf hx he₀
      obtain rfl := Option.some.inj (he.symm.trans he')
      have hflight := flight_of_mem_runsOf hx h ht he₀ fun k' c' number attempt hanswer => by
        cases hjob.symm.trans (hsame.trans hanswer)
      have hcalled : x.2.agenda.called k = 0 := by
        have hcount := hflight.inFlight
        rw [show (x.1.floor.timer k).inFlight = false from hfree] at hcount
        have hdown : ¬((x.1.timer k).inFlight = false ∧ x.1.floor.reply c = some false) :=
          fun hdown => nomatch hdown.2.symm.trans hup
        rw [Agenda.called, hchecks.calls, if_neg hdown, List.append_nil]
        exact (Nat.add_eq_zero_iff.mp hcount).2
      have hruns := dormant_of_mem_runsOf hx ht ⟨hcalled, .inl (hchecks.unscheduled.mpr ⟨hfree, hup⟩)⟩
      rw [act_wake he₀ hdue]
      exact dormant_restage (tended_runs ht i _) hruns i _

theorem isTimerScheduled_shutdown (s : Station) (k : TimerId) : (s.act .shutdown).isTimerScheduled k = false := by
  have hstopped : ∀ i, (s.act .shutdown).agenda.isCancelled i = true := by
    intro i
    change ((s.agenda.stopped.entries[i]?).map (·.cancelled)).getD true = true
    cases he : s.agenda.stopped.entries[i]? with
    | none => rfl
    | some e =>
      rw [Agenda.stopped, Array.getElem?_map] at he
      obtain ⟨e₀, -, rfl⟩ := Option.map_eq_some_iff.mp he
      rfl
  unfold isTimerScheduled isScheduled
  cases ((s.act .shutdown).timer k).task with
  | none => rfl
  | some i => exact congrArg not (hstopped i)

/-- Whatever ends the work of a timer leaves it so that it begins no attempt. -/
theorem dormant_of_ends (hmay : s.May a) (ht : s.IsTended) (hflight : Flight k n m s.agenda s.floor)
    (hpoised : Poised k upset s) (h : s.Ends k a) : Dormant k (s.act a) := by
  have hperform : ∀ d, s.agenda.errands = [] → (s.perform d).agenda.called k = 0 := by
    intro d herrands
    rw [Agenda.called, (grows_perform s d).errands, herrands]
    rfl
  cases h with
  | stop => exact ⟨hperform _ hmay, .inl (isTimerScheduled_of_task_none (by simp only [act, perform, timer_stopTimer]))⟩
  | off =>
    refine ⟨hperform _ hmay, .inl (isTimerScheduled_of_task_none ?_)⟩
    simp only [act, perform, timer_setAutoConnect]
    split
    · rename_i hfrozen
      exact (hpoised.frozen hfrozen).2
    · rfl
  | drop hlast =>
    refine ⟨hperform _ hmay, ?_⟩
    obtain ⟨m, hm, heq⟩ := timer_dropTimer s k
    change ((s.act (.deed (.dropTimer k))).timer k) = _ at heq
    by_cases hk : k < s.floor.timers.size
    · obtain rfl : m = 0 := by rw [hm hk, hlast]
      refine .inr ⟨by rw [heq], ?_⟩
      rw [heq]
      intro _ hidle
      change (s.timer k).inFlight = false at hidle
      simp [hidle]
    · refine .inl (isTimerScheduled_of_task_none ?_)
      have hnone : (s.timer k).task = none := by
        rw [timer, Array.getElem?_eq_none (Nat.le_of_not_lt hk)]
        rfl
      rw [heq, hnone]
      exact ite_self none
  | shutdown =>
    refine ⟨?_, .inl (isTimerScheduled_shutdown s k)⟩
    change s.agenda.errands.countP (Job.dials k) = 0
    rw [show s.agenda.errands = [] from hmay]
    rfl
  | satisfied hx he hlive hjob hfree hup => exact dormant_of_satisfied ht hflight hx he hlive hjob hfree hup

/-! ## Runs -/

/-- A timer at some moment, some of whose tasks may have been upset. -/
structure TimerState (k : TimerId) (upset : EntryId → Prop) (s : Station) : Prop where
  alone : ∀ (i j : EntryId) (e e' : Entry Job) (c c' : ConnectorId), s.agenda.entries[i]? = some e →
    s.agenda.entries[j]? = some e' → e.job = .check k c → e'.job = .check k c' → e.isLive → e'.isLive → i = j
  live : ∀ (i : EntryId) (e : Entry Job) (c : ConnectorId), s.agenda.entries[i]? = some e → e.job = .check k c →
    e.isLive → s.isTimerScheduled k = true
  /-- A timer that is at work has a task, which has not ended unless the clock came to its end or it was upset. -/
  task : s.isTimerScheduled k = true → ∃ i e c p, (s.timer k).task = some i ∧ s.agenda.entries[i]? = some e ∧
    e.job = .check k c ∧ e.period = some p ∧
    (p.nanos ≤ wordMax → p.after s.now < Cadence.clockEnd → ¬upset i → e.isLive)
  auto : s.isTimerScheduled k = true → (s.timer k).isAutoConnect = true
  start : ∀ c, (s.startTimer k c).1 = true ↔ (s.timer k).frozen = false ∧ (s.timer k).settings.enabled = true ∧
    s.isTimerScheduled k = false ∧ s.agenda.isShutdown = false
  started : ∀ c, (s.startTimer k c).1 = true → (s.startTimer k c).2.isTimerScheduled k = true
  stop : (s.stopTimer k).1 = s.isTimerScheduled k
  stopped : (s.stopTimer k).2.isTimerScheduled k = false
  disabled : (s.timer k).frozen = true → (s.timer k).settings = .disabled ∧ (s.timer k).isAutoConnect = false ∧
    s.isTimerScheduled k = false ∧ (s.timer k).attempts = 0

theorem isTimerScheduled_startTimer {c : ConnectorId} (hstart : (s.startTimer k c).1 = true) :
    (s.startTimer k c).2.isTimerScheduled k = true := by
  obtain ⟨htimer, hagenda⟩ := startTimer_of_fst hstart
  obtain ⟨-, -, hup⟩ := (startTimer_fst s k c).mp hstart
  rw [isTimerScheduled, htimer, isScheduled, Option.any_some, hagenda, takeTimer, isCancelled_every_eq, hup]
  rfl

/-- A timer that was made without settings has not begun an attempt, after a number of them have begun. -/
def Unused (k : TimerId) (started : Nat) (s : Station) : Prop :=
  (s.timer k).frozen = true → started = 0 ∧ s.agenda.called k = 0

theorem unused_act (hmay : s.May a) (ht : s.IsTended) (hf : Flight k n m s.agenda s.floor)
    (hpoised : Poised k upset s) (h : Unused k n s) :
    Unused k (n + s.growth Floor.calls k a) (s.act a) := by
  intro hfrozen
  have hfrozen₀ : (s.timer k).frozen = true := by
    cases hstart : s.startsTimer k a with
    | true =>
      obtain ⟨c, -, hfst, hact⟩ := act_of_startsTimer hstart
      rw [hact, (startTimer_of_fst hfst).1] at hfrozen
      exact hfrozen
    | false => exact ((turns_act hstart).frozen hfrozen).1
  obtain ⟨rfl, hcalled⟩ := h hfrozen₀
  rw [growth_of_called hmay ht hf hcalled]
  exact ⟨rfl, called_act hmay ht ⟨hcalled, .inl (isTimerScheduled_of_task_none (hpoised.frozen hfrozen₀).2)⟩⟩

theorem timerState_of_poised (ht : s.IsTended) (hflight : Flight k n m s.agenda s.floor) (hpoised : Poised k upset s)
    (hunused : Unused k n s) : TimerState k upset s where
  alone := fun i j e e' c c' he he' hjob hjob' hlive hlive' =>
    Option.some.inj ((ht.checks i e k c he hjob hlive).symm.trans (ht.checks j e' k c' he' hjob' hlive'))
  live := fun i e c he hjob hlive => by
    rw [isTimerScheduled_of_task (ht.checks i e k c he hjob hlive) he, (Entry.isLive_iff.mp hlive).1]
    rfl
  task := fun hscheduled => by
    cases hi : (s.timer k).task with
    | none =>
      rw [isTimerScheduled_of_task_none hi] at hscheduled
      cases hscheduled
    | some i =>
      obtain ⟨c, p, e, he, -, htracks⟩ := hpoised.task i hi
      rw [isTimerScheduled_of_task hi he, Bool.not_eq_true'] at hscheduled
      exact ⟨i, e, c, p, rfl, he, htracks.job, htracks.period, htracks.lasts hscheduled⟩
  auto := hpoised.auto
  start := fun c => by
    rw [startTimer_fst, Timer.isAutoConnect, Bool.and_eq_true, Bool.not_eq_true', and_assoc]
  started := fun c => isTimerScheduled_startTimer
  stop := stopTimer_fst s k
  stopped := isTimerScheduled_of_task_none (congrArg Timer.task (timer_stopTimer s k))
  disabled := fun hf => by
    obtain ⟨rfl, hcalled⟩ := hunused hf
    obtain ⟨hsettings, hnone⟩ := hpoised.frozen hf
    refine ⟨hsettings, ?_, isTimerScheduled_of_task_none hnone, ?_⟩
    · rw [Timer.isAutoConnect, hf]
      rfl
    · exact hflight.attempts.trans (by rw [hcalled])

theorem poised_play {acts : List Act} (hacts : s.InTurn acts) (ht : s.IsTended) (hf : Flight k n m s.agenda s.floor)
    (h : Poised k upset s) (hunused : Unused k n s) :
    Poised k (fun i => upset i ∨ Upset k i s acts) (s.play acts) ∧
      Unused k (n + grown Floor.calls k s acts) (s.play acts) := by
  induction acts generalizing s n m upset with
  | nil =>
    refine ⟨⟨h.auto, h.frozen, fun i hi => ?_⟩, hunused⟩
    obtain ⟨c, p, e, he, hp, htracks⟩ := h.task i hi
    exact ⟨c, p, e, he, hp, htracks.job, htracks.period, fun hc hword hreach hnot =>
      htracks.lasts hc hword hreach fun hups => hnot (.inl hups)⟩
  | cons a as ih =>
    have h' : Poised k (fun i => upset i ∨ Upsets k i s a) (s.act a) := poised_act hacts.1 ht h fun _ => id
    obtain ⟨hend, hunused'⟩ := ih hacts.2 (tended_act hacts.1 ht) (flight_act hacts.1 ht hf).1 h'
      (unused_act hacts.1 ht hf h hunused)
    refine ⟨?_, by rwa [grown, ← Nat.add_assoc]⟩
    simp only [or_assoc] at hend
    exact hend

/-- The task that a start took on keeps to the settings that the timer had then. -/
theorem onGrid_startTimer {c : ConnectorId} (hstart : (s.startTimer k c).1 = true) {acts : List Act}
    (hacts : (s.startTimer k c).2.InTurn acts) :
    ∃ i e, ((s.startTimer k c).2.timer k).task = some i ∧
      ((s.startTimer k c).2.play acts).agenda.entries[i]? = some e ∧ e.job = .check k c ∧
      e.OnGrid (s.firstDue (s.timer k).settings.initialDelay) (s.timer k).settings.period.asPeriod := by
  obtain ⟨htimer, hagenda⟩ := startTimer_of_fst hstart
  obtain ⟨e, he, hfresh⟩ :=
    fresh_every s "reconnect" (.check k c) (s.timer k).settings.initialDelay (s.timer k).settings.period
  obtain ⟨e', he', hjob, hgrid⟩ := hfresh.play hacts (i := (s.takeTimer k c).1) (hagenda ▸ he)
  exact ⟨_, e', congrArg Timer.task htimer, he', hjob, hgrid⟩

/-- The states of a timer, at every moment of every run: it has one live task at most and is at work while it has
one, starts and stops as it should, and what it starts keeps to the settings of that moment.  From any end of its
work to the next start it begins no attempt, and it is only at work again if no one holds it and an attempt is
under way still. -/
theorem timer_states (settings : SweepSettings) (walk : Walk) (orders : List Order) (k : TimerId)
    (done todo : List Act) (hsplit : (opened settings walk).plan orders = done ++ todo) :
    let s := (opened settings walk).play done
    TimerState k (Upset k · (opened settings walk) done) s ∧
    (∀ c mid rest, todo = .deed (.startTimer k c) :: mid ++ rest → c < s.floor.connectors.size →
      (s.startTimer k c).1 = true →
        ∃ i e, ((s.startTimer k c).2.timer k).task = some i ∧
          ((s.startTimer k c).2.play mid).agenda.entries[i]? = some e ∧ e.job = .check k c ∧
          e.OnGrid (s.firstDue (s.timer k).settings.initialDelay) (s.timer k).settings.period.asPeriod) ∧
    (∀ mid rest, todo = .deed (.addTimer none) :: mid ++ rest → k = s.floor.timers.size →
      (((s.act (.deed (.addTimer none))).play mid).timer k).frozen = true) ∧
    ∀ a mid rest, todo = a :: mid ++ rest → s.Ends k a → inHand k (s.act a) mid = true →
      restarts k (s.act a) mid = false →
        grown Floor.calls k (s.act a) mid = 0 ∧
        (((s.act a).play mid).isTimerScheduled k = true →
          (((s.act a).play mid).timer k).handles = 0 ∧ (((s.act a).play mid).timer k).inFlight = true) := by
  intro s
  have hturn : (opened settings walk).InTurn (done ++ todo) :=
    hsplit ▸ inTurn_plan (rests_opened settings walk) orders
  obtain ⟨hdone, htodo⟩ := (inTurn_append _ done todo).mp hturn
  have hnew := tended_opened settings walk
  have ht : s.IsTended := tended_play hdone hnew
  have hbegun := flight_opened settings walk k
  have hflight := flight_play hdone hnew hbegun
  obtain ⟨hpoised, hunused⟩ :=
    poised_play hdone hnew hbegun (poised_opened settings walk k fun _ => False) fun _ => ⟨rfl, rfl⟩
  simp only [false_or] at hpoised
  refine ⟨timerState_of_poised ht hflight hpoised hunused, ?_, ?_, ?_⟩
  · rintro c mid rest rfl hc hstart
    have hmid := ((inTurn_append _ _ _).mp htodo.2).1
    rw [show s.act (.deed (.startTimer k c)) = (s.startTimer k c).2 from if_pos hc] at hmid
    exact onGrid_startTimer hstart hmid
  · rintro mid rest rfl rfl
    have hsize : s.floor.timers.size < (s.act (.deed (.addTimer none))).floor.timers.size := by
      simp only [act, perform, Array.size_push]
      exact Nat.lt_succ_self _
    rw [frozen_play hsize]
    simp only [act, perform, timer, Array.getElem?_push_size, Option.getD_some]
    rfl
  · rintro a mid rest rfl hends hheld hstart
    have hmid := ((inTurn_append _ _ _).mp htodo.2).1
    obtain ⟨hdormant, hnone⟩ := dormant_play hmid (tended_act htodo.1 ht) hheld hstart
      (flight_act htodo.1 ht hflight).1 (dormant_of_ends htodo.1 ht hflight hpoised hends)
    refine ⟨hnone, fun hscheduled => ?_⟩
    rcases hdormant.idle with hidle | ⟨hhandles, htidy⟩
    · cases hidle.symm.trans hscheduled
    · refine ⟨hhandles, (Bool.not_eq_false _).mp fun hflight => ?_⟩
      cases (isTimerScheduled_of_task_none (htidy hhandles hflight)).symm.trans hscheduled

/-- A timer whose last handle is dropped while its attempt is under way ticks on until the attempt ends, and begins
no other. -/
theorem timer_states_of_drop :
    let before := [Order.deed (.addConnector (.scripted { plans := ⟨[.fails], 0⟩, latency := .ofMillis 30 })),
      .deed (.addTimer (some { period := .ofMillis 10 })), .deed (.startTimer 0 0), .advance (.ofMillis 5)]
    let s := (opened {}).after before
    let drop := Act.deed (.dropTimer 0)
    let mid := (s.act drop).plan [.advance (.ofMillis 20)]
    (opened {}).plan (before ++ [.deed (.dropTimer 0), .advance (.ofMillis 20)]) =
        (opened {}).plan before ++ drop :: mid ∧
      s.Ends 0 drop ∧ grown Floor.calls 0 (s.act drop) mid = 0 ∧
      ((s.act drop).play mid).isTimerScheduled 0 = true ∧ (((s.act drop).play mid).timer 0).inFlight = true := by
  intro before s drop mid
  have hplan : (opened {}).plan (before ++ [.deed (.dropTimer 0), .advance (.ofMillis 20)]) =
      (opened {}).plan before ++ drop :: mid := plan_append _ _ _
  have hplay : (opened {}).play ((opened {}).plan before) = s := play_plan _ _
  have hlast : (s.timer 0).handles = 1 := by decide +kernel
  have hends : s.Ends 0 drop := .drop hlast
  have hstates := timer_states {} .byId _ 0 _ _ hplan
  rw [hplay] at hstates
  obtain ⟨-, -, -, hend⟩ := hstates
  have hscheduled : ((s.act drop).play mid).isTimerScheduled 0 = true := by decide +kernel
  obtain ⟨hnone, hlate⟩ := hend drop mid [] (by rw [List.append_nil]) hends (by decide +kernel) (by decide +kernel)
  exact ⟨hplan, hends, hnone, hscheduled, (hlate hscheduled).2⟩

/-- A timer is at work without a live task when its period is longer than any the clock can wait for, or its connector
has panicked when it was asked. -/
theorem timer_without_task :
    (let s := (opened {}).after
       [.deed (.addConnector (.scripted { plans := ⟨[.connects], 0⟩ })),
        .deed (.addTimer (some { period := ⟨9223372036854775808000000000⟩, fireImmediately := false })),
        .deed (.startTimer 0 0)]
     s.isTimerScheduled 0 = true ∧ s.agenda.active = 0) ∧
    (let s := (opened {}).after
       [.deed (.addConnector (.scripted { plans := ⟨[.connects], 0⟩, replies := ⟨[.panics], 0⟩ })),
        .deed (.addTimer (some {})), .deed (.startTimer 0 0), .settle]
     s.isTimerScheduled 0 = true ∧ s.agenda.active = 0) := by
  decide +kernel

end Station

end Liveness
