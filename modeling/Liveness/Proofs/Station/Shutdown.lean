import Liveness.Proofs.Station.FixedRate
import Liveness.Proofs.Station.SingleFlight

/-!
# The end of all work

After a shutdown every entry of the agenda is cancelled and no errand is left to
begin.  Work that is taken on later is cancelled as well, so this stays true
(`Station.over_act`), and then there is nothing that time could bring: an order comes
down to what its caller does and moves of the clock (`Station.acts_of_over`).  The
services find out by their tasks that they are at work no more.
-/

namespace Liveness

/-! ## Agendas -/

namespace Agenda

variable {Job : Type} {taken : Job → Prop} {dropped : EntryId → Prop} {a b : Agenda Job}

/-- All work has been cancelled for ever. -/
structure Over (a : Agenda Job) : Prop where
  isShutdown : a.isShutdown = true
  errands : a.errands = []
  cancelled : ∀ (i : EntryId) (e : Entry Job), a.entries[i]? = some e → e.cancelled = true

namespace Over

/-- What is taken on later is cancelled from the start. -/
theorem grows (h : a.Over) (hgrows : a.Grows taken dropped b) : b.Over := by
  induction hgrows with
  | refl => exact h
  | @add b e _ _ _ ih =>
    refine ⟨ih.isShutdown, ih.errands, fun i e' he' => ?_⟩
    rw [add_eq, Array.getElem?_push] at he'
    split at he'
    · obtain rfl := Option.some.inj he'
      rw [enrol, if_pos ih.isShutdown]
    · exact ih.cancelled i e' he'
  | @cancel b j _ _ ih =>
    refine ⟨ih.isShutdown, ih.errands, fun i e' he' => ?_⟩
    rw [getElem?_cancel] at he'
    obtain ⟨e, he, rfl⟩ := Option.map_eq_some_iff.mp he'
    split
    · rfl
    · exact ih.cancelled i e he

theorem isCancelled (h : a.Over) (i : EntryId) : a.isCancelled i = true := by
  unfold Agenda.isCancelled
  cases he : a.entries[i]? with
  | none => rfl
  | some e => exact h.cancelled i e he

theorem due?_eq_none (h : a.Over) {i : EntryId} {e : Entry Job} (he : a.entries[i]? = some e) :
    e.due? = none := by
  unfold Entry.due?
  rw [h.cancelled i e he]

theorem active (h : a.Over) : a.active = 0 := by
  refine List.length_eq_zero_iff.mpr (List.filter_eq_nil_iff.mpr fun e he => ?_)
  obtain ⟨i, hi⟩ := List.getElem?_of_mem he
  rw [Array.getElem?_toList] at hi
  rw [Entry.isLive, h.cancelled i e hi]
  exact Bool.false_ne_true

theorem waiting (h : a.Over) : a.waiting = [] := by
  refine List.eq_nil_iff_forall_not_mem.mpr fun ⟨due, i⟩ hmem => ?_
  obtain ⟨e, he, hdue⟩ := mem_waiting.mp hmem
  cases (h.due?_eq_none he).symm.trans hdue

theorem ready (h : a.Over) : a.ready = [] := by
  rw [Agenda.ready, h.waiting, List.filter_nil, List.mergeSort_nil, List.map_nil]

theorem nextWake (h : a.Over) : a.nextWake = none := by
  rw [Agenda.nextWake, h.waiting]
  rfl

end Over

end Agenda

namespace Timeline

variable {Job σ : Type} (w : Worker Job σ) {t : Timeline Job σ}

theorem settleActs_of_over (h : t.agenda.Over) : settleActs w t = [] := by
  rw [settleActs, h.ready]
  exact congrArg (List.map _) h.errands

theorem settle_of_over (h : t.agenda.Over) : settle w t = t := by
  rw [← play_settleActs, settleActs_of_over w h]
  rfl

/-- An advance is one move of the clock. -/
theorem advanceActs_of_over (h : t.agenda.Over) (stop : Int) (n : Nat) :
    advanceActs w stop n t = [t.comeAct stop] := by
  cases n with
  | zero => rfl
  | succ n => rw [advanceActs, settleActs_of_over w h, settle_of_over w h, h.nextWake]; rfl

theorem jumpActs_of_over (h : t.agenda.Over) (amount : Span) :
    jumpActs w amount t = [.leap (amount.after t.agenda.now)] := by
  have hleapt : (t.setNow (amount.after t.agenda.now)).agenda.Over := ⟨h.isShutdown, h.errands, h.cancelled⟩
  rw [jumpActs, settleActs_of_over w h, settle_of_over w h, settleActs_of_over w hleapt]
  rfl

end Timeline

/-! ## Timers at a shutdown -/

/-- A timer later on, which may have lost its task and its attempt but nothing else. -/
def Timer.Lets (t t' : Timer) : Prop := ∃ task inFlight, t' = { t with task, inFlight }

theorem Timer.Lets.refl (t : Timer) : t.Lets t := ⟨t.task, t.inFlight, rfl⟩

theorem Timer.Lets.trans {t₁ t₂ t₃ : Timer} (h : t₁.Lets t₂) (h' : t₂.Lets t₃) : t₁.Lets t₃ := by
  obtain ⟨task, inFlight, rfl⟩ := h
  obtain ⟨task', inFlight', rfl⟩ := h'
  exact ⟨task', inFlight', rfl⟩

namespace Floor

theorem lets_modifyTimer (f : Floor) (i : TimerId) {g : Timer → Timer} (hg : ∀ t : Timer, t.Lets (g t))
    (k : TimerId) : (f.timer k).Lets ((f.modifyTimer i g).timer k) := by
  rw [timer_modifyTimer]
  split
  · exact hg _
  · exact .refl _

theorem lets_release (f : Floor) (i k : TimerId) : (f.timer k).Lets ((f.release i).1.timer k) := by
  unfold release
  split
  · exact .refl _
  · split
    · exact lets_modifyTimer f i (fun t => ⟨none, false, rfl⟩) k
    · exact lets_modifyTimer f i (fun t => ⟨t.task, false, rfl⟩) k

/-- What a shutdown takes away leaves all else on the floor alone. -/
theorem abandons (es : List (Entry Job)) (now : Int) (f : Floor) :
    let f' := es.foldl (fun f e => abandon e.job now f) f
    f'.simulations = f.simulations ∧ f'.notes = f.notes ∧ ∀ k, (f.timer k).Lets (f'.timer k) := by
  have hrelease : ∀ (f : Floor) k, (f.release k).1.simulations = f.simulations ∧ (f.release k).1.notes = f.notes := by
    intro f k
    unfold release
    split
    · exact ⟨rfl, rfl⟩
    · split <;> exact ⟨rfl, rfl⟩
  induction es generalizing f with
  | nil => exact ⟨rfl, rfl, fun k => .refl _⟩
  | cons e es ih =>
    obtain ⟨hsims, hnotes, hlets⟩ := ih (abandon e.job now f)
    suffices (abandon e.job now f).simulations = f.simulations ∧ (abandon e.job now f).notes = f.notes ∧
        ∀ k, (f.timer k).Lets ((abandon e.job now f).timer k) from
      ⟨hsims.trans this.1, hnotes.trans this.2.1, fun k => (this.2.2 k).trans (hlets k)⟩
    cases e.job with
    | answer i c number attempt =>
      exact ⟨(hrelease _ i).1, (hrelease _ i).2, fun k => lets_release _ i k⟩
    | sweep | report | traffic | silence | check | dial | probe | note => exact ⟨rfl, rfl, fun k => .refl _⟩

end Floor

namespace Station

variable {s : Station}

/-- All work has been cancelled for ever, and no attempt is under way. -/
structure Over (s : Station) : Prop where
  agenda : s.agenda.Over
  inFlight : ∀ k, (s.timer k).inFlight = false

/-- A shutdown changes nothing that its work acts on, but that attempts are given up. -/
structure Stops (s s' : Station) : Prop where
  hub : s'.hub = s.hub
  sweeper : s'.sweeper = s.sweeper
  simulations : s'.floor.simulations = s.floor.simulations
  notes : s'.floor.notes = s.floor.notes
  timers : ∀ k, (s.timer k).Lets (s'.timer k)

/-- Acts that callers make, and moves of the clock. -/
def Act.isOutside : Act → Bool
  | .time (.wake _) | .time .errand => false
  | _ => true

/-! ## Acts -/

/-- The first shutdown ends all work. -/
theorem over_shutdown (settings : SweepSettings) (walk : Walk) (earlier : List Order) :
    (((opened settings walk).after earlier).act .shutdown).Over := by
  have hopened : (opened settings walk).timeline.Rests := rests_opened settings walk
  have hrests : ((opened settings walk).after earlier).timeline.Rests := rests_after hopened earlier
  refine ⟨⟨rfl, hrests.errands, fun i e he => ?_⟩, fun k => ?_⟩
  · change (((opened settings walk).after earlier).agenda.entries.map _)[i]? = some e at he
    rw [Array.getElem?_map] at he
    obtain ⟨e₀, -, rfl⟩ := Option.map_eq_some_iff.mp he
    rfl
  · have ht : ((opened settings walk).after earlier).IsTended :=
      tended_after hopened (tended_opened settings walk) earlier
    have hflight := flight_play (inTurn_plan hopened earlier) (tended_opened settings walk)
      (flight_opened settings walk k)
    rw [play_plan] at hflight
    exact (Timeline.flight_shutdown (t := ((opened settings walk).after earlier).timeline) hflight ht hrests.errands).2

theorem stops_shutdown (s : Station) : s.Stops (s.act .shutdown) := by
  obtain ⟨hsims, hnotes, htimers⟩ :=
    Floor.abandons (s.agenda.entries.toList.filter fun e => e.errand && e.isLive) s.now s.floor
  exact ⟨hub_shutdown s, rfl, hsims, hnotes, htimers⟩

/-- Nothing that comes from outside starts work again. -/
theorem over_act (h : s.Over) {a : Act} (ha : a.isOutside) : (s.act a).Over := by
  cases a with
  | deed d =>
    refine ⟨h.agenda.grows (grows_perform s d), fun k => ?_⟩
    exact ((steady_perform s d) k).1.trans (h.inFlight k)
  | time a =>
    cases a with
    | wake | errand => cases ha
    | clock now | leap now => exact ⟨⟨h.agenda.isShutdown, h.agenda.errands, h.agenda.cancelled⟩, h.inFlight⟩
  | shutdown =>
    refine ⟨⟨rfl, h.agenda.errands, fun i e he => ?_⟩, fun k => ?_⟩
    · change (s.agenda.entries.map _)[i]? = some e at he
      rw [Array.getElem?_map] at he
      obtain ⟨e₀, -, rfl⟩ := Option.map_eq_some_iff.mp he
      rfl
    · refine (Timeline.timer_abandons (s.agenda.entries.toList.filter fun e => e.errand && e.isLive) s.now
        s.floor k).1.trans ?_
      rw [show (s.floor.timer k).inFlight = false from h.inFlight k, Bool.false_and]
  | startAttempt c =>
    exact ⟨h.agenda, fun k => ((Floor.quiet_startAttempt s.floor s.now c).inFlight k).trans (h.inFlight k)⟩
  | conclude c attempt =>
    exact ⟨h.agenda, fun k => ((Floor.quiet_conclude s.floor s.now c attempt).inFlight k).trans (h.inFlight k)⟩

theorem over_play (h : s.Over) {acts : List Act} (hacts : ∀ a ∈ acts, a.isOutside) : (s.play acts).Over := by
  induction acts generalizing s with
  | nil => exact h
  | cons a as ih =>
    exact ih (over_act h (hacts a List.mem_cons_self)) fun b hb => hacts b (List.mem_cons_of_mem a hb)

/-- There is nothing left that an order could set off. -/
theorem acts_of_over (h : s.Over) (o : Order) : ∀ a ∈ s.acts o, a.isOutside := by
  have hadvancing : ∀ {s : Station}, s.Over → ∀ amount, ∀ a ∈ s.advancing amount, a.isOutside := by
    intro s h amount a ha
    rw [advancing, Timeline.advanceActs_of_over Floor.worker h.agenda] at ha
    obtain rfl := List.mem_singleton.mp ha
    rfl
  intro a ha
  cases o with
  | deed d =>
    obtain rfl := List.mem_singleton.mp ha
    rfl
  | settle =>
    rw [acts, Timeline.settleActs_of_over Floor.worker h.agenda] at ha
    cases ha
  | advance amount => exact hadvancing h amount a ha
  | jump amount =>
    rw [acts, Timeline.jumpActs_of_over Floor.worker h.agenda] at ha
    obtain rfl := List.mem_singleton.mp ha
    rfl
  | shutdown =>
    have hagain : (s.act .shutdown).timeline.agenda.Over := (over_act (a := .shutdown) h rfl).agenda
    rw [acts, Timeline.settleActs_of_over Floor.worker hagain] at ha
    obtain rfl := List.mem_singleton.mp ha
    rfl
  | connect c =>
    have hstarted : (s.act (.startAttempt c)).Over := over_act h rfl
    simp only [acts] at ha
    rcases List.mem_cons.mp ha with rfl | ha
    · rfl
    · rcases List.mem_append.mp ha with ha | ha
      · split at ha
        · cases ha
        · exact hadvancing hstarted _ a ha
      · obtain rfl := List.mem_singleton.mp ha
        rfl

theorem plan_of_over (h : s.Over) (orders : List Order) : ∀ a ∈ s.plan orders, a.isOutside := by
  induction orders generalizing s with
  | nil => exact fun a ha => nomatch ha
  | cons o os ih =>
    have hobey : (s.obey o).Over := by
      rw [← play_acts]
      exact over_play h (acts_of_over h o)
    intro a ha
    rcases List.mem_append.mp ha with ha | ha
    · exact acts_of_over h o a ha
    · exact ih hobey a ha

/-- Settled is what it was. -/
theorem settle_of_over (h : s.Over) : s.settle = s := by
  obtain ⟨agenda, floor, sweeper⟩ := s
  exact congrArg (fun t : Timeline Job Floor => Station.mk t.agenda t.host sweeper)
    (Timeline.settle_of_over Floor.worker (t := ⟨agenda, floor⟩) h.agenda)

/-! ## The services -/

theorem isScheduled_of_over (h : s.Over) (task : Option EntryId) : s.isScheduled task = false := by
  cases task with
  | none => rfl
  | some i => exact congrArg not (h.agenda.isCancelled i)

/-- A recurring task is cancelled as soon as it is taken on. -/
theorem isCancelled_every (h : s.Over) (name : String) (job : Job) (delay period : Span) :
    (s.every name job delay period).2.agenda.isCancelled (s.every name job delay period).1 = true :=
  (h.agenda.grows (grows_every (P := (· = job)) (Q := fun _ => False) s name delay period rfl)).isCancelled _

theorem isCancelled_once (h : s.Over) (name : String) (job : Job) (delay : Span) :
    (s.once name job delay).2.agenda.isCancelled (s.once name job delay).1 = true :=
  (h.agenda.grows (Agenda.grows_once s.agenda name job delay)).isCancelled _

theorem startSweeper_of_over (h : s.Over) : s.startSweeper.1 = false := by
  unfold startSweeper
  rw [show s.isSweeping = false from isScheduled_of_over h _]
  dsimp only
  rw [isCancelled_every h]
  rfl

theorem startTimer_of_over (h : s.Over) (k : TimerId) (c : ConnectorId) : (s.startTimer k c).1 = false := by
  unfold startTimer
  dsimp only
  split
  · rfl
  · rw [isCancelled_every h]
    rfl

/-! ## Runs -/

/-- How a station stands at some moment after it was stopped. -/
structure Rested (stopped s : Station) : Prop where
  isShutdown : s.agenda.isShutdown = true
  activeWork : s.activeWork = (0, s)
  tasks : ∀ (i : EntryId) (e : Entry Job), s.agenda.entries[i]? = some e → e.cancelled = true ∧ s.runs i = []
  ran : ∀ (i : EntryId) (e : Entry Job), stopped.agenda.entries[i]? = some e →
    ∃ e', s.agenda.entries[i]? = some e' ∧ e'.runs = e.runs
  every : ∀ name job delay period,
    (s.every name job delay period).2.agenda.isCancelled (s.every name job delay period).1 = true
  once : ∀ name job delay, (s.once name job delay).2.agenda.isCancelled (s.once name job delay).1 = true
  isSweeping : s.isSweeping = false
  startSweeper : s.startSweeper.1 = false
  timers : ∀ k, s.isTimerScheduled k = false ∧ (s.timer k).inFlight = false ∧
    (s.timer k).attempts = (stopped.timer k).attempts
  startTimer : ∀ k c, (s.startTimer k c).1 = false

/-- What an act may be once all work is over: something that callers do, or a move of the clock that does
nothing else.  Nothing but what callers do on purpose reaches the hub. -/
structure Idles (s : Station) (a : Act) : Prop where
  isOutside : a.isOutside
  clock : ∀ t, a = .time t → ∃ now, s.act a = ⟨{ s.agenda with now }, s.floor, s.sweeper⟩
  hub : (∀ d, a = .deed d → d.isDirect = false) → Hub.Logs s.now s.hub (s.act a).hub

theorem attempts_act (s : Station) {a : Act} (ha : a.isOutside) (k : TimerId) :
    ((s.act a).timer k).attempts = (s.timer k).attempts := by
  cases a with
  | deed d => exact ((steady_perform s d) k).2
  | time a =>
    cases a with
    | wake | errand => cases ha
    | clock now | leap now => rfl
  | shutdown =>
    exact (Timeline.timer_abandons (s.agenda.entries.toList.filter fun e => e.errand && e.isLive) s.now
      s.floor k).2
  | startAttempt c => exact (Floor.quiet_startAttempt s.floor s.now c).attempts k
  | conclude c attempt => exact (Floor.quiet_conclude s.floor s.now c attempt).attempts k

theorem attempts_play (s : Station) {acts : List Act} (hacts : ∀ a ∈ acts, a.isOutside) (k : TimerId) :
    ((s.play acts).timer k).attempts = (s.timer k).attempts := by
  induction acts generalizing s with
  | nil => rfl
  | cons a as ih =>
    exact (ih (s.act a) fun b hb => hacts b (List.mem_cons_of_mem a hb)).trans
      (attempts_act s (hacts a List.mem_cons_self) k)

theorem rested_play (h : s.Over) {acts : List Act} (hacts : ∀ a ∈ acts, a.isOutside) :
    Rested s (s.play acts) := by
  have hover : (s.play acts).Over := over_play h hacts
  refine
    { isShutdown := hover.agenda.isShutdown
      activeWork := ?_
      tasks := fun i e he => ⟨hover.agenda.cancelled i e he, ?_⟩
      ran := fun i e he => ?_
      every := isCancelled_every hover
      once := isCancelled_once hover
      isSweeping := isScheduled_of_over hover _
      startSweeper := startSweeper_of_over hover
      timers := fun k => ⟨isScheduled_of_over hover _, hover.inFlight k, attempts_play s hacts k⟩
      startTimer := startTimer_of_over hover }
  · unfold activeWork
    rw [settle_of_over hover]
    exact congrArg (·, s.play acts) hover.agenda.active
  · rw [runs, he]
    dsimp only
    rw [hover.agenda.due?_eq_none he]
  · obtain ⟨e', he', hstill⟩ := still_play acts he (h.agenda.due?_eq_none he)
    exact ⟨e', he', hstill.runs⟩

theorem idles_of_isOutside {a : Act} (ha : a.isOutside) : Idles s a where
  isOutside := ha
  clock := by
    rintro t rfl
    cases t with
    | wake | errand => cases ha
    | clock now | leap now => exact ⟨now, rfl⟩
  hub := fun hdirect => by
    cases a with
    | deed d => exact logs_perform s (hdirect d rfl)
    | time a =>
      cases a with
      | wake | errand => cases ha
      | clock now | leap now => exact .refl _
    | shutdown =>
      rw [hub_shutdown]
      exact .refl _
    | startAttempt c =>
      change Hub.Logs s.now s.hub (s.floor.startAttempt s.now c).2.2.hub
      rw [Floor.hub_startAttempt]
      exact .refl _
    | conclude c attempt => exact Floor.logs_conclude s.floor c attempt

/-- Shutdown is final.  It leaves the hub, the sweeper and the timers as they are, but that attempts are
given up.  At every moment of whatever callers order later nothing is at work and nothing can be started;
and whatever happens is done by callers, or is the clock that moves over work which does not run. -/
theorem shutdown_is_final (settings : SweepSettings) (walk : Walk) (earlier later : List Order) :
    let s := (opened settings walk).after earlier
    let stopped := s.obey .shutdown
    Stops s stopped ∧
      ∀ done todo, stopped.plan later = done ++ todo →
        Rested stopped (stopped.play done) ∧ ∀ a rest, todo = a :: rest → Idles (stopped.play done) a := by
  intro s stopped
  have hover : (s.act .shutdown).Over := over_shutdown settings walk earlier
  have hstopped : stopped = s.act .shutdown := settle_of_over hover
  rw [hstopped]
  refine ⟨stops_shutdown s, fun done todo hsplit => ?_⟩
  have hacts : ∀ a ∈ done ++ todo, a.isOutside := fun a ha => plan_of_over hover later a (hsplit ▸ ha)
  refine ⟨rested_play hover fun a ha => hacts a (List.mem_append_left todo ha), ?_⟩
  rintro a rest rfl
  exact idles_of_isOutside (hacts a (List.mem_append_right done List.mem_cons_self))

/-- An attempt is taken away in the middle of its latency, and a task at the instant at which it is due. -/
example :
    let s := (opened {}).after [
      .deed (.addConnector (.scripted { plans := ⟨[.connects], 0⟩, latency := .ofMillis 50 })),
      .deed (.addTimer (some { period := .ofMillis 10 })),
      .deed (.startTimer 0 0), .advance (.ofMillis 20),
      .deed (.once "late" none none .zero), .shutdown, .advance (.ofMillis 100)]
    (s.timer 0).attempts = 1 ∧ (s.timer 0).inFlight = false ∧ s.agenda.entries[2]?.map (·.runs) = some [] := by
  decide +kernel

end Station

end Liveness
