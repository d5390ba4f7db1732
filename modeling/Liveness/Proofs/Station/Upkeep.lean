import Liveness.Proofs.Station.Tended

/-!
# Every act looks after the work

Each act keeps the references of a station right (`Station.tended_act`): the acts
of the timeline by what a run of work does, the deeds of callers one by one.
-/

namespace Liveness

/-! ## The acts of the timeline -/

namespace Timeline

variable {task : Option EntryId} {t : Timeline Job Floor}

theorem isShutdown_of_isLive {a : Agenda Job} {f : Floor} {i : EntryId} {e : Entry Job} (h : Refers a f)
    (he : a.entries[i]? = some e) (hlive : e.isLive) : a.isShutdown = false :=
  Bool.eq_false_iff.mpr fun hdown => Bool.eq_false_iff.mp ((h.ended hdown).2 i e he) hlive

theorem tended_runOnce (h : Tended task t.agenda t.host) (i : EntryId) (due : Int) :
    Tended task (runOnce Floor.worker i t due).agenda (runOnce Floor.worker i t due).host := by
  refine runOnce_cases Floor.worker (P := fun t => Tended task t.agenda t.host) due h fun e he hlive => ?_
  have hran := h.modify i (fun e' => e'.later_ran due t.agenda.now
    (Floor.run e.job e.runs t.agenda.now t.host).2.panicked) fun e' => Entry.isLive_of_ran
  have hup : t.agenda.isShutdown = false := isShutdown_of_isLive h.toRefers he hlive
  exact hran.run hup (h.entries i e he).able e.runs t.agenda.now

theorem tended_wake (h : Tended task t.agenda t.host) (i : EntryId) :
    Tended task (wake Floor.worker t i).agenda (wake Floor.worker t i).host := by
  refine wake_induction Floor.worker (P := fun t => Tended task t.agenda t.host) ?_ ?_ h
  · exact fun t due h => tended_runOnce h i due
  · exact fun t stage h => h.modify i (fun _ => ⟨rfl, rfl, rfl, id⟩) fun _ => Entry.isLive_of_restage

theorem tended_beginNext (h : Tended task t.agenda t.host) :
    Tended task (beginNext Floor.worker t).agenda (beginNext Floor.worker t).host := by
  cases hjobs : t.agenda.errands with
  | nil => simpa only [beginNext, hjobs] using h
  | cons job rest =>
    have hup : t.agenda.isShutdown = false := by
      refine Bool.eq_false_iff.mpr fun hdown => ?_
      rw [(h.ended hdown).1] at hjobs
      cases hjobs
    have herrands := h.errands
    rw [hjobs] at herrands
    have hrest : Tended task { t.agenda with errands := rest } t.host :=
      h.withErrands hup fun job' hmem => herrands job' (List.mem_cons_of_mem job hmem)
    simp only [beginNext, hjobs]
    exact hrest.run hup (herrands job List.mem_cons_self).2 [] t.agenda.now

/-- When nothing is live any more, the tasks that timers lose need not be looked after. -/
theorem tended_abandon {a : Agenda Job} {f : Floor} (h : Tended task a f)
    (hdead : ∀ (i : EntryId) (e : Entry Job), a.entries[i]? = some e → e.isLive = false)
    (job : Job) (now : Int) : Tended task a (Floor.abandon job now f) := by
  obtain ⟨f', hquiet, ⟨heq, -⟩ | ⟨k, c, number, attempt, -, heq⟩⟩ := Floor.abandon_cases job now f
  · rw [heq]
    exact h.keeps hquiet.toKeeps
  · rw [heq]
    refine (h.keeps hquiet.toKeeps).roomier (Floor.roomier_release f' k) ?_ ?_
    · intro k' i hi
      rcases (Floor.timer_release f' k k').2.2 with htask | htask
      · exact htask.symm.trans hi
      · rw [htask] at hi
        cases hi
    · intro k' i e _ he hl
      exact absurd hl (Bool.eq_false_iff.mp (hdead i e he))

/-- A shutdown takes all work away, and may take the tasks of timers away. -/
theorem tended_shutdown (h : Tended task t.agenda t.host) (herrands : t.agenda.errands = []) :
    Tended task (shutdown Floor.worker t).agenda (shutdown Floor.worker t).host := by
  have hstop : Tended task t.agenda.stopped t.host :=
    h.ages (Agenda.ages_stopped (P := fun _ => False) t.agenda) rfl fun _ => False.elim
  have hfold : ∀ (es : List (Entry Job)) (f : Floor), Tended task t.agenda.stopped f →
      Tended task t.agenda.stopped (es.foldl (fun f e => Floor.abandon e.job t.agenda.now f) f) := by
    intro es
    induction es with
    | nil => exact fun f hf => hf
    | cons e es ih => exact fun f hf => ih _ (tended_abandon hf t.agenda.isLive_of_stopped e.job t.agenda.now)
  have hend := hfold (t.agenda.entries.toList.filter fun e => e.errand && e.isLive) t.host hstop
  exact ⟨⟨hend.entries, hend.simulations, hend.errands, fun _ => ⟨herrands, t.agenda.isLive_of_stopped⟩⟩,
    hend.sweeper, hend.sweeps, hend.tasks, hend.checks⟩

end Timeline

/-! ## New tasks -/

namespace Tended

variable {task : Option EntryId} {a : Agenda Job} {f : Floor} {e : Entry Job}

theorem withHub (h : Tended task a f) (hub : Hub) : Tended task a { f with hub } :=
  h.keeps (Floor.quiet_withHub f hub).toKeeps

theorem add (h : Tended task a f) (hfits : f.Fits (a.enrol e))
    (hfree : (a.enrol e).isLive → (a.enrol e).job.isOwned = false) : Tended task (a.add e).2 f :=
  h.ages (P := (· = a.enrol e)) (Agenda.ages_add a e rfl) rfl fun _ he => he ▸ ⟨hfits, hfree⟩

/-- The sweeper takes on a task, when no other of its tasks is live. -/
theorem add_sweep (h : Tended task a f) {limit : Span} (hjob : e.job = .sweep limit)
    (hdead : ∀ i e, task = some i → a.entries[i]? = some e → e.isLive = false) :
    Tended (some a.entries.size) (a.add e).2 f where
  toRefers := h.toRefers.ages (P := fun e => e.job.isOfTimer = false)
    (Agenda.ages_add a e (by rw [Agenda.job_enrol, hjob]; rfl)) rfl fun _ => Floor.fits_of_not_isOfTimer f
  sweeper := fun i hi => by
    obtain rfl := Option.some.inj hi
    exact ⟨_, limit, Agenda.getElem?_add_size a e, (a.job_enrol e).trans hjob⟩
  sweeps := fun i e' limit' he' hjob' hl => by
    rw [Agenda.add_eq, Array.getElem?_push] at he'
    split at he'
    · rename_i hi
      exact congrArg some hi.symm
    · exact absurd hl (Bool.eq_false_iff.mp (hdead i e' (h.sweeps i e' limit' he' hjob' hl) he'))
  tasks := fun k i hi => by
    obtain ⟨e', c, he', hjob'⟩ := h.tasks k i hi
    exact ⟨e', c, Agenda.getElem?_add_of_lt e he', hjob'⟩
  checks := fun i e' k c he' hjob' hl => by
    rw [Agenda.add_eq, Array.getElem?_push] at he'
    split at he'
    · obtain rfl := Option.some.inj he'
      rw [Agenda.job_enrol, hjob] at hjob'
      cases hjob'
    · exact h.checks i e' k c he' hjob' hl

/-- A timer takes on a task, when no other of its tasks is live. -/
theorem add_check (h : Tended task a f) {k : TimerId} {c : ConnectorId} (hjob : e.job = .check k c)
    (hk : k < f.timers.size) (hc : c < f.connectors.size)
    (hdead : ∀ i e, (f.timer k).task = some i → a.entries[i]? = some e → e.isLive = false) :
    Tended task (a.add e).2 (f.modifyTimer k fun t => { t with task := some a.entries.size }) where
  toRefers := by
    refine (h.toRefers.ages (P := fun e => e.job = .check k c)
      (Agenda.ages_add a e ((a.job_enrol e).trans hjob)) rfl fun e' hjob' => ?_).roomier
        (Floor.roomier_modifyTimer f k _)
    refine ⟨by rw [hjob']; exact ⟨hk, hc⟩, ?_, ?_⟩
    · intro k' c' number attempt hanswer
      cases hjob'.symm.trans hanswer
    · intro k' c' number hdial
      cases hjob'.symm.trans hdial
  sweeper := fun i hi => by
    obtain ⟨e', limit, he', hjob'⟩ := h.sweeper i hi
    exact ⟨e', limit, Agenda.getElem?_add_of_lt e he', hjob'⟩
  sweeps := fun i e' limit he' hjob' hl => by
    rw [Agenda.add_eq, Array.getElem?_push] at he'
    split at he'
    · obtain rfl := Option.some.inj he'
      rw [Agenda.job_enrol, hjob] at hjob'
      cases hjob'
    · exact h.sweeps i e' limit he' hjob' hl
  tasks := fun k' i hi => by
    rw [Floor.timer_modifyTimer] at hi
    split at hi
    · rename_i hk'
      obtain ⟨rfl, -⟩ := hk'
      obtain rfl := Option.some.inj hi
      exact ⟨_, c, Agenda.getElem?_add_size a e, (a.job_enrol e).trans hjob⟩
    · obtain ⟨e', c', he', hjob'⟩ := h.tasks k' i hi
      exact ⟨e', c', Agenda.getElem?_add_of_lt e he', hjob'⟩
  checks := fun i e' k' c' he' hjob' hl => by
    rw [Floor.timer_modifyTimer]
    rw [Agenda.add_eq, Array.getElem?_push] at he'
    split at he'
    · rename_i hi
      obtain rfl := Option.some.inj he'
      rw [Agenda.job_enrol, hjob] at hjob'
      cases hjob'
      rw [if_pos ⟨rfl, hk⟩, hi]
    · have hold := h.checks i e' k' c' he' hjob' hl
      rw [if_neg, hold]
      rintro ⟨rfl, -⟩
      exact absurd hl (Bool.eq_false_iff.mp (hdead i e' hold he'))

theorem add_simulation (h : Tended task a f) (sim : Simulation)
    (htraffic : ∃ e, a.entries[sim.traffic]? = some e ∧ e.job = .traffic f.simulations.size)
    (hsilence : ∃ e, a.entries[sim.silence]? = some e ∧ e.job = .silence f.simulations.size) :
    Tended task a { f with simulations := f.simulations.push sim } := by
  refine ⟨⟨fun i e he => ?_, fun n sim' hsim' => ?_, h.errands, h.ended⟩, h.sweeper, h.sweeps, h.tasks, h.checks⟩
  · exact ⟨(h.entries i e he).able, (h.entries i e he).once, (h.entries i e he).begun⟩
  · simp only [Array.getElem?_push] at hsim'
    split at hsim'
    · rename_i hn
      subst hn
      obtain rfl := Option.some.inj hsim'
      exact ⟨htraffic, hsilence⟩
    · exact h.simulations n sim' hsim'

end Tended

namespace Station

variable {s : Station}

/-- A station whose references are right. -/
def IsTended (s : Station) : Prop := Tended s.sweeper.task s.agenda s.floor

/-! ## The deeds of callers -/

theorem isLive_of_isCancelled {a : Agenda Job} {i : EntryId} {e : Entry Job} (h : a.isCancelled i = true)
    (he : a.entries[i]? = some e) : e.isLive = false := by
  simp only [Agenda.isCancelled, he, Option.map_some, Option.getD_some] at h
  simp [Entry.isLive, h]

theorem isScheduled_of_task {task : Option EntryId} {i : EntryId} {e : Entry Job} (htask : task = some i)
    (he : s.agenda.entries[i]? = some e) : s.isScheduled task = !e.cancelled := by
  rw [htask, isScheduled, Option.any_some, Agenda.isCancelled, he]
  rfl

theorem isLive_of_isScheduled {task : Option EntryId} (h : ¬s.isScheduled task) (i : EntryId)
    (e : Entry Job) (hi : task = some i) (he : s.agenda.entries[i]? = some e) : e.isLive = false := by
  subst hi
  refine isLive_of_isCancelled ?_ he
  simpa [isScheduled] using h

theorem tended_every (h : s.IsTended) (name : String) {job : Job} (delay period : Span)
    (hjob : job.isOfTimer = false ∧ job.isOwned = false) :
    (s.every name job delay period).2.IsTended := by
  rw [every_eq]
  refine Tended.withHub (Tended.add h ?_ ?_) _
  · exact Floor.fits_of_not_isOfTimer _ (by rw [Agenda.job_enrol]; exact hjob.1)
  · exact fun _ => by rw [Agenda.job_enrol]; exact hjob.2

theorem tended_once (h : s.IsTended) (name : String) {job : Job} (delay : Span)
    (hjob : job.isOfTimer = false ∧ job.isOwned = false) : (s.once name job delay).2.IsTended :=
  h.add (Floor.fits_of_not_isOfTimer _ (by rw [Agenda.job_enrol]; exact hjob.1))
    fun _ => by rw [Agenda.job_enrol]; exact hjob.2

theorem tended_startSweeper (h : s.IsTended) : s.startSweeper.2.IsTended := by
  unfold startSweeper
  split
  · exact h
  · rename_i hidle
    dsimp only
    rw [every_eq]
    split
    · rename_i hrefused
      refine Tended.withHub (Tended.add h ?_ fun hl => ?_) _
      · exact Floor.fits_of_not_isOfTimer _ (by rw [Agenda.job_enrol]; rfl)
      · exact absurd hl (Bool.eq_false_iff.mp
          (isLive_of_isCancelled hrefused (Agenda.getElem?_add_size s.agenda _)))
    · refine Tended.withHub (Tended.withHub (Tended.add_sweep h rfl ?_) _) _
      exact isLive_of_isScheduled hidle

theorem tended_stopSweeper (h : s.IsTended) : s.stopSweeper.2.IsTended := by
  unfold stopSweeper
  split
  · exact h
  · rename_i task htask
    have hcancel : Tended s.sweeper.task (s.agenda.cancel task) s.floor := Tended.cancel h task
    have hnone : Tended none (s.agenda.cancel task) s.floor := by
      refine ⟨hcancel.toRefers, nofun, fun i e limit he hjob hl => ?_, hcancel.tasks, hcancel.checks⟩
      -- the only sweep that was live has just been cancelled
      obtain rfl := Option.some.inj (htask.symm.trans (hcancel.sweeps i e limit he hjob hl))
      rw [Agenda.getElem?_cancel] at he
      obtain ⟨e₀, -, rfl⟩ := Option.map_eq_some_iff.mp he
      simp [Entry.isLive] at hl
    dsimp only
    split
    · exact hnone.keeps (Floor.quiet_log _ _ _).toKeeps
    · exact hnone

theorem tended_stopTimer (h : s.IsTended) (k : TimerId) : (s.stopTimer k).2.IsTended := by
  unfold stopTimer
  split
  · exact h
  · rename_i task htask
    exact Tended.unschedule h htask fun _ => rfl

theorem tended_modifyTimer (h : s.IsTended) (k : TimerId) {g : Timer → Timer}
    (hg : ∀ t, (g t).task = t.task) : (s.modifyTimer k g).IsTended :=
  Tended.keeps h (Floor.keeps_modifyTimer s.floor k hg)

theorem tended_startTimer (h : s.IsTended) (k : TimerId) {c : ConnectorId}
    (hc : c < s.floor.connectors.size) : (s.startTimer k c).2.IsTended := by
  unfold startTimer
  dsimp only
  split
  · exact h
  · rename_i hidle
    rw [Bool.or_eq_true, not_or] at hidle
    have hk : k < s.floor.timers.size := by
      refine Nat.lt_of_not_le fun hle => hidle.1 ?_
      rw [timer, Array.getElem?_eq_none hle]
      rfl
    rw [every_eq]
    split
    · rename_i hrefused
      refine Tended.withHub (Tended.withHub (Tended.add h ⟨?_, ?_, ?_⟩ fun hl => ?_) _) _
      · rw [Agenda.job_enrol]
        exact ⟨hk, hc⟩
      · intro k' c' number attempt hanswer
        rw [Agenda.job_enrol] at hanswer
        cases hanswer
      · intro k' c' number hdial
        rw [Agenda.job_enrol] at hdial
        cases hdial
      · exact absurd hl (Bool.eq_false_iff.mp
          (isLive_of_isCancelled hrefused (Agenda.getElem?_add_size s.agenda _)))
    · refine Tended.withHub (Tended.withHub (Tended.add_check h rfl hk hc ?_) _) _
      exact isLive_of_isScheduled hidle.2

/-- A simulation takes on its traffic and its silence under the next two numbers. -/
theorem startSimulation_eq (s : Station) (plan : SimulationPlan) :
    ∃ (hub : Hub) (sim : Simulation), sim.traffic = s.agenda.entries.size ∧
      sim.silence = s.agenda.entries.size + 1 ∧
      (s.startSimulation plan).2 = { s with
        agenda := ((s.agenda.add (s.agenda.recurring "sim-traffic" (.traffic s.floor.simulations.size)
          plan.interval plan.interval)).2.once "sim-silence" (.silence s.floor.simulations.size)
            plan.silenceAfter).2
        floor := { s.floor with hub, simulations := s.floor.simulations.push sim } } := by
  unfold startSimulation
  dsimp only
  rw [every_eq]
  exact ⟨_, _, rfl, Array.size_push _, rfl⟩

theorem tended_startSimulation (h : s.IsTended) (plan : SimulationPlan) :
    (s.startSimulation plan).2.IsTended := by
  obtain ⟨hub, sim, htraffic, hsilence, heq⟩ := s.startSimulation_eq plan
  have hfirst : IsTended { s with agenda := (s.agenda.add (s.agenda.recurring "sim-traffic"
      (.traffic s.floor.simulations.size) plan.interval plan.interval)).2 } := by
    refine h.add ?_ ?_
    · exact Floor.fits_of_not_isOfTimer _ (by rw [Agenda.job_enrol]; rfl)
    · exact fun _ => by rw [Agenda.job_enrol]; rfl
  have hsecond : IsTended { s with agenda := ((s.agenda.add (s.agenda.recurring "sim-traffic"
      (.traffic s.floor.simulations.size) plan.interval plan.interval)).2.once "sim-silence"
        (.silence s.floor.simulations.size) plan.silenceAfter).2 } :=
    tended_once hfirst _ _ ⟨rfl, rfl⟩
  rw [heq]
  refine Tended.add_simulation (Tended.withHub hsecond hub) sim ?_ ?_
  · rw [htraffic]
    exact ⟨_, Agenda.getElem?_add_of_lt _ (Agenda.getElem?_add_size _ _), Agenda.job_enrol _ _⟩
  · rw [hsilence, ← Agenda.size_add s.agenda]
    exact ⟨_, Agenda.getElem?_add_size _ _, Agenda.job_enrol _ _⟩

/-- Every deed keeps references right. -/
theorem tended_perform (h : s.IsTended) (d : Deed) : (s.perform d).IsTended := by
  cases d with
  | onHub op => exact Tended.withHub h _
  | sweepNow => exact Tended.withHub h _
  | startSweeper => exact tended_startSweeper h
  | stopSweeper => exact tended_stopSweeper h
  | setSweeper settings =>
    simp only [perform, setSweeper]
    cases settings.validate with
    | error e => exact h
    | ok u =>
      cases s.isSweeping with
      | true => exact h
      | false => exact h
  | every name touches panicsAt delay period => exact tended_every h name delay period ⟨rfl, rfl⟩
  | once name touches panicsAt delay => exact tended_once h name delay ⟨rfl, rfl⟩
  | cancel i =>
    simp only [perform]
    split
    · exact Tended.cancel h i
    · exact h
  | note name delay =>
    refine Tended.ages h (Agenda.ages_wait s.agenda (.note name) (some delay)) ?_ ?_
    · exact (Agenda.grows_wait s.agenda (.note name) (some delay)).errands
    · rintro e ⟨hjob, -, -⟩
      exact ⟨Floor.fits_of_not_isOfTimer _ (by rw [hjob]; rfl), fun _ => by rw [hjob]; rfl⟩
  | startReporter interval loads =>
    have hlogged : ((s.onHub Hub.addTally).2.log (.reporterStarted interval)).IsTended := Tended.withHub h _
    exact tended_every hlogged "stats" interval interval ⟨rfl, rfl⟩
  | startSimulation plan => exact tended_startSimulation h plan
  | stopSimulation i =>
    simp only [perform, stopSimulation]
    split
    · exact Tended.cancel (Tended.cancel h _) _
    · exact h
  | addTimer settings =>
    simp only [perform]
    cases settings with
    | none => exact Tended.keeps h (Floor.quiet_addTimer s.floor rfl rfl rfl).toKeeps
    | some settings => exact Tended.keeps h (Floor.quiet_addTimer s.floor rfl rfl rfl).toKeeps
  | startTimer k c =>
    simp only [perform]
    split
    · rename_i hc
      exact tended_startTimer h k hc
    · exact h
  | stopTimer k => exact tended_stopTimer h k
  | setAutoConnect k on =>
    simp only [perform, setAutoConnect]
    split
    · exact h
    · split
      · exact tended_modifyTimer h k fun _ => rfl
      · apply tended_stopTimer
        exact tended_modifyTimer h k fun _ => rfl
  | setTimerPeriod k period =>
    simp only [perform, setTimerPeriod]
    split
    · exact h
    · exact tended_modifyTimer h k fun _ => rfl
  | holdTimer k => exact tended_modifyTimer h k fun _ => rfl
  | dropTimer k =>
    simp only [perform, dropTimer]
    split
    · apply tended_stopTimer
      exact tended_modifyTimer h k fun _ => rfl
    · exact tended_modifyTimer h k fun _ => rfl
  | addConnector c => exact Tended.keeps h (Floor.quiet_addConnector s.floor c).toKeeps
  | setConnected c up => exact Tended.keeps h (Floor.quiet_modifyConnector s.floor c _).toKeeps

/-! ## Acts and runs -/

/-- Every act in its turn keeps references right. -/
theorem tended_act {a : Act} (hmay : s.May a) (h : s.IsTended) : (s.act a).IsTended := by
  cases a with
  | deed d => exact tended_perform h d
  | time a =>
    obtain ⟨agenda, floor, sweeper⟩ := s
    cases a with
    | wake i => exact Timeline.tended_wake (t := ⟨agenda, floor⟩) h i
    | errand => exact Timeline.tended_beginNext (t := ⟨agenda, floor⟩) h
    | clock now | leap now =>
      exact ⟨⟨h.entries, h.simulations, h.errands, h.ended⟩, h.sweeper, h.sweeps, h.tasks, h.checks⟩
  | shutdown =>
    obtain ⟨agenda, floor, sweeper⟩ := s
    exact Timeline.tended_shutdown (t := ⟨agenda, floor⟩) h hmay
  | startAttempt c => exact Tended.keeps h (Floor.quiet_startAttempt s.floor s.now c).toKeeps
  | conclude c attempt => exact Tended.keeps h (Floor.quiet_conclude s.floor s.now c attempt).toKeeps

theorem tended_runOnce (h : s.IsTended) (i : EntryId) (due : Int) : (s.runOnce i due).IsTended := by
  obtain ⟨a, f, sweeper⟩ := s
  exact Timeline.tended_runOnce (t := ⟨a, f⟩) h i due

/-- References are right before each run of a piece of work. -/
theorem tended_of_mem_runsOf (h : s.IsTended) {i : EntryId} {dues : List Int} {x : Station × Station}
    (hx : x ∈ s.runsOf i dues) : x.1.IsTended := by
  induction dues generalizing s with
  | nil => cases hx
  | cons due dues ih =>
    rcases List.mem_cons.mp hx with rfl | hx
    · exact h
    · exact ih (tended_runOnce h i due) hx

theorem eq_of_mem_runsOf {i : EntryId} {dues : List Int} {x : Station × Station} (hx : x ∈ s.runsOf i dues) :
    ∃ due, x.2 = x.1.runOnce i due := by
  induction dues generalizing s with
  | nil => cases hx
  | cons due dues ih =>
    rcases List.mem_cons.mp hx with rfl | hx
    · exact ⟨due, rfl⟩
    · exact ih hx

theorem job_of_mem_runsOf {j : EntryId} {e : Entry Job} {dues : List Int} {x : Station × Station}
    (hx : x ∈ s.runsOf j dues) (he : s.agenda.entries[j]? = some e) :
    ∃ e', x.1.agenda.entries[j]? = some e' ∧ e'.job = e.job := by
  induction dues generalizing s e with
  | nil => cases hx
  | cons due dues ih =>
    rcases List.mem_cons.mp hx with rfl | hx
    · exact ⟨e, he, rfl⟩
    · obtain ⟨e', he', hlater⟩ := (Timeline.goes_runOnce Floor.orderly_worker s.timeline j due).old j e he
      obtain ⟨e'', he'', hjob⟩ := ih hx he'
      exact ⟨e'', he'', hjob.trans hlater.job⟩

theorem mem_runs {i : EntryId} {x : Station × Station} (hx : x ∈ s.runs i) :
    ∃ dues, x ∈ s.runsOf i dues := by
  unfold runs at hx
  split at hx
  · cases hx
  · split at hx
    · cases hx
    · exact ⟨_, hx⟩

theorem tended_opened (settings : SweepSettings) (walk : Walk := .byId) : (opened settings walk).IsTended where
  entries := fun i e he => by simp [opened] at he
  simulations := fun n sim hsim => by simp [opened] at hsim
  errands := fun job hjob => by simp [opened] at hjob
  ended := fun hdown => by simp [opened] at hdown
  sweeper := fun i hi => by simp [opened] at hi
  sweeps := fun i e limit he => by simp [opened] at he
  tasks := fun k i hi => by simp [opened, Floor.timer, Timer.disabled] at hi
  checks := fun i e k c he => by simp [opened] at he

theorem tended_play {acts : List Act} (hacts : s.InTurn acts) (h : s.IsTended) : (s.play acts).IsTended :=
  play_induct (fun _ _ hmay hs => tended_act hmay hs) hacts h

theorem tended_after (hrests : s.timeline.Rests) (h : s.IsTended) (orders : List Order) :
    (s.after orders).IsTended := by
  rw [← play_plan]
  exact tended_play (inTurn_plan hrests orders) h

end Station

end Liveness
