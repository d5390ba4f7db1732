import Liveness.Proofs.Station.Aside
import Liveness.Proofs.Station.Fates

/-!
# The course of a simulation

What matters to the devices of a simulation is its traffic, its silence and the sweeps of
the schedule.  `Station.course` lists these as they happen.  As long as all else is aside
and the clock only advances, a simulation is `Playing`: its work keeps to a timetable, and
its devices stand as their fates in the course say.  Every act keeps it so
(`Playing.act`): work that wakes up moves the course on, and all other acts leave the
devices alone.
-/

namespace Liveness

/-- What a run of some work is to the devices of a simulation. -/
def Job.kind? (i : SimulationId) : Job → Option Station.Pulse.Kind
  | .sweep _ => some .sweep
  | .traffic k => if k = i then some .round else none
  | .silence k => if k = i then some .hush else none
  | _ => none

/-- What work of a stage waits for. -/
def Stage.due? : Stage → Option Int
  | .waiting due => some due
  | _ => none

/-- Work that has come so far on a schedule of whole milliseconds.  It waits for the next instant, and when it wakes
up on time it runs once and waits for the one after that. -/
structure Entry.Timely (job : Job) (schedule : Nat → Option Int) (n : Nat) (now : Int) (e : Entry Job) : Prop where
  job : e.job = job
  due : e.due? = schedule n
  next : ∀ t, schedule n = some t → now ≤ t
  whole : ∀ k t, schedule k = some t → 1000000 ∣ t
  plan : ∀ k t, schedule k = some t → ∃ stage, e.plan t t = ([t], stage) ∧ stage.due? = schedule (k + 1)
  ascending : ∀ k t t', schedule k = some t → schedule (k + 1) = some t' → t ≤ t'

namespace Entry.Timely

variable {e : Entry Job} {job : Job} {schedule : Nat → Option Int} {n : Nat} {now due : Int}

/-- Work on a schedule that is ready has come to its instant. -/
theorem due_eq_now (ht : e.Timely job schedule n now) (hdue : e.due? = some due) (hready : Cadence.isReady due now)
    (hmilli : 1000000 ∣ now) : due = now := by
  have hscheduled : schedule n = some due := ht.due.symm.trans hdue
  have hwhole : 1000000 ∣ due := ht.whole n due hscheduled
  refine (Cadence.eq_of_isReady hready ?_ hwhole hmilli).symm
  rw [Instant.floorMilli_of_dvd hmilli, Instant.ceilMilli_of_dvd hwhole]
  exact ht.next due hscheduled

/-- Work that has run at its instant has come one instant further. -/
theorem ran (ht : e.Timely job schedule n now) (hdue : e.due? = some now) {stage : Stage}
    (hstage : stage.due? = schedule (n + 1)) :
    ((e.ran now now false).restage stage).Timely job schedule (n + 1) now where
  job := ht.job
  due := by
    have hran : (e.ran now now false).isLive := isLive_of_due? hdue
    have hcancelled : (e.ran now now false).cancelled = false := (due?_eq_some.mp hdue).1
    rw [← hstage, restage, if_pos hran, due?, hcancelled]
    cases stage <;> rfl
  next := fun t hnext => ht.ascending n now t (ht.due.symm.trans hdue) hnext
  whole := ht.whole
  plan := ht.plan
  ascending := ht.ascending

end Entry.Timely

namespace Station

/-- What a run of an entry is to the devices of a simulation. -/
def runPulse? (s : Station) (i : SimulationId) (j : EntryId) : Option Pulse :=
  match s.agenda.entries[j]? with
  | none => none
  | some e => if e.isLive then (e.job.kind? i).map (⟨·, s.now⟩) else none

/-- What an act is to the devices of a simulation. -/
def pulses (s : Station) (i : SimulationId) : Act → List Pulse
  | .time (.wake j) => (s.runs j).filterMap fun x => x.1.runPulse? i j
  | _ => []

/-- What matters to the devices of a simulation in a list of acts. -/
def course (i : SimulationId) : Station → List Act → List Pulse
  | _, [] => []
  | s, a :: as => s.pulses i a ++ course i (s.act a) as

variable {s : Station} {a : Act} {i : SimulationId} {j : EntryId} {e : Entry Job}

/-- Work that is aside does not matter to the devices of a simulation. -/
theorem pulses_of_isAside (he : s.agenda.entries[j]? = some e) (hjob : e.job.isAside) :
    s.pulses i (.time (.wake j)) = [] := by
  refine List.filterMap_eq_nil_iff.mpr fun x hx => ?_
  obtain ⟨dues, hx⟩ := mem_runs hx
  obtain ⟨e', he', hsame⟩ := job_of_mem_runsOf hx he
  have hkind : e'.job.kind? i = none := by
    rw [hsame]
    generalize e.job = job at hjob
    cases job with
    | sweep | traffic | silence => cases hjob
    | report | check | dial | answer | probe | note => rfl
  simp [runPulse?, he', hkind]

theorem pulses_of_not_waits (h : ∀ due, ¬s.timeline.Waits j due) : s.pulses i (.time (.wake j)) = [] := by
  have hruns : s.runs j = [] := by
    unfold runs
    split
    · rfl
    · rename_i e he
      split
      · rfl
      · rename_i due hdue
        exact absurd ⟨e, he, hdue⟩ (h due)
  rw [pulses, hruns]
  rfl

theorem act_wake_of_not_waits (h : ∀ due, ¬s.timeline.Waits j due) : s.act (.time (.wake j)) = s := by
  change Station.mk (Timeline.wake Floor.worker s.timeline j).agenda (Timeline.wake Floor.worker s.timeline j).host
    s.sweeper = s
  rw [Timeline.wake_of_not_waits Floor.worker h]
  rfl

section

variable (he : s.agenda.entries[j]? = some e) (hsteady : e.job.isSteady) {due : Int} (hdue : e.due? = some due)
  {stage : Stage} (hplan : e.plan due s.now = ([due], stage))

include he hsteady hdue hplan

/-- Steady work that runs once matters once to the devices of its simulation. -/
theorem pulses_wake_steady {kind : Pulse.Kind} (hkind : e.job.kind? i = some kind) :
    s.pulses i (.time (.wake j)) = [⟨kind, s.now⟩] := by
  have hlive : e.isLive := Entry.isLive_of_due? hdue
  rw [pulses, (wake_steady he hsteady hdue hplan).1]
  simp only [List.filterMap_cons, List.filterMap_nil, runPulse?, he, hlive, if_true, hkind, Option.map_some]

theorem getElem?_wake_steady (k : EntryId) : (s.act (.time (.wake j))).agenda.entries[k]? =
    if j = k then some ((e.ran due s.now false).restage stage) else s.agenda.entries[k]? := by
  rw [(wake_steady he hsteady hdue hplan).2]
  simp only [Agenda.modify, Array.getElem?_modify]
  split
  · rename_i heq
    rw [← heq, he]
    rfl
  · rfl

end

/-! ## Simulations at play -/

/-- A simulation that has started: on which hub, with how many devices of which how many will fall silent, under
which limit for silence, and the tasks and the timetable of what matters to it. -/
structure Scene where
  start : Hub
  simulation : SimulationId
  devices : Nat
  silent : Nat
  limit : Span
  timetable : Timetable
  task : Pulse.Kind → EntryId

namespace Scene

/-- The work that matters to a simulation. -/
def job (c : Scene) : Pulse.Kind → Job
  | .round => .traffic c.simulation
  | .hush => .silence c.simulation
  | .sweep => .sweep c.limit

/-- How far the device of a number comes in a course. -/
def fate (c : Scene) (k : Nat) (course : List Pulse) : Life :=
  Station.fate c.timetable.born c.limit (c.devices - c.silent ≤ k) course

/-- A simulation that has come so far: its work is on time and all other work aside, and its devices stand as their
fates say. -/
structure Playing (c : Scene) (course : List Pulse) (s : Station) : Prop where
  tended : s.IsTended
  peaceful : s.agenda.Peaceful fun j => ∃ kind, j = c.task kind
  timely : ∀ kind, ∃ e, s.agenda.entries[c.task kind]? = some e ∧
    e.Timely (c.job kind) (c.timetable.schedule kind) (times kind course).length s.now
  onTime : OnTime c.timetable course s.now
  milli : 1000000 ∣ s.now
  peopled : Peopled c.start c.timetable.born c.simulation c.devices c.silent (c.fate · course) s.floor

variable {c : Scene} {course : List Pulse} {kind kind' : Pulse.Kind}

theorem isSteady_job (c : Scene) (kind : Pulse.Kind) : (c.job kind).isSteady := by
  cases kind <;> rfl

theorem kind_job (c : Scene) (kind : Pulse.Kind) : (c.job kind).kind? c.simulation = some kind := by
  cases kind <;> simp [job, Job.kind?]

theorem fate_snoc (c : Scene) (k : Nat) (course : List Pulse) (p : Pulse) :
    c.fate k (course ++ [p]) = (c.fate k course).next c.timetable.born c.limit (c.devices - c.silent ≤ k) p :=
  fate_append _ _ _ _ _

/-- The work of a simulation makes the next lives of its devices. -/
theorem peopled_run (kind : Pulse.Kind) {f : Floor} {now : Int}
    (hp : Peopled c.start c.timetable.born c.simulation c.devices c.silent (c.fate · course) f)
    (hdated : ∀ k, (c.fate k course).Dated c.timetable.born now) (runs : List Run) :
    Peopled c.start c.timetable.born c.simulation c.devices c.silent (c.fate · (course ++ [⟨kind, now⟩]))
      (Floor.run (c.job kind) runs now f).1 := by
  simp only [fate_snoc]
  cases kind with
  | round => exact peopled_traffic hp fun k _ => hdated k
  | hush => exact peopled_silence hp
  | sweep => exact peopled_sweep hp

namespace Playing

theorem dated (hp : c.Playing course s) (k : Nat) : (c.fate k course).Dated c.timetable.born s.now :=
  hp.onTime.dated _ _

/-- Each task has its own work. -/
theorem task_inj (hp : c.Playing course s) (h : c.task kind = c.task kind') : kind = kind' := by
  obtain ⟨e, he, ht⟩ := hp.timely kind
  obtain ⟨e', he', ht'⟩ := hp.timely kind'
  rw [h] at he
  obtain rfl := Option.some.inj (he.symm.trans he')
  have hkind := congrArg (Job.kind? c.simulation) (ht.job.symm.trans ht'.job)
  rw [kind_job, kind_job] at hkind
  exact Option.some.inj hkind

/-- The work of a simulation wakes up on time, and moves its course on. -/
theorem wake (hp : c.Playing course s) (hmay : s.May (.time (.wake (c.task kind)))) :
    c.Playing (course ++ s.pulses c.simulation (.time (.wake (c.task kind))))
      (s.act (.time (.wake (c.task kind)))) := by
  obtain ⟨e, he, ht⟩ := hp.timely kind
  cases hdue : e.due? with
  | none =>
    have hidle : ∀ due, ¬s.timeline.Waits (c.task kind) due := by
      rintro due ⟨e', he', hdue'⟩
      obtain rfl := Option.some.inj (he.symm.trans he')
      cases hdue.symm.trans hdue'
    rw [pulses_of_not_waits hidle, List.append_nil, act_wake_of_not_waits hidle]
    exact hp
  | some due =>
    obtain rfl : due = s.now := ht.due_eq_now hdue (hmay due ⟨e, he, hdue⟩) hp.milli
    have hscheduled := ht.due.symm.trans hdue
    obtain ⟨stage, hplan, hstage⟩ := ht.plan _ _ hscheduled
    have hsteady : e.job.isSteady := ht.job ▸ c.isSteady_job kind
    have hkind : e.job.kind? c.simulation = some kind := ht.job ▸ c.kind_job kind
    rw [pulses_wake_steady he hsteady hdue hplan hkind]
    refine ⟨tended_act hmay hp.tended, peaceful_act hp.peaceful rfl, fun kind' => ?_, ?_,
      dvd_now_act hmay nofun hp.milli, ?_⟩
    · rw [getElem?_wake_steady he hsteady hdue hplan, now_wake, times_snoc]
      split
      · rename_i htask
        obtain rfl := hp.task_inj htask
        rw [if_pos rfl, List.length_append, List.length_singleton]
        exact ⟨_, rfl, ht.ran hdue hstage⟩
      · rename_i htask
        rw [if_neg fun (heq : kind = kind') => htask (congrArg c.task heq)]
        exact hp.timely kind'
    · obtain ⟨_, -, hround⟩ := hp.timely .round
      rw [now_wake]
      exact .pulse kind hp.onTime hscheduled hround.next
    · rw [(wake_steady he hsteady hdue hplan).2, ht.job]
      exact peopled_run kind hp.peopled hp.dated e.runs

/-- All other acts leave the devices alone. -/
theorem others (hp : c.Playing course s) (ha : a.isAside) (hne : ∀ kind, a ≠ .time (.wake (c.task kind))) :
    s.floor.Aside (s.act a).floor ∧ s.pulses c.simulation a = [] := by
  by_cases hwake : ∃ j, a = .time (.wake j)
  · obtain ⟨j, rfl⟩ := hwake
    by_cases hwaits : ∃ due, s.timeline.Waits j due
    · obtain ⟨due, e, he, hdue⟩ := hwaits
      have hjob : e.job.isAside := by
        refine (hp.peaceful j e he (Entry.isLive_of_due? hdue)).resolve_right ?_
        rintro ⟨kind, rfl⟩
        exact hne kind rfl
      exact ⟨Timeline.aside_wake (t := s.timeline) he hjob, pulses_of_isAside he hjob⟩
    · rw [act_wake_of_not_waits (not_exists.mp hwaits), pulses_of_not_waits (not_exists.mp hwaits)]
      exact ⟨.refl _, rfl⟩
  · refine ⟨aside_act hp.tended ha (not_exists.mp hwake), ?_⟩
    cases a with
    | time a =>
      cases a with
      | wake j => exact absurd ⟨j, rfl⟩ hwake
      | errand | clock | leap => rfl
    | deed | shutdown | startAttempt | conclude => rfl

/-- The clock does not pass what the work of a simulation waits for. -/
theorem timely_others (hp : c.Playing course s) (hmay : s.May a) (ha : a.isAside)
    (hne : a ≠ .time (.wake (c.task kind))) :
    ∃ e, (s.act a).agenda.entries[c.task kind]? = some e ∧
      e.Timely (c.job kind) (c.timetable.schedule kind) (times kind course).length (s.act a).now := by
  obtain ⟨e, he, ht⟩ := hp.timely kind
  have hentry : (s.act a).agenda.entries[c.task kind]? = some e := by
    refine steady_act hp.tended he (ht.job ▸ c.isSteady_job kind) ?_ ?_ hne
    · rintro rfl
      cases ha
    · rintro d rfl hstops
      cases d with
      | stopSweeper | stopSimulation => cases ha
      | _ => exact hstops
  refine ⟨e, hentry, ht.job, ht.due, fun t hschedule => ?_, ht.whole, ht.plan, ht.ascending⟩
  by_cases hclock : ∃ now, a = .time (.clock now)
  · obtain ⟨now, rfl⟩ := hclock
    have hmilli : 1000000 ∣ now := dvd_now_act hmay nofun hp.milli
    have hle := hmay.2.2.2 _ t ⟨e, he, ht.due.trans hschedule⟩
    rwa [Instant.floorMilli_of_dvd hmilli, Instant.ceilMilli_of_dvd (ht.whole _ t hschedule)] at hle
  · rw [now_act fun now => ⟨fun heq => hclock ⟨now, heq⟩, fun heq => by rw [heq] at ha; cases ha⟩]
    exact ht.next t hschedule

/-- Every act in its turn keeps a simulation at play. -/
theorem act (hp : c.Playing course s) (hmay : s.May a) (ha : a.isAside) :
    c.Playing (course ++ s.pulses c.simulation a) (s.act a) := by
  by_cases hwake : ∃ kind, a = .time (.wake (c.task kind))
  · obtain ⟨kind, rfl⟩ := hwake
    exact hp.wake hmay
  · have hne : ∀ kind, a ≠ .time (.wake (c.task kind)) := not_exists.mp hwake
    obtain ⟨haside, hpulses⟩ := hp.others ha hne
    rw [hpulses, List.append_nil]
    exact ⟨tended_act hmay hp.tended, peaceful_act hp.peaceful ha, fun kind => hp.timely_others hmay ha (hne kind),
      hp.onTime.wait (now_le_act hmay), dvd_now_act hmay (Act.not_leap_of_isAside ha) hp.milli,
      hp.peopled.same (congrArg (·[c.simulation]?) haside.simulations) haside.hub⟩

theorem play (hp : c.Playing course s) {acts : List Act} (hacts : s.InTurn acts) (haside : ∀ a ∈ acts, a.isAside) :
    c.Playing (course ++ Station.course c.simulation s acts) (s.play acts) := by
  induction acts generalizing s course with
  | nil =>
    rw [Station.course, List.append_nil]
    exact hp
  | cons a as ih =>
    rw [Station.course, ← List.append_assoc]
    exact ih (hp.act hacts.1 (haside a List.mem_cons_self)) hacts.2 fun b hb => haside b (List.mem_cons_of_mem a hb)

/-- Orders that are aside do not bring the clock to what the work of a simulation waits for. -/
theorem ahead_after (hp : c.Playing course s) (hrests : s.timeline.Rests) (hahead : ∀ kind, s.Ahead (c.task kind))
    {orders : List Order} (haside : ∀ o ∈ orders, o.isAside) (kind : Pulse.Kind) :
    (s.after orders).Ahead (c.task kind) := by
  induction orders generalizing s course with
  | nil => exact hahead kind
  | cons o os ih =>
    have ho : ∀ o' ∈ [o], o'.isAside := fun o' hmem => haside o' (List.mem_singleton.mp hmem ▸ List.mem_cons_self)
    have hp' := hp.play (inTurn_plan hrests [o]) (isAside_plan ho)
    rw [play_plan] at hp'
    refine ih hp' (rests_after hrests [o]) (fun kind => ?_) fun o' hmem => haside o' (List.mem_cons_of_mem o hmem)
    obtain ⟨e, he, -⟩ := hp.timely kind
    exact ahead_obey he hrests (hahead kind) o

/-- Between orders the next instant of each schedule is yet to come. -/
theorem now_lt (hp : c.Playing course s) (hahead : s.Ahead (c.task kind)) {t : Int}
    (ht : c.timetable.schedule kind (times kind course).length = some t) : s.now < t := by
  obtain ⟨e, he, htimely⟩ := hp.timely kind
  have hlt : Instant.floorMilli s.now < t := hahead t ⟨e, he, htimely.due.trans ht⟩
  rwa [Instant.floorMilli_of_dvd hp.milli] at hlt

end Playing

end Scene

end Station

end Liveness
