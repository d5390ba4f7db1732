import Liveness.Proofs.Agenda.Growth
import Liveness.Proofs.Hub.Run
import Liveness.Station.Clock
import Liveness.Station.Reconnect
import Liveness.Station.Simulation
import Liveness.Station.Sweeping

/-!
# Runs of a station

Callers give a station *orders*.  Some are *deeds* of an instant, some take time;
all of them come down to *acts*, which are deeds and the acts of the timeline, and
`Station.play_plan` says that playing the acts is carrying out the orders.  Between
two orders no errand is left to begin, and every act comes in its turn
(`Station.inTurn_plan`).  What is claimed of all moments of a run is proved of each
act, then.
-/

namespace Liveness

namespace Station

/-- What callers do to a station in an instant. -/
inductive Deed where
  | onHub (op : Hub.Op)
  | sweepNow
  | startSweeper
  | stopSweeper
  | setSweeper (settings : SweepSettings)
  /-- Takes on a recurring task that may touch a device and may panic. -/
  | every (name : String) (touches : Option DeviceId) (panicsAt : Option Nat) (delay period : Span)
  | once (name : String) (touches : Option DeviceId) (panicsAt : Option Nat) (delay : Span)
  /-- Cancels a task of a caller or a reporter; the services keep theirs to themselves. -/
  | cancel (i : EntryId)
  | note (name : String) (delay : Span)
  /-- Reports the statistics, under the load of the process at each report. -/
  | startReporter (interval : Span) (loads : Nat → Load)
  | startSimulation (plan : SimulationPlan)
  | stopSimulation (i : SimulationId)
  /-- Makes a reconnect timer, without settings one that is never at work. -/
  | addTimer (settings : Option ReconnectSettings)
  | startTimer (i : TimerId) (c : ConnectorId)
  | stopTimer (i : TimerId)
  | setAutoConnect (i : TimerId) (on : Bool)
  | setTimerPeriod (i : TimerId) (period : Span)
  | holdTimer (i : TimerId)
  | dropTimer (i : TimerId)
  | addConnector (c : Connector)
  | setConnected (c : ConnectorId) (up : Bool)

/-- Work that callers can cancel. -/
def isFree (s : Station) (i : EntryId) : Bool :=
  match s.agenda.entries[i]? with
  | some e =>
    match e.job with
    | .probe .. | .report .. => true
    | _ => false
  | none => false

/-- The station after a deed. -/
def perform (s : Station) : Deed → Station
  | .onHub op => { s with floor := { s.floor with hub := s.hub.step s.now op } }
  | .sweepNow => s.sweepNow.2
  | .startSweeper => s.startSweeper.2
  | .stopSweeper => s.stopSweeper.2
  | .setSweeper settings =>
    match s.setSweeper settings with
    | .ok s => s
    | .error _ => s
  | .every name touches panicsAt delay period => (s.every name (.probe touches panicsAt) delay period).2
  | .once name touches panicsAt delay => (s.once name (.probe touches panicsAt) delay).2
  | .cancel i => if s.isFree i then s.cancel i else s
  | .note name delay => s.noteAfter name delay
  | .startReporter interval loads => (s.startReporter interval loads).2
  | .startSimulation plan => (s.startSimulation plan).2
  | .stopSimulation i => s.stopSimulation i
  | .addTimer settings =>
    let timer := match settings with
      | some settings => { settings }
      | none => .disabled
    { s with floor := { s.floor with timers := s.floor.timers.push timer } }
  | .startTimer i c => if c < s.floor.connectors.size then (s.startTimer i c).2 else s
  | .stopTimer i => (s.stopTimer i).2
  | .setAutoConnect i on => s.setAutoConnect i on
  | .setTimerPeriod i period => s.setTimerPeriod i period
  | .holdTimer i => s.holdTimer i
  | .dropTimer i => s.dropTimer i
  | .addConnector c => { s with floor := { s.floor with connectors := s.floor.connectors.push c } }
  | .setConnected c up =>
    { s with floor := { s.floor with connectors := s.floor.connectors.modify c (Connector.setConnected up) } }

/-- What callers ask of a station. -/
inductive Order where
  | deed (d : Deed)
  /-- Waits until all that is ready is done. -/
  | settle
  | advance (amount : Span)
  | jump (amount : Span)
  | shutdown
  /-- Makes an attempt at a connector and waits for its end. -/
  | connect (c : ConnectorId)

/-- The station after an order. -/
def obey (s : Station) : Order → Station
  | .deed d => s.perform d
  | .settle => s.settle
  | .advance amount => s.advance amount
  | .jump amount => s.jump amount
  | .shutdown => s.shutdown
  | .connect c => (s.connect c).2

/-- The station after a list of orders. -/
def after (s : Station) (orders : List Order) : Station := orders.foldl obey s

/-- A station that has just been opened, whose registry is gone over in some order. -/
def opened (settings : SweepSettings) (walk : Walk := .byId) : Station :=
  { floor := { hub := { walk } }, sweeper := { settings } }

/-! ## Acts -/

/-- One thing that happens to a station. -/
inductive Act where
  | deed (d : Deed)
  | time (a : Timeline.Act)
  | shutdown
  /-- A caller's own attempt at a connector starts. -/
  | startAttempt (c : ConnectorId)
  | conclude (c : ConnectorId) (attempt : Attempt)

/-- The part of a station that its work acts on. -/
def timeline (s : Station) : Timeline Job Floor := ⟨s.agenda, s.floor⟩

/-- The station after an act. -/
def act (s : Station) : Act → Station
  | .deed d => s.perform d
  | .time a => s.onTimeline fun t => Timeline.act Floor.worker t a
  | .shutdown => s.onTimeline (Timeline.shutdown Floor.worker)
  | .startAttempt c => { s with floor := (s.floor.startAttempt s.now c).2.2 }
  | .conclude c attempt => { s with floor := (s.floor.conclude s.now c attempt).2 }

/-- The station after one run of a piece of work. -/
def runOnce (s : Station) (i : EntryId) (due : Int) : Station :=
  s.onTimeline fun t => Timeline.runOnce Floor.worker i t due

/-- The stations before and after each run of a piece of work. -/
def runsOf (i : EntryId) : Station → List Int → List (Station × Station)
  | _, [] => []
  | s, due :: dues => (s, s.runOnce i due) :: runsOf i (s.runOnce i due) dues

/-- The stations before and after each run of a piece of work that wakes up. -/
def runs (s : Station) (i : EntryId) : List (Station × Station) :=
  match s.agenda.entries[i]? with
  | none => []
  | some e =>
    match e.due? with
    | none => []
    | some due => s.runsOf i (e.plan due s.now).1

/-- The station after a list of acts. -/
def play (s : Station) (acts : List Act) : Station := acts.foldl act s

@[simp] theorem play_nil (s : Station) : s.play [] = s := rfl

@[simp] theorem play_cons (s : Station) (a : Act) (as : List Act) : s.play (a :: as) = (s.act a).play as :=
  rfl

theorem play_append (s : Station) (as bs : List Act) : s.play (as ++ bs) = (s.play as).play bs :=
  List.foldl_append

/-- The acts of an advance. -/
def advancing (s : Station) (amount : Span) : List Act :=
  (Timeline.advanceActs Floor.worker (Cadence.stop amount s.now) (amount.nanos / 1000000 + 3) s.timeline).map .time

/-- The acts that an order comes down to. -/
def acts (s : Station) : Order → List Act
  | .deed d => [.deed d]
  | .settle => (Timeline.settleActs Floor.worker s.timeline).map .time
  | .advance amount => s.advancing amount
  | .jump amount => (Timeline.jumpActs Floor.worker amount s.timeline).map .time
  | .shutdown =>
    .shutdown :: (Timeline.settleActs Floor.worker (s.act .shutdown).timeline).map .time
  | .connect c =>
    let (attempt, latency, _) := s.floor.startAttempt s.now c
    .startAttempt c ::
      ((if latency.isZero then [] else (s.act (.startAttempt c)).advancing latency) ++ [.conclude c attempt])

/-- The acts that orders come down to. -/
def plan : Station → List Order → List Act
  | _, [] => []
  | s, o :: os => s.acts o ++ plan (s.obey o) os

theorem after_append (s : Station) (os os' : List Order) : s.after (os ++ os') = (s.after os).after os' :=
  List.foldl_append

theorem plan_append (s : Station) (os os' : List Order) :
    s.plan (os ++ os') = s.plan os ++ (s.after os).plan os' := by
  induction os generalizing s with
  | nil => rfl
  | cons o os ih => rw [List.cons_append, plan, plan, ih, List.append_assoc]; rfl

theorem play_time (s : Station) (as : List Timeline.Act) :
    s.play (as.map .time) = s.onTimeline fun t => Timeline.play Floor.worker t as := by
  induction as generalizing s with
  | nil => rfl
  | cons a as ih => rw [List.map_cons, play_cons, ih]; rfl

theorem play_advancing (s : Station) (amount : Span) : s.play (s.advancing amount) = s.advance amount := by
  rw [advancing, play_time]
  exact congrArg (fun t : Timeline Job Floor => Station.mk t.agenda t.host s.sweeper)
    (Timeline.play_advanceActs Floor.worker _ _ _)

/-- Playing its acts is carrying out an order. -/
theorem play_acts (s : Station) (o : Order) : s.play (s.acts o) = s.obey o := by
  cases o with
  | deed d => rfl
  | settle =>
    rw [acts, play_time]
    exact congrArg (fun t : Timeline Job Floor => Station.mk t.agenda t.host s.sweeper)
      (Timeline.play_settleActs Floor.worker _)
  | advance amount => exact play_advancing s amount
  | jump amount =>
    rw [acts, play_time]
    exact congrArg (fun t : Timeline Job Floor => Station.mk t.agenda t.host s.sweeper)
      (Timeline.play_jumpActs Floor.worker amount _)
  | shutdown =>
    rw [acts, play_cons, play_time]
    exact congrArg (fun t : Timeline Job Floor => Station.mk t.agenda t.host s.sweeper)
      (Timeline.play_settleActs Floor.worker _)
  | connect c =>
    simp only [acts, obey, connect, play_cons, play_append]
    split
    · rfl
    · rw [play_advancing]
      rfl

theorem play_plan (s : Station) (os : List Order) : s.play (s.plan os) = s.after os := by
  induction os generalizing s with
  | nil => rfl
  | cons o os ih => rw [plan, play_append, play_acts, ih]; rfl

/-- The acts that an order may come down to. -/
inductive Order.Brings : Order → Act → Prop
  | deed (d : Deed) : Brings (.deed d) (.deed d)
  | time {o : Order} {a : Timeline.Act} : (∀ now, a ≠ .leap now) → Brings o (.time a)
  /-- The clock leaps only in a jump. -/
  | leap (amount : Span) (now : Int) : Brings (.jump amount) (.time (.leap now))
  | shutdown : Brings .shutdown .shutdown
  | startAttempt (c : ConnectorId) : Brings (.connect c) (.startAttempt c)
  | conclude (c : ConnectorId) (attempt : Attempt) : Brings (.connect c) (.conclude c attempt)

theorem brings_of_mem_acts {s : Station} {o : Order} {a : Act} (ha : a ∈ s.acts o) : o.Brings a := by
  have htime : ∀ {o : Order} {as : List Timeline.Act}, (∀ now, .leap now ∉ as) → a ∈ as.map Act.time → o.Brings a := by
    rintro o as has ha
    obtain ⟨b, hb, rfl⟩ := List.mem_map.mp ha
    exact .time fun now heq => has now (heq ▸ hb)
  have hsettle : ∀ {o : Order} (s : Station),
      a ∈ (Timeline.settleActs Floor.worker s.timeline).map Act.time → o.Brings a :=
    fun s => htime (Timeline.leap_not_mem_settleActs Floor.worker s.timeline)
  have hadvance : ∀ {o : Order} (s : Station) amount, a ∈ s.advancing amount → o.Brings a :=
    fun s amount => htime (Timeline.leap_not_mem_advanceActs Floor.worker _ _ s.timeline)
  cases o with
  | deed d =>
    obtain rfl := List.mem_singleton.mp ha
    exact .deed d
  | settle => exact hsettle s ha
  | advance amount => exact hadvance s amount ha
  | jump amount =>
    obtain ⟨b, -, rfl⟩ := List.mem_map.mp ha
    cases b with
    | leap now => exact .leap amount now
    | wake | errand | clock => exact .time nofun
  | shutdown =>
    rcases List.mem_cons.mp ha with rfl | ha
    · exact .shutdown
    · exact hsettle _ ha
  | connect c =>
    simp only [acts, List.mem_cons, List.mem_append, List.not_mem_nil, or_false] at ha
    rcases ha with rfl | ha | rfl
    · exact .startAttempt c
    · split at ha
      · cases ha
      · exact hadvance _ _ ha
    · exact .conclude c _

theorem brings_of_mem_plan {s : Station} {orders : List Order} {a : Act} (ha : a ∈ s.plan orders) :
    ∃ o ∈ orders, o.Brings a := by
  induction orders generalizing s with
  | nil => cases ha
  | cons o os ih =>
    rcases List.mem_append.mp ha with ha | ha
    · exact ⟨o, List.mem_cons_self, brings_of_mem_acts ha⟩
    · obtain ⟨o', ho', hbrings⟩ := ih ha
      exact ⟨o', List.mem_cons_of_mem o ho', hbrings⟩

/-- The deeds among the acts of orders are those that were ordered. -/
theorem deed_mem_plan {s : Station} {orders : List Order} {d : Deed} (hd : .deed d ∈ s.plan orders) :
    .deed d ∈ orders := by
  obtain ⟨o, ho, hbrings⟩ := brings_of_mem_plan hd
  cases hbrings
  exact ho

end Station

end Liveness
