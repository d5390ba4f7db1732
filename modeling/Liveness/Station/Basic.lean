import Liveness.Agenda.Run
import Liveness.Config.Basic
import Liveness.Connector
import Liveness.Hub.Connection
import Liveness.Hub.Sweep

/-! # All services together

A station is the agenda, the floor on which its work acts, and the sweeper. The floor holds what work
changes: the hub, the reconnect timers with their connectors, and the simulations.
-/

namespace Liveness

abbrev TimerId := Nat
abbrev ConnectorId := Nat
abbrev SimulationId := Nat

/-- The kinds of work that the services put on the agenda. -/
inductive Job where
  | sweep (limit : Span)
  /-- A report of the counts of a tally, under the load that is measured then, by the number of the report. -/
  | report (tally : Nat) (loads : Nat → Load)
  | traffic (simulation : SimulationId)
  | silence (simulation : SimulationId)
  /-- A check of a reconnect timer. -/
  | check (timer : TimerId) (connector : ConnectorId)
  /-- The start of a connect attempt, by the number that the timer gave it. -/
  | dial (timer : TimerId) (connector : ConnectorId) (number : Nat)
  /-- The end of a connect attempt. -/
  | answer (timer : TimerId) (connector : ConnectorId) (number : Nat) (attempt : Attempt)
  /-- Touches a device if told to, and panics on the run of a number if told to. -/
  | probe (touches : Option DeviceId) (panicsAt : Option Nat)
  /-- Notes the time under a name. -/
  | note (name : String)

/-- A reconnect timer and the handles that keep it. -/
structure Timer where
  settings : ReconnectSettings
  /-- A timer without a scheduler, which nothing changes. -/
  frozen : Bool := false
  task : Option EntryId := none
  inFlight : Bool := false
  attempts : Nat := 0
  handles : Nat := 1

namespace Timer

/-- A timer that never schedules anything. -/
def disabled : Timer := { settings := .disabled, frozen := true }

def isAutoConnect (t : Timer) : Bool := !t.frozen && t.settings.enabled

end Timer

/-- A synthetic device. -/
structure Peer where
  id : DeviceId
  link : LinkId
  talking : Bool := true
  /-- The number of its next packet. -/
  next : UInt64 := 0

/-- A running set of synthetic devices and the work that moves it. -/
structure Simulation where
  peers : Array Peer
  traffic : EntryId
  silence : EntryId
  /-- How many devices, from the last one, fall silent. -/
  silent : Nat

/-- What work acts on. -/
structure Floor where
  hub : Hub := {}
  timers : Array Timer := #[]
  connectors : Array Connector := #[]
  simulations : Array Simulation := #[]
  /-- Names and the times noted under them. -/
  notes : Array (String × Int) := #[]

structure Sweeper where
  settings : SweepSettings := {}
  task : Option EntryId := none

structure Station where
  agenda : Agenda Job := {}
  floor : Floor := {}
  sweeper : Sweeper := {}

namespace Floor

def onHub {α : Type} (f : Floor) (g : Hub → α × Hub) : α × Floor :=
  let (a, hub) := g f.hub
  (a, { f with hub })

def log (f : Floor) (now : Int) (line : LogLine) : Floor := { f with hub := f.hub.log now line }

def modifyTimer (f : Floor) (i : TimerId) (g : Timer → Timer) : Floor :=
  { f with timers := f.timers.modify i g }

end Floor

namespace Station

def now (s : Station) : Int := s.agenda.now

def hub (s : Station) : Hub := s.floor.hub

def onHub {α : Type} (s : Station) (g : Hub → α × Hub) : α × Station :=
  let (a, floor) := s.floor.onHub g
  (a, { s with floor })

def log (s : Station) (line : LogLine) : Station := { s with floor := s.floor.log s.now line }

/-- Takes on recurring work; a period that is too short is mentioned in the log. -/
def every (s : Station) (name : String) (job : Job) (delay period : Span) : EntryId × Station :=
  let s := if period.asPeriod = period then s else s.log (.periodClamped name period)
  let (i, agenda) := s.agenda.every name job delay period
  (i, { s with agenda })

def once (s : Station) (name : String) (job : Job) (delay : Span) : EntryId × Station :=
  let (i, agenda) := s.agenda.once name job delay
  (i, { s with agenda })

def cancel (s : Station) (i : EntryId) : Station := { s with agenda := s.agenda.cancel i }

/-- Whether there is a task and it has not been cancelled. -/
def isScheduled (s : Station) (task : Option EntryId) : Bool :=
  task.any fun i => !s.agenda.isCancelled i

end Station

end Liveness
