import Liveness.Station.Basic

/-! # The commands of a scenario

Commands call connections, connectors, timers, tasks and listeners by names.
-/

namespace Liveness

/-- What decides on a removal. -/
inductive Condition where
  | always (drops : Bool)
  /-- The device is bound to a connection. -/
  | boundTo (link : String)
  /-- The device was silent for longer than this. -/
  | idleOver (limit : Span)
  | panics

/-- What the maker of a device does when it is asked. -/
inductive Making where
  /-- It makes a device of an id of its own choice. -/
  | makes (id : DeviceId) (attributes : Attributes)
  | fails (reason : String)
  | panics

/-- A listener to the registry. -/
inductive Listener where
  | logger
  /-- It counts, and its counts are taken by a name. -/
  | tally (name : String)
  | quiet
  | panics (panic : Panic)

/-- A listener to the connections. -/
inductive LinkListener where
  | bridge
  | panics (panic : Panic)

/-- What a task does: it may touch a device, and panic on one of its runs. -/
structure Probe where
  touches : Option DeviceId := none
  panicsAt : Option Nat := none

/-- Commands to the registry. -/
inductive RegistryCommand where
  | put (id : DeviceId) (link : String) (attributes : Attributes)
  | get (id : DeviceId)
  | contains (id : DeviceId)
  | size
  | ids
  | serials
  | touch (id : DeviceId)
  | remove (id : DeviceId) (reason : RemovalReason)
  | removeSilently (id : DeviceId)
  | removeIf (id : DeviceId) (reason : RemovalReason) (condition : Condition)
  | getOrCreate (id : DeviceId) (link : String) (making : Making)
  | getOrCreateFrom (id : DeviceId) (attributes : Attributes)
  | subscribe (name : String)
  | unsubscribe (name : String)
  | drain (name : String)
  | listen (listener : Listener)
  | takeChurn (name : String)
  | summary

/-- Commands to a device. -/
inductive DeviceCommand where
  | send (size : Nat)
  | close
  | sequence (n : UInt64)
  | attribute (key : String)
  | attributes
  | addresses

/-- Commands to connections. -/
inductive LinkCommand where
  | openAs (name : String) (link : Link)
  | close (name : String)
  | state (name : String)
  | same (a b : String)
  | reportActive (id : DeviceId) (name : String)
  | reportInactive (name : String)
  | isActive (name : String)
  | countActive
  | watch (listener : LinkListener)

/-- Commands to the sweeper. -/
inductive SweeperCommand where
  | start
  | stop
  | isRunning
  | drop
  | sweepNow
  | settings
  | set (settings : SweepSettings)

/-- Commands to a reconnect timer. -/
inductive TimerCommand where
  | start (connector : String)
  | stop
  | setAutoConnect (on : Bool)
  | setPeriod (period : Span)
  | state
  | clone (copy : String)

/-- Commands to a connector. -/
inductive ConnectorCommand where
  | state
  | setConnected (on : Bool)
  | connect

/-- Commands about the work on the agenda. -/
inductive TaskCommand where
  | every (name : String) (delay period : Span) (probe : Probe)
  | once (name : String) (delay : Span) (probe : Probe)
  | cancel (name : String)
  | state (name : String)
  | note (name : String) (delay : Span)
  | countActive
  | isShutdown
  | shutdown

inductive Command where
  | registry (c : RegistryCommand)
  | device (id : DeviceId) (c : DeviceCommand)
  | link (c : LinkCommand)
  | sweeper (c : SweeperCommand)
  /-- A sweep that does not need the sweeper, with silence measured up to an instant near now. -/
  | sweepAt (limit : Span) (offset : Int)
  | timer (name : String) (c : TimerCommand)
  | dropTimer (name : String)
  | connector (name : String) (c : ConnectorCommand)
  | task (c : TaskCommand)
  | startReporter (interval : Span)
  | stopReporter
  | startSimulation (plan : SimulationPlan)
  | talking
  | stopSimulation
  | advance (amount : Span)
  | jump (amount : Span)
  | state

end Liveness
