import Liveness.Scenario.Journal
import Liveness.Station.Sweeping

/-! # The answers of a scenario -/

namespace Liveness

/-- What can be seen of a device. Times are in whole milliseconds. -/
structure DeviceView where
  serial : Nat
  id : DeviceId
  /-- The first name of its connection. -/
  link : Option String
  lastSeen : Nat
  onlineFor : Nat
  sequence : Option UInt64
  text : String

/-- What can be seen of a reconnect timer. -/
structure TimerView where
  isScheduled : Bool
  isAutoConnect : Bool
  settings : ReconnectSettings
  attempts : Nat
  inFlight : Bool

/-- What can be seen of a task. -/
structure TaskView where
  name : String
  isCancelled : Bool
  /-- When it ran, in whole milliseconds. -/
  runs : List Nat

/-- All that can be seen of a world, by names. -/
structure WorldView where
  time : Nat
  devices : List DeviceView
  active : Nat
  /-- Connections, and whether they are up. -/
  links : List (String × Link × Bool)
  /-- Nothing once the sweeper was dropped. -/
  isSweeping : Option Bool
  timers : List (String × TimerView)
  connectors : List (String × Connector)
  tasks : List (String × TaskView)
  /-- Times noted under a name. -/
  notes : List (String × List Nat)

/-- Why a command came to nothing. -/
inductive Failure where
  | noDevice
  | noFactory
  | unknownName
  | transport (e : TransportError)
  | factory (e : FactoryError)
  | settings (r : SettingsRefusal)
  | connect (r : ConnectResult)
  | panic (message : String)

namespace TransportError

def name : TransportError → String
  | .closed => "Closed"
  | .bufferFull _ => "BufferFull"
  | .other _ => "Other"

end TransportError

namespace ConfigError

def name : ConfigError → String
  | .unreadable => "Io"
  | .malformed => "Parse"
  | .unwritable => "Serialize"
  | .zero _ => "Invalid"

end ConfigError

namespace SettingsRefusal

def name : SettingsRefusal → String
  | .invalid e => e.name
  | .running => "Running"

def message? : SettingsRefusal → Option String
  | .invalid e => e.message?
  | .running => some "sweeper is running; stop it before changing its configuration"

end SettingsRefusal

namespace Failure

def name : Failure → String
  | .noDevice => "NoDevice"
  | .noFactory => "NoFactory"
  | .unknownName => "BadInput"
  | .transport e => e.name
  | .factory _ => "Factory"
  | .settings r => r.name
  | .connect (.io _) => "Io"
  | .connect _ => "Failed"
  | .panic _ => "panic"

def message? : Failure → Option String
  | .noDevice | .unknownName => none
  | .noFactory => some "no device factory configured"
  | .transport e => some e.message
  | .factory e => some e.message
  | .settings r => r.message?
  | .connect r => r.error?
  | .panic message => some message

end Failure

inductive Answer where
  | nothing
  | ok
  | failed (f : Failure)
  | flag (b : Bool)
  | number (n : Nat)
  | numbers (ns : List Nat)
  | texts (ts : List String)
  | size (n : Nat)
  | device (d : Option DeviceView)
  /-- Whether a callback was run, and what came of the command. -/
  | asked (called : Bool) (result : Except Failure (Option DeviceView))
  | events (lost : Nat) (events : List DeviceEvent)
  | churn (c : Churn)
  | sequence (status : SequenceStatus) (last : Option UInt64)
  | attribute (value : Option Json)
  | attributes (attributes : Attributes)
  | addresses (peer endpoint : Option Address)
  | link (l : Link)
  | connector (c : Connector)
  | timer (t : TimerView)
  | task (t : TaskView)
  | swept (r : SweepReport)
  | settings (s : SweepSettings)
  | world (w : WorldView)

namespace Answer

def ofDelivery : Delivery → Answer
  | .ok _ => .ok
  | .error e => .failed (.transport e)

def ofConnect : ConnectResult → Answer
  | .ok => .ok
  | .panicked message => .failed (.panic message)
  | r => .failed (.connect r)

end Answer

end Liveness
