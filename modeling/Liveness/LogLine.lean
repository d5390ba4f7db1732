import Liveness.Link
import Liveness.Registry.Notice

/-! # Log lines -/

namespace Liveness

/-- How urgent a log line is. -/
inductive LogLevel where
  | info
  | warn
  | error
deriving DecidableEq, Repr

def LogLevel.text : LogLevel → String
  | .info => "INFO"
  | .warn => "WARN"
  | .error => "ERROR"

/-- What a report of the statistics warns of. -/
inductive Alarm where
  | none
  | highMemory
  | highCpu
deriving DecidableEq, Repr

namespace Alarm

def level : Alarm → LogLevel
  | .none => .info
  | .highMemory | .highCpu => .warn

def message : Alarm → String
  | .none => "Liveness stats"
  | .highMemory => "HIGH MEMORY: Daemon memory usage above threshold"
  | .highCpu => "HIGH CPU: Daemon CPU usage above threshold"

end Alarm

/-- What a callback leaves behind when it panics. -/
inductive Panic where
  | text (message : String)
  /-- Something that is no text. -/
  | noText
deriving DecidableEq, Repr

def Panic.message : Panic → String
  | .text m => m
  | .noText => "non-string panic payload"

/-- Whether a connection came up or went down. -/
inductive LinkState where
  | active
  | inactive
deriving DecidableEq, Repr

def LinkState.name : LinkState → String
  | .active => "Active"
  | .inactive => "Inactive"

/-- Everything worth a line in the log. -/
inductive LogLine where
  | deviceOnline (id : DeviceId) (device : String)
  | deviceReplaced (id : DeviceId) (device old : String)
  | deviceOffline (id : DeviceId) (reason : RemovalReason) (online : Span)
  | additionPanic (id : DeviceId) (panic : Panic)
  | removalPanic (id : DeviceId) (panic : Panic)
  | watcherPanic (id : DeviceId) (state : LinkState) (panic : Panic)
  | deviceExpired (id : DeviceId) (idle : Span)
  | closeFailed (id : DeviceId) (error : TransportError)
  | periodClamped (task : String) (period : Span)
  | sweeperStarted (expireAfter interval : Span)
  | sweeperStopped
  | sweeperRefused
  | timerStarted (period : Span) (fireImmediately : Bool)
  | timerRefused
  | timerSatisfied
  | attemptFailed (attempt : Nat) (error : String)
  | connected (attempt : Nat)
  | simulationStarted (devices silent : Nat) (silenceAfter : Span)
  | deviceSilent (id : DeviceId)
  | reporterStarted (interval : Span)

namespace LogLine

def level : LogLine → LogLevel
  | .additionPanic .. | .removalPanic .. | .watcherPanic .. => .error
  | .closeFailed .. | .periodClamped .. | .sweeperRefused | .timerRefused | .attemptFailed .. => .warn
  | _ => .info

def message : LogLine → String
  | .deviceOnline .. => "Device online"
  | .deviceReplaced .. => "Device replaced"
  | .deviceOffline .. => "Device offline"
  | .additionPanic .. => "State change listener panicked on addition"
  | .removalPanic .. => "State change listener panicked on removal"
  | .watcherPanic .. => "Active state listener panicked"
  | .deviceExpired .. => "Device expired"
  | .closeFailed .. => "Failed to close expired device"
  | .periodClamped .. => "Period below minimum, clamping"
  | .sweeperStarted .. => "Liveness sweeper started"
  | .sweeperStopped => "Liveness sweeper stopped"
  | .sweeperRefused => "Scheduler is shut down, liveness sweeper not started"
  | .timerStarted .. => "Reconnect timer started"
  | .timerRefused => "Scheduler is shut down, reconnect timer not started"
  | .timerSatisfied => "Connection established, reconnect timer cancelled"
  | .attemptFailed .. => "Reconnect attempt failed"
  | .connected .. => "Simulated connector connected"
  | .simulationStarted .. => "Simulation started"
  | .deviceSilent .. => "Simulated device went silent"
  | .reporterStarted .. => "Stats reporter started"

def millisText (s : Span) : String := toString s.millis

/-- The named details of a line. -/
def fields : LogLine → List (String × String)
  | .deviceOnline id device => [("device_id", id), ("device", device)]
  | .deviceReplaced id device old => [("device_id", id), ("device", device), ("replaced", old)]
  | .deviceOffline id reason online =>
    [("device_id", id), ("reason", reason.text), ("online_ms", millisText online)]
  | .additionPanic id panic | .removalPanic id panic =>
    [("device_id", id), ("panic", panic.message)]
  | .watcherPanic id state panic =>
    [("device_id", id), ("state", state.name), ("panic", panic.message)]
  | .deviceExpired id idle => [("device_id", id), ("idle_ms", millisText idle)]
  | .closeFailed id error => [("device_id", id), ("error", error.message)]
  | .periodClamped task period => [("task", task), ("period", period.shortText)]
  | .sweeperStarted expireAfter interval =>
    [("expire_after_ms", millisText expireAfter), ("sweep_interval_ms", millisText interval)]
  | .timerStarted period fireImmediately =>
    [("period_ms", millisText period), ("fire_immediately", if fireImmediately then "true" else "false")]
  | .attemptFailed attempt error => [("attempt", toString attempt), ("error", error)]
  | .connected attempt => [("attempt", toString attempt)]
  | .simulationStarted devices silent silenceAfter =>
    [("devices", toString devices), ("silent", toString silent),
      ("silence_after_ms", millisText silenceAfter)]
  | .deviceSilent id => [("device_id", id)]
  | .reporterStarted interval => [("interval_ms", millisText interval)]
  | .sweeperStopped | .sweeperRefused | .timerRefused | .timerSatisfied => []

/-- The device that a line about an eviction names. -/
def evicted? : LogLine → Option DeviceId
  | .deviceOffline id .. | .deviceExpired id _ | .closeFailed id _ | .removalPanic id _ => some id
  | _ => none

end LogLine

end Liveness
