import Liveness.Span

/-! # Configuration of the services -/

namespace Liveness

/-- When a silent device is removed, and how often silence is looked for. -/
structure SweepSettings where
  expireAfter : Span := Span.ofMillis 5000
  interval : Span := Span.ofMillis 1000
deriving DecidableEq, Inhabited

/-- How an outbound connection is brought back. -/
structure ReconnectSettings where
  enabled : Bool := true
  period : Span := Span.ofMillis 10000
  fireImmediately : Bool := true
deriving DecidableEq, Inhabited

/-- How often statistics are reported. -/
structure ReportSettings where
  interval : Span := Span.ofMillis 5000
deriving DecidableEq, Inhabited

/-- All settings; `logLevel` is a filter for log lines. -/
structure Config where
  logLevel : String := "info"
  sweep : SweepSettings := {}
  reconnect : ReconnectSettings := {}
  report : ReportSettings := {}
deriving DecidableEq, Inhabited

/-- Why a configuration could not be had. -/
inductive ConfigError where
  /-- The file is there but cannot be read as text. -/
  | unreadable
  /-- The text is no document of the expected shape. -/
  | malformed
  /-- A number is too large for the document. -/
  | unwritable
  /-- A span that must not be zero is. -/
  | zero (field : String)
deriving DecidableEq, Repr

namespace ConfigError

/-- The text of an error, where it does not come from the system. -/
def message? : ConfigError → Option String
  | .zero field => some s!"invalid {field}: must be greater than zero"
  | _ => none

end ConfigError

/-- Refuses a span of no length. -/
def requirePositive (field : String) (s : Span) : Except ConfigError Unit :=
  if s.isZero then .error (.zero field) else .ok ()

namespace SweepSettings

def validate (s : SweepSettings) : Except ConfigError Unit := do
  requirePositive "sweep.expire_after_ms" s.expireAfter
  requirePositive "sweep.sweep_interval_ms" s.interval

end SweepSettings

namespace ReconnectSettings

/-- Settings that reconnect with a period. -/
def every (period : Span) : ReconnectSettings := { period }

/-- Settings that never reconnect. -/
def disabled : ReconnectSettings := { enabled := false }

/-- The wait before the first check. -/
def initialDelay (s : ReconnectSettings) : Span := if s.fireImmediately then Span.zero else s.period

/-- The period counts only when reconnecting is on. -/
def validate (s : ReconnectSettings) : Except ConfigError Unit :=
  if s.enabled then requirePositive "reconnect.period_ms" s.period else .ok ()

end ReconnectSettings

namespace Config

/-- The first span that is zero though it must not be, in a fixed order of the fields. -/
def validate (c : Config) : Except ConfigError Unit := do
  c.sweep.validate
  c.reconnect.validate
  requirePositive "stats.interval_ms" c.report.interval

end Config

/-- Synthetic devices, the last of which fall silent after a while. -/
structure SimulationPlan where
  devices : Nat := 8
  silent : Nat := 2
  /-- The time between two rounds of traffic. -/
  interval : Span := Span.ofMillis 500
  silenceAfter : Span := Span.ofMillis 3000
deriving DecidableEq, Repr

end Liveness
