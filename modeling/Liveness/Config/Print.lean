import Liveness.Config.Basic
import Liveness.Toml.Writer

/-! # Writing a configuration as a document -/

namespace Liveness

namespace Config

/-- Documents hold integers of 64 bits with a sign. -/
def millisText (s : Span) : Except ConfigError String :=
  if s.millis ≤ 9223372036854775807 then .ok (toString s.millis) else .error .unwritable

def flagText (b : Bool) : String := if b then "true" else "false"

/-- The document of a configuration: every field in a fixed order, spans in whole milliseconds. -/
def toToml (c : Config) : Except ConfigError String := do
  let expireAfter ← millisText c.sweep.expireAfter
  let interval ← millisText c.sweep.interval
  let period ← millisText c.reconnect.period
  let reportInterval ← millisText c.report.interval
  .ok ("log_level = " ++ String.ofList (Toml.writeString c.logLevel.toList) ++ "\n\n"
    ++ "[sweep]\nexpire_after_ms = " ++ expireAfter
    ++ "\nsweep_interval_ms = " ++ interval ++ "\n\n"
    ++ "[reconnect]\nenabled = " ++ flagText c.reconnect.enabled
    ++ "\nperiod_ms = " ++ period
    ++ "\nfire_immediately = " ++ flagText c.reconnect.fireImmediately ++ "\n\n"
    ++ "[stats]\ninterval_ms = " ++ reportInterval ++ "\n")

end Config

end Liveness
