import Liveness.Station.Clock
import Liveness.Station.Reconnect
import Liveness.Station.Simulation
import Liveness.Station.Sweeping

/-! # The services as a daemon runs them -/

namespace Liveness

namespace Station

/-- All services of a configuration, started at the beginning of the clock. Changes of the registry go
to the log, and the registry follows the connections. With a simulation there is also a connector that
refuses a number of attempts. -/
def ofConfig (c : Config) (simulation : Option (SimulationPlan × Nat)) : Station :=
  let timer : Timer := if c.reconnect.enabled then { settings := c.reconnect } else .disabled
  let refusals := (simulation.map (·.2)).getD 0
  let s : Station :=
    { floor :=
        { hub := { observers := [{ role := .logger }], watchers := [{ role := .bridge }] }
          timers := #[timer]
          connectors := #[.refusing { refusals }] }
      sweeper := { settings := c.sweep } }
  let (_, s) := s.startSweeper
  let (_, s) := s.startReporter c.report.interval
  match simulation with
  | none => s
  | some (plan, _) =>
    let (_, s) := s.startTimer 0 0
    (s.startSimulation plan).2

/-- Takes the happenings since the last time. -/
def takeTrace (s : Station) : List Happening × Station :=
  (s.hub.trace.toList.map (·.what), { s with floor.hub.trace := #[] })

end Station

namespace Happening

def fieldsText (fields : List (String × String)) : String :=
  String.join (fields.map fun (name, value) => s!" {name}={value}")

/-- The line that a daemon writes about a happening. -/
def logText? : Happening → Option String
  | .logged line => some (s!"{line.level.text} {line.message}" ++ fieldsText line.fields)
  | .reported alarm devices churn =>
    some (s!"{alarm.level.text} {alarm.message}" ++ fieldsText
      [("devices", toString devices), ("added", toString churn.added),
        ("replaced", toString churn.replaced), ("removed", toString churn.removed),
        ("expired", toString churn.expired), ("disconnected", toString churn.disconnected)])
  | .observed .. | .watched .. => none

end Happening

end Liveness
