import Liveness.CommandLine.Run
import Liveness.Files
import Liveness.Main
import Liveness.Proofs.Config.RoundTrip
import Liveness.Proofs.Hub.Expiry
import Liveness.Proofs.Hub.Keys
import Liveness.Proofs.Hub.Lifecycle
import Liveness.Proofs.Hub.Mirror
import Liveness.Proofs.Hub.Panics
import Liveness.Proofs.Hub.Sequences
import Liveness.Proofs.Hub.Sweep
import Liveness.Proofs.Registry.Replay
import Liveness.Proofs.Station.EndToEnd
import Liveness.Proofs.Station.Eviction
import Liveness.Proofs.Station.Failures
import Liveness.Proofs.Station.FixedRate
import Liveness.Proofs.Station.Interference
import Liveness.Proofs.Station.Reports
import Liveness.Proofs.Station.Rounds
import Liveness.Proofs.Station.Schedule
import Liveness.Proofs.Station.Shutdown
import Liveness.Proofs.Station.SingleFlight
import Liveness.Proofs.Station.Visits
import Liveness.Race
import Liveness.Scenario.Perform
import Liveness.Proofs.Agenda.Twins
import Liveness.Proofs.Hub.Twins
import Liveness.Proofs.Station.Twins
import Liveness.Proofs.Station.Bursts
import Liveness.Proofs.Station.TimerStates
import Liveness.Proofs.Station.SweeperStates
import Liveness.Proofs.Station.Apart
import Liveness.Proofs.Station.Launches
import Liveness.Proofs.Station.Pace
import Liveness.Proofs.Station.Connectors
import Liveness.Proofs.Station.Retries
import Liveness.Proofs.Config.Truncation
import Liveness.Proofs.Hub.Races
import Liveness.Proofs.Registry.Subscribers
import Liveness.Proofs.Agenda.Tasks
import Liveness.Proofs.Agenda.OneShots
import Liveness.Proofs.Agenda.Cancellation
import Liveness.Proofs.Config.KnownKeys
import Liveness.Proofs.Toml.Comments
import Liveness.Proofs.CommandLine.Printed
