import Liveness.Station.Work

/-! # Synthetic devices -/

namespace Liveness.Station

/-- Where synthetic devices connect to. -/
def simulationEndpoint : Address := .loopback 9000

/-- Where a synthetic device connects from; the numbers end at the largest there is. -/
def peerAddress (k : Nat) : Address := .loopback (min (40000 + k) 65535)

/-- The name of a synthetic device, with at least four digits. -/
def peerId (k : Nat) : DeviceId :=
  let digits := toString k
  "sim-" ++ String.ofList (List.replicate (4 - digits.length) '0') ++ digits

/-- Brings up the connection of a synthetic device. -/
def openPeer (h : Hub) (k : Nat) : Peer × Hub :=
  let (link, h) := h.openLink (.counting { peer := peerAddress k, endpoint := simulationEndpoint })
  ({ id := peerId k, link }, h)

/-- Brings up a number of synthetic devices, then reports them all up. -/
def openPeers (h : Hub) (now : Int) (count : Nat) : Array Peer × Hub :=
  let (peers, h) := (List.range count).foldl
    (fun (peers, h) k => let (p, h) := openPeer h k; (peers.push p, h)) (#[], h)
  (peers, peers.foldl (fun h p => (h.onActive now p.id p.link).2) h)

/-- Starts the synthetic devices of a plan. No more of them fall silent than there are. -/
def startSimulation (s : Station) (plan : SimulationPlan) : SimulationId × Station :=
  let i := s.floor.simulations.size
  let (peers, s) := s.onHub (openPeers · s.now plan.devices)
  let (traffic, s) := s.every "sim-traffic" (.traffic i) plan.interval plan.interval
  let (silence, s) := s.once "sim-silence" (.silence i) plan.silenceAfter
  let silent := min plan.silent plan.devices
  let s := s.log (.simulationStarted plan.devices silent plan.silenceAfter)
  let simulation := { peers, traffic, silence, silent : Simulation }
  (i, { s with floor := { s.floor with simulations := s.floor.simulations.push simulation } })

/-- Ends the traffic of a simulation. Its devices stay as they are. -/
def stopSimulation (s : Station) (i : SimulationId) : Station :=
  match s.floor.simulations[i]? with
  | some sim => (s.cancel sim.traffic).cancel sim.silence
  | none => s

/-- How many devices of a simulation have not fallen silent. -/
def talking (s : Station) (i : SimulationId) : Nat :=
  match s.floor.simulations[i]? with
  | some sim => (sim.peers.filter (·.talking)).size
  | none => 0

end Liveness.Station
