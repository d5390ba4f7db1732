import Liveness.Station.Basic

/-! # What the work of a station does -/

namespace Liveness.Floor

/-- A round of traffic for one synthetic device: it is seen, and sends the number of its packet. A
device that was evicted stops talking and its connection is reported down. -/
def deliver (now : Int) (h : Hub) (p : Peer) : Peer × Hub :=
  match h.registry.get? p.id with
  | none =>
    if p.talking || h.isActive p.link then
      let (_, h) := h.closeLink p.link
      let (_, h) := h.onInactive now p.link
      ({ p with talking := false }, h)
    else ({ p with talking := false }, h)
  | some d =>
    if !p.talking then (p, h)
    else
      let (_, h) := h.touch now p.id
      let (_, h) := h.recordSequence p.id p.next
      let (_, h) := h.sendLink d.link 8
      ({ p with next := p.next + 1 }, h)

/-- A round of traffic for all devices of a simulation. -/
def traffic (f : Floor) (now : Int) (i : SimulationId) : Floor :=
  match f.simulations[i]? with
  | none => f
  | some sim =>
    let (peers, hub) := sim.peers.foldl
      (fun (peers, h) p => let (p, h) := deliver now h p; (peers.push p, h)) (#[], f.hub)
    { f with hub, simulations := f.simulations.setIfInBounds i { sim with peers } }

/-- The last devices of a simulation fall silent, the very last first. -/
def silence (f : Floor) (now : Int) (i : SimulationId) : Floor :=
  match f.simulations[i]? with
  | none => f
  | some sim =>
    let talkers := sim.peers.size - sim.silent
    let peers := sim.peers.mapIdx fun k p => if talkers ≤ k then { p with talking := false } else p
    let hub := (sim.peers.toList.drop talkers).reverse.foldl
      (fun h p => h.log now (.deviceSilent p.id)) f.hub
    { f with hub, simulations := f.simulations.setIfInBounds i { sim with peers } }

/-- One report of the statistics under some load; its tally starts again. -/
def report (f : Floor) (now : Int) (tally : Nat) (load : Load) : Floor :=
  let (churn, hub) := f.hub.takeTally tally
  { f with hub := hub.writeReport now hub.registry.size churn load }

/-- A check of a reconnect timer. While an attempt is under way it does nothing; when the connector is
connected the timer's task is done; otherwise the next attempt is asked for. A connector that panics when it
is asked takes the task with it, and leaves the timer free for an attempt. -/
def check (f : Floor) (now : Int) (i : TimerId) (c : ConnectorId) : Floor × Request Job :=
  match f.timers[i]?, f.connectors[c]? with
  | some t, some k =>
    if t.inFlight then (f, {})
    else
      let (answer, k) := k.ask
      let f := { f with connectors := f.connectors.setIfInBounds c k }
      match answer with
      | none => (f, { panicked := true })
      | some true =>
        match t.task with
        | some task =>
          ((f.modifyTimer i fun t => { t with task := none }).log now .timerSatisfied,
            { cancels := [task] })
        | none => (f, {})
      | some false =>
        let number := t.attempts + 1
        (f.modifyTimer i fun t => { t with attempts := number, inFlight := true },
          { errands := [.dial i c number] })
  | _, _ => (f, {})

/-- A timer's attempt is over. If no one holds the timer any more its task is cancelled. -/
def release (f : Floor) (i : TimerId) : Floor × List EntryId :=
  match f.timers[i]? with
  | none => (f, [])
  | some t =>
    if t.handles = 0 then
      (f.modifyTimer i fun t => { t with inFlight := false, task := none }, t.task.toList)
    else (f.modifyTimer i fun t => { t with inFlight := false }, [])

/-- The end of an attempt at a connector: its result, and the line about a link that came up. -/
def conclude (f : Floor) (now : Int) (c : ConnectorId) (attempt : Attempt) : ConnectResult × Floor :=
  match f.connectors[c]? with
  | none => (.failed "", f)
  | some k =>
    let (result, k) := k.finish attempt
    let f := { f with connectors := f.connectors.setIfInBounds c k }
    match result, attempt with
    | .ok, .counted number => (result, f.log now (.connected number))
    | _, _ => (result, f)

/-- The end of a timer's attempt. -/
def answer (f : Floor) (now : Int) (i : TimerId) (c : ConnectorId) (number : Nat) (attempt : Attempt) :
    Floor × Request Job :=
  let (result, f) := f.conclude now c attempt
  let f := match result.error? with
    | some text => f.log now (.attemptFailed number text)
    | none => f
  let (f, cancels) := f.release i
  (f, { cancels })

/-- The start of an attempt at a connector. -/
def startAttempt (f : Floor) (now : Int) (c : ConnectorId) : Attempt × Span × Floor :=
  match f.connectors[c]? with
  | none => (.planned .fails, .zero, f)
  | some k =>
    let (attempt, latency, k) := k.start now
    (attempt, latency, { f with connectors := f.connectors.setIfInBounds c k })

/-- The start of a timer's attempt, which ends at once when the connector takes no time. -/
def dial (f : Floor) (now : Int) (i : TimerId) (c : ConnectorId) (number : Nat) :
    Floor × Request Job :=
  let (attempt, latency, f) := f.startAttempt now c
  if !attempt.ends then (f, { waits := [(none, .answer i c number attempt)] })
  else if latency.isZero then f.answer now i c number attempt
  else (f, { waits := [(some latency, .answer i c number attempt)] })

def run : Job → List Run → Int → Floor → Floor × Request Job
  | .sweep limit, _, now, f => ({ f with hub := (f.hub.sweep now now limit).1 }, {})
  | .report tally loads, earlier, now, f => (f.report now tally (loads earlier.length), {})
  | .traffic i, _, now, f => (f.traffic now i, {})
  | .silence i, _, now, f => (f.silence now i, {})
  | .check i c, _, now, f => f.check now i c
  | .dial i c number, _, now, f => f.dial now i c number
  | .answer i c number attempt, _, now, f => f.answer now i c number attempt
  | .probe touches panicsAt, earlier, now, f =>
    let f := match touches with
      | some id => (f.onHub (·.touch now id)).2
      | none => f
    (f, { panicked := panicsAt.any (earlier.length + 1 == ·) })
  | .note name, _, now, f => ({ f with notes := f.notes.push (name, now) }, {})

/-- An attempt that is taken away frees its timer. -/
def abandon : Job → Int → Floor → Floor
  | .answer i c _ _, _, f =>
    let f := { f with connectors := f.connectors.modify c Connector.giveUp }
    (f.release i).1
  | _, _, f => f

def worker : Worker Job Floor where
  run
  abandon

end Liveness.Floor
