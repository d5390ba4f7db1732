import Liveness.Station.Work

/-! # The passage of time -/

namespace Liveness.Station

/-- Work is done on the agenda and the floor; the sweeper's own settings stay as they are. -/
def onTimeline (s : Station) (f : Timeline Job Floor → Timeline Job Floor) : Station :=
  match s with
  | ⟨agenda, floor, sweeper⟩ =>
    let t := f ⟨agenda, floor⟩
    ⟨t.agenda, t.host, sweeper⟩

/-- Does all work that is ready now. -/
def settle (s : Station) : Station := s.onTimeline (Timeline.settle Floor.worker)

/-- Moves the clock through every instant at which work is due, up to and including the last. -/
def advance (s : Station) (amount : Span) : Station :=
  s.onTimeline (Timeline.advance Floor.worker amount)

/-- Moves the clock at once. -/
def jump (s : Station) (amount : Span) : Station := s.onTimeline (Timeline.jump Floor.worker amount)

/-- Cancels all work, for ever. -/
def shutdown (s : Station) : Station :=
  (s.onTimeline (Timeline.shutdown Floor.worker)).settle

/-- How many pieces of work are left once all that is ready is done. -/
def activeWork (s : Station) : Nat × Station :=
  let s := s.settle
  (s.agenda.active, s)

/-- Notes the time under a name after a wait. -/
def noteAfter (s : Station) (name : String) (delay : Span) : Station :=
  { s with agenda := s.agenda.wait (.note name) (some delay) }

/-- Reports the statistics with a period, on what changes from now on. -/
def startReporter (s : Station) (interval : Span) (loads : Nat → Load := fun _ => {}) : EntryId × Station :=
  let (tally, s) := s.onHub Hub.addTally
  (s.log (.reporterStarted interval)).every "stats" (.report tally loads) interval interval

/-- Makes one attempt at a connector and waits for its end. -/
def connect (s : Station) (c : ConnectorId) : ConnectResult × Station :=
  let (attempt, latency, floor) := s.floor.startAttempt s.now c
  let s := { s with floor }
  let s := if latency.isZero then s else s.advance latency
  let (result, floor) := s.floor.conclude s.now c attempt
  (result, { s with floor })

end Liveness.Station
