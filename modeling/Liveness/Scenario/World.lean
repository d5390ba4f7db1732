import Liveness.Scenario.Answer
import Liveness.Station.Clock
import Liveness.Station.Reconnect
import Liveness.Station.Simulation

/-! # The world of a scenario -/

namespace Liveness

/-- Things under names. -/
abbrev Names (α : Type) := Std.ExtTreeMap String α

/-- A station, and the names by which commands call what belongs to it. -/
structure World where
  station : Station := {}
  links : Names LinkId := ∅
  connectors : Names ConnectorId := ∅
  timers : Names TimerId := ∅
  tasks : Names EntryId := ∅
  /-- Names under which times are noted. -/
  notes : Names Unit := ∅
  subscriptions : Names Subscription := ∅
  tallies : Names Nat := ∅
  reporter : Option EntryId := none
  simulation : Option SimulationId := none
  hasSweeper : Bool := true
  /-- The registry can make devices from attributes alone. -/
  hasFactory : Bool := false
  /-- How many devices were made that way. -/
  made : Nat := 0
  keep : JournalFilter := {}

/-- How a reconnect timer begins. -/
inductive TimerSetup where
  | disabled
  | enabled (settings : ReconnectSettings)

/-- What a world begins with. -/
structure Setup where
  links : List (String × Link) := []
  connectors : List (String × Connector) := []
  timers : List (String × TimerSetup) := []
  sweep : SweepSettings := {}
  hasFactory : Bool := false
  hasBridge : Bool := false
  keep : JournalFilter := {}

namespace World

def now (w : World) : Int := w.station.now

def hub (w : World) : Hub := w.station.hub

def onStation {α : Type} (w : World) (f : Station → α × Station) : α × World :=
  let (a, station) := f w.station
  (a, { w with station })

def changeStation (w : World) (f : Station → Station) : World := { w with station := f w.station }

def onHub {α : Type} (w : World) (f : Hub → α × Hub) : α × World := w.onStation (·.onHub f)

/-- Brings up a connection under a name. -/
def openLink (w : World) (name : String) (l : Link) : World :=
  let (i, w) := w.onHub (·.openLink l)
  { w with links := w.links.insert name i }

def addConnector (w : World) (name : String) (c : Connector) : World :=
  let floor := w.station.floor
  { w with
    connectors := w.connectors.insert name floor.connectors.size
    station.floor.connectors := floor.connectors.push c }

def addTimer (w : World) (name : String) (t : TimerSetup) : World :=
  let floor := w.station.floor
  let timer : Timer := match t with
    | .disabled => .disabled
    | .enabled settings => { settings }
  { w with
    timers := w.timers.insert name floor.timers.size
    station.floor.timers := floor.timers.push timer }

/-- Lets go of the timer handle of a name, if there is one. -/
def dropTimer (w : World) (name : String) : World :=
  match w.timers[name]? with
  | none => w
  | some i => { w.changeStation (·.dropTimer i) with timers := w.timers.erase name }

/-- A world at the start of its clock. The journal is the first to hear of everything, and a bridge
comes after it. -/
def begin (s : Setup) : World :=
  let hub : Hub := { observers := [{}], watchers := [{}] }
  let hub := if s.hasBridge then hub.addWatcher { role := .bridge } else hub
  let w : World := {
    station := { floor := { hub }, sweeper := { settings := s.sweep } }
    hasFactory := s.hasFactory
    keep := s.keep }
  let w := s.links.foldl (fun w (name, l) => w.openLink name l) w
  let w := s.connectors.foldl (fun w (name, c) => w.addConnector name c) w
  s.timers.foldl (fun w (name, t) => w.addTimer name t) w

/-! ## Views -/

/-- The first name of a connection. -/
def linkName? (w : World) (i : LinkId) : Option String := (w.links.toList.find? (·.2 == i)).map (·.1)

def device (w : World) (d : Device) : DeviceView where
  serial := d.serial
  id := d.id
  link := w.linkName? d.link
  lastSeen := Instant.millis d.clock.lastSeen
  onlineFor := (d.onlineFor w.now).millis
  sequence := d.sequence.last
  text := w.hub.describe d

def link (w : World) (i : LinkId) : Link := (w.hub.links[i]?).getD (.bare false)

def connector? (w : World) (i : ConnectorId) : Option Connector := w.station.floor.connectors[i]?

def timer (w : World) (i : TimerId) : TimerView :=
  let t := w.station.timer i
  { isScheduled := w.station.isTimerScheduled i
    isAutoConnect := t.isAutoConnect
    settings := t.settings
    attempts := t.attempts
    inFlight := t.inFlight }

def task (w : World) (i : EntryId) : TaskView :=
  match w.station.agenda.entries[i]? with
  | some e => ⟨e.name, e.cancelled, e.runs.reverse.map fun r => Instant.millis r.time⟩
  | none => ⟨"", true, []⟩

/-- The times noted under a name, in order. -/
def notedTimes (w : World) (name : String) : List Nat :=
  w.station.floor.notes.toList.filterMap fun (n, t) =>
    if n = name then some (Instant.millis t) else none

/-- All devices, by their own ids and then by their numbers. -/
def devices (w : World) : List DeviceView :=
  (w.hub.registry.devices.mergeSort fun a b =>
    a.id < b.id || (a.id == b.id && a.serial ≤ b.serial)).map w.device

def view (w : World) : WorldView where
  time := Instant.millis w.now
  devices := w.devices
  active := w.hub.activeConnections
  links := w.links.toList.map fun (name, i) => (name, w.link i, w.hub.isActive i)
  isSweeping := if w.hasSweeper then some w.station.isSweeping else none
  timers := w.timers.toList.map fun (name, i) => (name, w.timer i)
  connectors := w.connectors.toList.filterMap fun (name, i) => (w.connector? i).map (name, ·)
  tasks := w.tasks.toList.map fun (name, i) => (name, w.task i)
  notes := w.notes.keys.map fun name => (name, w.notedTimes name)

/-- Takes what was observed since the last time into journal lines. -/
def takeJournal (w : World) : List JournalEntry × World :=
  let entries := w.hub.trace.toList.filterMap (JournalEntry.ofStamped? w.keep w.linkName?)
  (entries, { w with station.floor.hub.trace := #[] })

end World

end Liveness
