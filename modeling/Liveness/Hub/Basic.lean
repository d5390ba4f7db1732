import Liveness.LogLine
import Liveness.Registry.Channel

/-! # The registry, its observers and the connections

A hub holds the registry together with all that hears of its changes and the connections that its
devices are bound to. Whatever can be observed from outside goes to the trace, in order.
-/

namespace Liveness

/-- How a callback goes. -/
inductive Conduct where
  | acts
  /-- It returns without doing anything. -/
  | ignores
  | panics (panic : Panic)
deriving DecidableEq, Repr

/-- What an observer of the registry does with a notice. -/
inductive ObserverRole where
  | idle
  /-- Writes devices going online and offline to the log. -/
  | logger
  /-- Counts into the tally of a number. -/
  | tally (index : Nat)
deriving DecidableEq, Repr

/-- A listener to changes of the registry. -/
structure Observer where
  role : ObserverRole := .idle
  /-- How each of its callbacks goes, by their number from zero. -/
  conduct : Nat → Conduct := fun _ => .acts
  /-- How many callbacks it has received. -/
  heard : Nat := 0

/-- What a watcher of the connections does with a change. -/
inductive WatcherRole where
  | idle
  /-- Keeps the registry in step with the connections. -/
  | bridge
deriving DecidableEq, Repr

/-- A listener to connections coming up and going down. -/
structure Watcher where
  role : WatcherRole := .idle
  conduct : Nat → Conduct := fun _ => .acts
  heard : Nat := 0

/-- Where a connection known to the hub stands. -/
inductive SlotPhase where
  | pending
  | active
  | closed
deriving DecidableEq, Repr

/-- A connection known to the hub and the id it was first reported under. -/
structure Slot where
  id : DeviceId
  phase : SlotPhase
deriving DecidableEq, Repr

/-- What the process uses, as measured at some time: more memory or more processor time than it should. -/
structure Load where
  memoryHigh : Bool := false
  cpuHigh : Bool := false
deriving DecidableEq, Repr

/-- What a report under some load warns of: of the memory first. -/
def Load.alarm (load : Load) : Alarm :=
  if load.memoryHigh then .highMemory else if load.cpuHigh then .highCpu else .none

/-- One thing that can be observed from outside. -/
inductive Happening where
  /-- An observer received a notice; `present` is what the registry told it about the id then. -/
  | observed (observer : Nat) (notice : Notice) (present : Bool)
  /-- A watcher heard of a connection. -/
  | watched (watcher : Nat) (id : DeviceId) (link : LinkId) (state : LinkState)
  | reported (alarm : Alarm) (devices : Nat) (churn : Churn)
  | logged (line : LogLine)

/-- A happening and its time. -/
structure Stamped where
  time : Int
  what : Happening

structure Hub where
  registry : Registry := {}
  /-- How the registry is gone over. -/
  walk : Walk := .byId
  channel : Channel DeviceEvent := {}
  observers : List Observer := []
  tallies : List Churn := []
  links : Array Link := #[]
  slots : Std.ExtTreeMap LinkId Slot := ∅
  watchers : List Watcher := []
  trace : Array Stamped := #[]
  /-- Someone panicked while holding the lock under which the registry is changed. -/
  poisoned : Bool := false

namespace Hub

def emit (h : Hub) (now : Int) (what : Happening) : Hub :=
  { h with trace := h.trace.push ⟨now, what⟩ }

def log (h : Hub) (now : Int) (line : LogLine) : Hub := h.emit now (.logged line)

/-! ## Connections -/

/-- Brings up a connection. -/
def openLink (h : Hub) (l : Link) : LinkId × Hub :=
  (h.links.size, { h with links := h.links.push l })

/-- Calls a connection; an unknown one is a bare one that is closed. -/
def callLink {α : Type} (h : Hub) (i : LinkId) (f : Link → α × Link) : α × Hub :=
  let (answer, l) := f ((h.links[i]?).getD (.bare false))
  (answer, { h with links := h.links.setIfInBounds i l })

def sendLink (h : Hub) (i : LinkId) (size : Nat) : Delivery × Hub := h.callLink i (Link.send size)
def closeLink (h : Hub) (i : LinkId) : Delivery × Hub := h.callLink i Link.close
def isLinkOpen (h : Hub) (i : LinkId) : Bool × Hub := h.callLink i Link.isOpen

/-- The id of a device, then where its peer is and which local address it came through. -/
def describe (h : Hub) (d : Device) : String :=
  let l := h.links[d.link]?
  let peer := match l.bind Link.peer? with
    | some a => "@" ++ a.text
    | none => ""
  let endpoint := match l.bind Link.endpoint? with
    | some a => " via " ++ a.text
    | none => ""
  d.id ++ peer ++ endpoint

/-! ## Observers -/

def addObserver (h : Hub) (o : Observer) : Hub := { h with observers := h.observers ++ [o] }

/-- Adds an observer that counts; answers the number of its tally. -/
def addTally (h : Hub) : Nat × Hub :=
  let k := h.tallies.length
  (k, { h with tallies := h.tallies ++ [{}], observers := h.observers ++ [{ role := .tally k }] })

/-- Takes the counts of a tally, which starts again from zero. -/
def takeTally (h : Hub) (k : Nat) : Churn × Hub :=
  ((h.tallies[k]?).getD {}, { h with tallies := h.tallies.set k {} })

/-- Writes a report of the statistics. The counts were taken already, so every branch has to carry them. -/
def writeReport (h : Hub) (now : Int) (devices : Nat) (churn : Churn) (load : Load) : Hub :=
  if load.memoryHigh then h.emit now (.reported .highMemory devices churn)
  else if load.cpuHigh then h.emit now (.reported .highCpu devices churn)
  else h.emit now (.reported .none devices churn)

/-- Whatever the load is, the report carries the counts. -/
theorem writeReport_eq (h : Hub) (now : Int) (devices : Nat) (churn : Churn) (load : Load) :
    h.writeReport now devices churn load = h.emit now (.reported load.alarm devices churn) := by
  unfold writeReport Load.alarm
  split
  · rfl
  · split <;> rfl

/-- The line that the log gets about a notice. -/
def noticeLine (h : Hub) (now : Int) : Notice → LogLine
  | .added id d none => .deviceOnline id (h.describe d)
  | .added id d (some old) => .deviceReplaced id (h.describe d) (h.describe old)
  | .removed id d reason => .deviceOffline id reason (d.onlineFor now)

/-- An observer acts on a notice. -/
def act (h : Hub) (now : Int) (n : Notice) : ObserverRole → Hub
  | .idle => h
  | .logger => h.log now (h.noticeLine now n)
  | .tally k => { h with tallies := h.tallies.modify k (·.count n) }

/-- The line about an observer that panicked. -/
def panicLine (p : Panic) : Notice → LogLine
  | .added id .. => .additionPanic id p
  | .removed id .. => .removalPanic id p

/-- One observer receives a notice. Its panic goes to the log and no further. -/
def tell (now : Int) (n : Notice) (h : Hub) (i : Nat) : Hub :=
  match h.observers[i]? with
  | none => h
  | some o =>
    let h := { h with observers := h.observers.set i { o with heard := o.heard + 1 } }
    let h := h.emit now (.observed i n (h.registry.contains n.id))
    match o.conduct o.heard with
    | .acts => h.act now n o.role
    | .ignores => h
    | .panics p => h.log now (panicLine p n)

/-- All observers receive a notice in turn, and then the subscribers can read of it. -/
def announce (h : Hub) (now : Int) (n : Notice) : Hub :=
  let h := (List.range h.observers.length).foldl (tell now n) h
  { h with channel := h.channel.send n.event }

end Hub

end Liveness
