import Liveness.Hub.Connection

/-! # The journal of a scenario

Devices are evicted in no particular order. What is told of evictions in a row is put in the order of
the ids; everything else stays where it is.
-/

namespace Liveness

/-- Sorts each longest run of neighbours that have a key and belong together, by their keys. Items of
one key keep their order, and so do items without a key. -/
def sortRuns {α : Type} (key : α → Option String) (together : α → α → Bool) (items : List α) : List α :=
  let joined (a b : α) : Bool := (key a).isSome && (key b).isSome && together a b
  (items.splitBy joined).flatMap fun run => run.mergeSort fun a b => (key a).getD "" ≤ (key b).getD ""

/-- One line of a journal. Connections appear under their names. -/
inductive Record where
  | added (id : DeviceId) (serial : Nat) (old : Option Nat) (present : Bool)
  | removed (id : DeviceId) (serial : Nat) (reason : RemovalReason) (present : Bool)
  | changed (id : DeviceId) (link : Option String) (state : LinkState)
  | reported (devices : Nat) (churn : Churn)
  | logged (line : LogLine)

/-- A line of a journal and its time. -/
structure JournalEntry where
  time : Int
  record : Record

/-- What a journal leaves out. -/
structure JournalFilter where
  /-- Changes of the registry and of the connections are written. -/
  changes : Bool := true
  /-- Lines of the log are written. -/
  log : Bool := false

namespace Record

def ofNotice (present : Bool) : Notice → Record
  | .added id d old => .added id d.serial (old.map (·.serial)) present
  | .removed id d reason => .removed id d.serial reason present

/-- What a journal tells of a happening. It hears of changes as the first observer of the registry and
the first watcher of the connections. -/
def ofHappening? (keep : JournalFilter) (name : LinkId → Option String) : Happening → Option Record
  | .observed 0 notice present => if keep.changes then some (ofNotice present notice) else none
  | .watched 0 id link state => if keep.changes then some (.changed id (name link) state) else none
  | .reported _ devices churn => some (.reported devices churn)
  | .logged line => if keep.log then some (.logged line) else none
  | _ => none

/-- The device whose eviction a line tells of. -/
def evicted? : Record → Option DeviceId
  | .removed id _ .expired _ => some id
  | .logged line => line.evicted?
  | _ => none

end Record

namespace JournalEntry

def ofStamped? (keep : JournalFilter) (name : LinkId → Option String) (s : Stamped) :
    Option JournalEntry :=
  (Record.ofHappening? keep name s.what).map (⟨s.time, ·⟩)

/-- The evictions of one millisecond in a row, in the order of the ids. -/
def arrange (entries : List JournalEntry) : List JournalEntry :=
  sortRuns (·.record.evicted?) (fun a b => Instant.millis a.time == Instant.millis b.time) entries

end JournalEntry

namespace DeviceEvent

def evicted? : DeviceEvent → Option DeviceId
  | .removed id .expired => some id
  | _ => none

/-- The evictions in a row, in the order of the ids. -/
def arrange (events : List DeviceEvent) : List DeviceEvent := sortRuns evicted? (fun _ _ => true) events

end DeviceEvent

end Liveness
