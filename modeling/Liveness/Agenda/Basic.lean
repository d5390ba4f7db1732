import Liveness.Agenda.Cadence

/-! # Work that is to be done at given times -/

namespace Liveness

/-- The number of a piece of work, in the order in which work was taken on. -/
abbrev EntryId := Nat

/-- How far a piece of work has come. -/
inductive Stage where
  | waiting (due : Int)
  /-- It waits for something that never comes. -/
  | stuck
  | ended
deriving DecidableEq, Repr

/-- One run of a piece of work: the due instant that it serves, and when it really was. -/
structure Run where
  due : Int
  time : Int
deriving DecidableEq, Repr

/-- A piece of work. -/
structure Entry (Job : Type) where
  name : String
  job : Job
  /-- The period of work that recurs. -/
  period : Option Span := none
  stage : Stage
  cancelled : Bool := false
  /-- An errand belongs to no one who could cancel it; a shutdown abandons it. -/
  errand : Bool := false
  /-- The runs so far, the latest first. -/
  runs : List Run := []

namespace Entry

variable {Job : Type}

def isLive (e : Entry Job) : Bool := !e.cancelled && e.stage != .ended

/-- The due instant of live work. -/
def due? (e : Entry Job) : Option Int :=
  match e.cancelled, e.stage with
  | false, .waiting due => some due
  | _, _ => none

end Entry

/-- A clock and the work that waits for it. -/
structure Agenda (Job : Type) where
  now : Int := 0
  entries : Array (Entry Job) := #[]
  /-- After a shutdown all new work is cancelled from the start. -/
  isShutdown : Bool := false
  /-- Errands asked for in this instant that have not begun. -/
  errands : List Job := []

namespace Agenda

variable {Job : Type}

def add (a : Agenda Job) (e : Entry Job) : EntryId × Agenda Job :=
  let e := if a.isShutdown then { e with cancelled := true, stage := .ended } else e
  (a.entries.size, { a with entries := a.entries.push e })

/-- The stage of work that waits for so long. -/
def waitFor (a : Agenda Job) (delay : Span) : Stage :=
  .waiting (Cadence.within a.now (delay.after a.now))

/-- Takes on work that recurs after a first wait. It has ended before it begins if the clock does not
go that far. -/
def every (a : Agenda Job) (name : String) (job : Job) (delay period : Span) :
    EntryId × Agenda Job :=
  let stage := match Cadence.first? delay a.now with
    | some due => .waiting due
    | none => .ended
  a.add { name, job, period := some period.asPeriod, stage }

/-- Takes on work that is done once after a wait. -/
def once (a : Agenda Job) (name : String) (job : Job) (delay : Span) : EntryId × Agenda Job :=
  a.add { name, job, stage := a.waitFor delay }

/-- Takes on an errand that goes on after a wait, or never. -/
def wait (a : Agenda Job) (job : Job) (delay : Option Span) : Agenda Job :=
  if a.isShutdown then a
  else
    let stage := match delay with
      | some d => a.waitFor d
      | none => .stuck
    (a.add { name := "", job, stage, errand := true }).2

def modify (a : Agenda Job) (i : EntryId) (f : Entry Job → Entry Job) : Agenda Job :=
  { a with entries := a.entries.modify i f }

/-- Work that is cancelled never runs again. -/
def cancel (a : Agenda Job) (i : EntryId) : Agenda Job := a.modify i fun e => { e with cancelled := true }

def isCancelled (a : Agenda Job) (i : EntryId) : Bool := ((a.entries[i]?).map (·.cancelled)).getD true

/-- How many pieces of work have not ended. -/
def active (a : Agenda Job) : Nat := (a.entries.toList.filter Entry.isLive).length

/-- The live work with its due instants, in the order of the entries. -/
def waiting (a : Agenda Job) : List (Int × EntryId) :=
  a.entries.toList.zipIdx.filterMap fun (e, i) => e.due?.map (·, i)

/-- The work that is ready now, what wakes up earlier first. Of what wakes up in one millisecond the older goes first:
an assumption, since timers promise no order within a millisecond. -/
def ready (a : Agenda Job) : List EntryId :=
  ((a.waiting.filter fun (due, _) => Cadence.isReady due a.now).mergeSort
    (fun x y => Instant.ceilMilli x.1 ≤ Instant.ceilMilli y.1)).map (·.2)

/-- When the next work wakes up. -/
def nextWake (a : Agenda Job) : Option Int :=
  (a.waiting.map fun (due, _) => Instant.ceilMilli due).min?

end Agenda

end Liveness
