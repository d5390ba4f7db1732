import Liveness.Agenda.Basic

/-! # Doing the work of an agenda

What the work does to its host is given from outside. On the agenda it acts through requests only.
-/

namespace Liveness

/-- What a run of some work asks for. -/
structure Request (Job : Type) where
  /-- The run panicked, which ends the work. -/
  panicked : Bool := false
  cancels : List EntryId := []
  /-- Errands to begin in this instant, after all work that is ready. -/
  errands : List Job := []
  /-- What to go on with after a wait, or never. -/
  waits : List (Option Span × Job) := []

/-- How work acts on its host. -/
structure Worker (Job σ : Type) where
  /-- A run of a job, after its earlier runs, at some time. -/
  run : Job → List Run → Int → σ → σ × Request Job
  /-- A shutdown takes an errand away. -/
  abandon : Job → Int → σ → σ

/-- An agenda and the host that its work acts on. -/
structure Timeline (Job σ : Type) where
  agenda : Agenda Job
  host : σ

/-- When work that is ready runs now, by the due instants that it serves, and what becomes of it.
Recurring work that finds no further due instant ends without a run. -/
def Entry.plan {Job : Type} (e : Entry Job) (due now : Int) : List Int × Stage :=
  match e.period with
  | none => ([due], .ended)
  | some p =>
    match Cadence.next? due p now with
    | some next => (Cadence.served due p now, .waiting next)
    | none => ([], .ended)

namespace Agenda

variable {Job : Type}

/-- Fulfils what a run of an entry asked for. -/
def fulfil (a : Agenda Job) (r : Request Job) : Agenda Job :=
  let a := r.cancels.foldl cancel a
  let a := r.waits.foldl (fun a (delay, job) => a.wait job delay) a
  { a with errands := a.errands ++ r.errands }

end Agenda

namespace Timeline

variable {Job σ : Type} (w : Worker Job σ)

/-- One run of an entry that is still live. -/
def runOnce (i : EntryId) (t : Timeline Job σ) (due : Int) : Timeline Job σ :=
  match t.agenda.entries[i]? with
  | none => t
  | some e =>
    if !e.isLive then t
    else
      let now := t.agenda.now
      let (host, request) := w.run e.job e.runs now t.host
      let ran (e : Entry Job) : Entry Job :=
        { e with
          runs := ⟨due, now⟩ :: e.runs
          stage := if request.panicked then .ended else e.stage }
      { agenda := (t.agenda.modify i ran).fulfil request, host }

/-- Work that is ready runs, as often as its rhythm says, and then waits again or has ended. -/
def wake (t : Timeline Job σ) (i : EntryId) : Timeline Job σ :=
  match t.agenda.entries[i]? with
  | none => t
  | some e =>
    match e.due? with
    | none => t
    | some due =>
      let (dues, stage) := e.plan due t.agenda.now
      let t := dues.foldl (runOnce w i) t
      { t with agenda := t.agenda.modify i fun e => { e with stage := if e.isLive then stage else e.stage } }

/-- An errand begins. -/
def begin (t : Timeline Job σ) (job : Job) : Timeline Job σ :=
  let (host, request) := w.run job [] t.agenda.now t.host
  { agenda := t.agenda.fulfil request, host }

/-- Begins the errands that were asked for. -/
def beginErrands (t : Timeline Job σ) : Timeline Job σ :=
  let jobs := t.agenda.errands
  jobs.foldl (begin w) { t with agenda := { t.agenda with errands := [] } }

/-- Does all work that is ready now. -/
def settle (t : Timeline Job σ) : Timeline Job σ :=
  beginErrands w (t.agenda.ready.foldl (wake w) t)

def setNow (t : Timeline Job σ) (now : Int) : Timeline Job σ :=
  { t with agenda := { t.agenda with now } }

/-- The clock comes to a whole millisecond, but keeps what it is past its own. -/
def comeTo (t : Timeline Job σ) (milli : Int) : Timeline Job σ :=
  t.setNow (Instant.arrive milli t.agenda.now)

/-- Moves the clock through every whole millisecond at which work wakes up, at most so many. -/
def advanceTo (stop : Int) : Nat → Timeline Job σ → Timeline Job σ
  | 0, t => t.comeTo stop
  | n + 1, t =>
    let t := settle w t
    match t.agenda.nextWake with
    | some wake => if wake ≤ stop then advanceTo stop n (t.comeTo wake) else t.comeTo stop
    | none => t.comeTo stop

/-- Waits until some time has passed while all that is due is done, as work does that waits: up to a whole
millisecond, and no longer than any wait. Work wakes up at whole milliseconds, so their number bounds the
instants on the way. -/
def advance (amount : Span) (t : Timeline Job σ) : Timeline Job σ :=
  advanceTo w (Cadence.stop amount t.agenda.now) (amount.nanos / 1000000 + 3) t

/-- Moves the clock at once; what became overdue runs then. -/
def jump (amount : Span) (t : Timeline Job σ) : Timeline Job σ :=
  let t := settle w t
  settle w (t.setNow (amount.after t.agenda.now))

/-- Cancels all work for ever. Errands under way are abandoned. -/
def shutdown (t : Timeline Job σ) : Timeline Job σ :=
  let errands := t.agenda.entries.toList.filter fun e => e.errand && e.isLive
  let stop (e : Entry Job) : Entry Job := { e with cancelled := true, stage := .ended }
  { agenda := { t.agenda with isShutdown := true, entries := t.agenda.entries.map stop }
    host := errands.foldl (fun host e => w.abandon e.job t.agenda.now host) t.host }

end Timeline

end Liveness
