import Liveness.Hub.Change

/-! # Removing silent devices -/

namespace Liveness

/-- What one sweep did. -/
structure SweepReport where
  scanned : Nat := 0
  evicted : Nat := 0
  closeFailures : Nat := 0
deriving DecidableEq, Repr

namespace Hub

/-- One device of a sweep. It goes if it was silent for too long and is still the one that its own id
leads to; then its connection is asked to close, whatever comes of that. -/
def sweepDevice (now asOf : Int) (limit : Span) : Hub × SweepReport → Device → Hub × SweepReport
  | (h, report), d =>
    if !d.clock.isExpired asOf limit then (h, report)
    else
      let check (current : Device) : Verdict :=
        if current.serial = d.serial && current.clock.isExpired asOf limit then .drop else .keep
      match h.removeIf now d.id .expired check with
      | (.removed evicted, h) =>
        let h := h.log now (.deviceExpired evicted.id (evicted.clock.idleFor asOf))
        match h.closeLink evicted.link with
        | (.ok _, h) => (h, { report with evicted := report.evicted + 1 })
        | (.error e, h) =>
          (h.log now (.closeFailed evicted.id e),
            { report with evicted := report.evicted + 1, closeFailures := report.closeFailures + 1 })
      | (_, h) => (h, report)

/-- Sweeps a snapshot of the registry in a given order. Silence is measured up to `asOf`. -/
def sweepOver (h : Hub) (now asOf : Int) (limit : Span) (snapshot : List Device) : Hub × SweepReport :=
  snapshot.foldl (sweepDevice now asOf limit) (h, { scanned := snapshot.length })

/-- The devices in the order in which the registry is gone over. -/
def snapshot (h : Hub) : List Device := h.walk.order h.registry.devices

theorem perm_snapshot (h : Hub) : h.snapshot.Perm h.registry.devices := h.walk.perm _

/-- Removes every device that was silent for longer than the limit. -/
def sweep (h : Hub) (now asOf : Int) (limit : Span) : Hub × SweepReport := h.sweepOver now asOf limit h.snapshot

end Hub

end Liveness
