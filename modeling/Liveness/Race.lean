import Liveness.Hub.Change

/-! # Callers that compete for the same devices

Several callers ask for the same devices and then remove them. Calls take effect one after the other,
so what they come to in all can be told from the calls in some order.
-/

namespace Liveness

/-- A call of one of the callers. -/
inductive RaceCall where
  | create (id : DeviceId)
  | remove (id : DeviceId)
deriving DecidableEq, Repr

/-- What calls come to in all. -/
structure RaceTotals where
  /-- Devices made. -/
  made : Nat := 0
  /-- Calls that got a device. -/
  got : Nat := 0
  /-- Removals that answered a device. -/
  removed : Nat := 0
deriving DecidableEq, Repr

namespace RaceCall

/-- One call takes effect; devices are made on new connections. -/
def apply : Hub × RaceTotals → RaceCall → Hub × RaceTotals
  | (h, t), .create id =>
    match h.getOrCreate 0 id (.makeOnNewLink id []) with
    | (.found _, h) => (h, { t with got := t.got + 1 })
    | (.made _, h) => (h, { t with made := t.made + 1, got := t.got + 1 })
    | (_, h) => (h, t)
  | (h, t), .remove id =>
    match h.remove 0 id .explicit with
    | (some _, h) => (h, { t with removed := t.removed + 1 })
    | (none, h) => (h, t)

/-- The calls of all callers, one caller after the other: first all ask for every id, and then, if
they are to, all remove every id. -/
def ofCallers (callers : Nat) (ids : List DeviceId) (removes : Bool) : List RaceCall :=
  (List.replicate callers (ids.map create)).flatten ++
    if removes then (List.replicate callers (ids.map remove)).flatten else []

/-- A registry that counts its changes, after some calls, and what they came to. -/
def run (calls : List RaceCall) : Hub × RaceTotals := calls.foldl apply ((({} : Hub).addTally).2, {})

end RaceCall

end Liveness
