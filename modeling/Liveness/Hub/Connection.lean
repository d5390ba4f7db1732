import Liveness.Hub.Change

/-! # Connections coming up and going down

A transport reports a connection as often as it likes. Watchers hear of it once when it comes up and
once when it goes down again, and nothing of one that was torn down before it came up.
-/

namespace Liveness.Hub

def addWatcher (h : Hub) (w : Watcher) : Hub := { h with watchers := h.watchers ++ [w] }

/-- The bridge binds the device of an id to the connection that came up last, and removes the device
of a connection that went down. -/
def bridge (h : Hub) (now : Int) (id : DeviceId) (link : LinkId) : LinkState → Hub
  | .active =>
    if (h.registry.get? id).any (·.link == link) then h else (h.put now { id, link }).2
  | .inactive =>
    (h.removeIf now id .disconnected fun d => if d.link = link then .drop else .keep).2

/-- One watcher hears of a connection. Its panic goes to the log and no further. -/
def tellWatcher (now : Int) (id : DeviceId) (link : LinkId) (state : LinkState) (h : Hub) (i : Nat) :
    Hub :=
  match h.watchers[i]? with
  | none => h
  | some w =>
    let h := { h with watchers := h.watchers.set i { w with heard := w.heard + 1 } }
    let h := h.emit now (.watched i id link state)
    match w.conduct w.heard, w.role with
    | .acts, .bridge => h.bridge now id link state
    | .acts, .idle => h
    | .ignores, _ => h
    | .panics p, _ => h.log now (.watcherPanic id state p)

/-- All watchers hear of a connection in turn. -/
def fire (h : Hub) (now : Int) (id : DeviceId) (link : LinkId) (state : LinkState) : Hub :=
  (List.range h.watchers.length).foldl (tellWatcher now id link state) h

def slot? (h : Hub) (link : LinkId) : Option Slot := h.slots[link]?

def setSlot (h : Hub) (link : LinkId) (s : Slot) : Hub := { h with slots := h.slots.insert link s }

def dropSlot (h : Hub) (link : LinkId) : Hub := { h with slots := h.slots.erase link }

/-- A connection is reported up. It must be open, and still be open once it has a slot. -/
def onActive (h : Hub) (now : Int) (id : DeviceId) (link : LinkId) : Bool × Hub :=
  match h.isLinkOpen link with
  | (false, h) => (false, h)
  | (true, h) =>
    let slot := (h.slot? link).getD ⟨id, .pending⟩
    let h := h.setSlot link slot
    if slot.phase ≠ .pending then (false, h)
    else
      match h.isLinkOpen link with
      | (true, h) => (true, (h.setSlot link { slot with phase := .active }).fire now slot.id link .active)
      | (false, h) => (false, h.dropSlot link)

/-- A connection is reported down. -/
def onInactive (h : Hub) (now : Int) (link : LinkId) : Bool × Hub :=
  match h.slot? link with
  | none => (false, h)
  | some slot =>
    let h := h.setSlot link { slot with phase := .closed }
    if slot.phase = .active then (true, (h.fire now slot.id link .inactive).dropSlot link)
    else (false, h.dropSlot link)

def isActive (h : Hub) (link : LinkId) : Bool :=
  (h.slot? link).any (·.phase == .active)

/-- How many connections are up. -/
def activeConnections (h : Hub) : Nat :=
  (h.slots.values.filter (·.phase == .active)).length

end Liveness.Hub
