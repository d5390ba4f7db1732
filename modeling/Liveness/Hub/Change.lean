import Liveness.Hub.Basic

/-! # Changing the registry -/

namespace Liveness

/-- What the maker of a device comes to. -/
inductive Recipe where
  | make (p : Profile)
  /-- A device on a new connection that counts its traffic. -/
  | makeOnNewLink (id : DeviceId) (attributes : Attributes)
  | fail (reason : String)
  | panic (message : String)

/-- Why no device was made. -/
structure FactoryError where
  id : DeviceId
  reason : String
deriving DecidableEq, Repr

def FactoryError.message (e : FactoryError) : String :=
  s!"failed to create device {e.id}: {e.reason}"

/-- What asking for a device, which may have to be made, comes to. -/
inductive Creation where
  /-- There was one. -/
  | found (d : Device)
  | made (d : Device)
  | failed (e : FactoryError)
  | panicked (message : String)

/-- What a check before a removal comes to. -/
inductive Verdict where
  | keep
  | drop
  | panic (message : String)
deriving DecidableEq, Repr

/-- What a conditional removal comes to. -/
inductive Removal where
  | absent
  | kept
  | removed (d : Device)
  | panicked (message : String)

namespace Hub

/-! ## The lock

Every change of the registry is made under one lock, and announced before the lock is let go.
-/

/-- Takes the lock. It comes as an error once a holder has panicked, for good. -/
def lock (h : Hub) : Except Hub Hub := if h.poisoned then .error h else .ok h

/-- The hub of the one who holds the lock. The lock guards nothing that a panic could leave broken, so it is taken
all the same when it is poisoned. -/
def locked (h : Hub) : Hub :=
  match h.lock with
  | .ok h => h
  | .error h => h

/-- The holder of the lock panics. -/
def poison (h : Hub) : Hub := { h with poisoned := true }

@[simp] theorem locked_eq (h : Hub) : h.locked = h := by
  unfold locked lock
  split <;> split at * <;> simp_all

/-! ## Changes -/

/-- The last-seen mark of a device moves to now. -/
def touch (h : Hub) (now : Int) (id : DeviceId) : Bool × Hub :=
  (h.registry.contains id, { h with registry := h.registry.update id (·.touch now) })

/-- Stores a device under a key and announces it. -/
def storeAs (h : Hub) (now : Int) (key : DeviceId) (p : Profile) : Device × Option Device × Hub :=
  let (d, old, registry) := h.registry.store key p now
  (d, old, { h with registry }.announce now (.added key d old))

/-- Stores a device under its own id; answers the one that was there. -/
def put (h : Hub) (now : Int) (p : Profile) : Option Device × Hub :=
  let (_, old, h) := h.locked.storeAs now p.id p
  (old, h)

theorem put_eq (h : Hub) (now : Int) (p : Profile) :
    h.put now p = ((h.storeAs now p.id p).2.1, (h.storeAs now p.id p).2.2) := by
  simp [put]

/-- Makes a device and stores it under an id. The maker runs under the lock. -/
def create (h : Hub) (now : Int) (id : DeviceId) : Recipe → Creation × Hub
  | .make p =>
    let (d, _, h) := h.storeAs now id p
    (.made d, h)
  | .makeOnNewLink own attributes =>
    let (link, h) := h.openLink (.counting {})
    let (d, _, h) := h.storeAs now id { id := own, link, attributes }
    (.made d, h)
  | .fail reason => (.failed ⟨id, reason⟩, h)
  | .panic message => (.panicked message, h.poison)

/-- The device under an id. Only when there is none, and still none once the lock is taken, is one made. -/
def getOrCreate (h : Hub) (now : Int) (id : DeviceId) (recipe : Recipe) : Creation × Hub :=
  match h.registry.get? id with
  | some d => (.found d, h)
  | none =>
    let h := h.locked
    match h.registry.get? id with
    | some d => (.found d, h)
    | none => h.create now id recipe

/-- The device under an id, made in the way that the registry was set up with. A registry that was set
up with none does not even look. -/
def getOrCreateFrom (h : Hub) (now : Int) (id : DeviceId) (recipe? : Option Recipe) :
    Option Creation × Hub :=
  match recipe? with
  | none => (none, h)
  | some recipe =>
    let (c, h) := h.getOrCreate now id recipe
    (some c, h)

/-- Removes the device under an id if a check says so, and announces it. The check runs under the lock. -/
def removeIf (h : Hub) (now : Int) (id : DeviceId) (reason : RemovalReason)
    (check : Device → Verdict) : Removal × Hub :=
  let h := h.locked
  match h.registry.get? id with
  | none => (.absent, h)
  | some d =>
    match check d with
    | .keep => (.kept, h)
    | .panic message => (.panicked message, h.poison)
    | .drop =>
      let h := { h with registry := h.registry.erase id }
      (.removed d, h.announce now (.removed id d reason))

/-- Removes whatever device is under an id, and announces it. -/
def remove (h : Hub) (now : Int) (id : DeviceId) (reason : RemovalReason) : Option Device × Hub :=
  match h.removeIf now id reason fun _ => .drop with
  | (.removed d, h) => (some d, h)
  | (_, h) => (none, h)

/-- Removes a device and tells no one. -/
def removeSilently (h : Hub) (id : DeviceId) : Option Device × Hub :=
  let h := h.locked
  (h.registry.get? id, { h with registry := h.registry.erase id })

theorem removeSilently_eq (h : Hub) (id : DeviceId) :
    h.removeSilently id = (h.registry.get? id, { h with registry := h.registry.erase id }) := by
  simp [removeSilently]

/-- Records a sequence number for the device under an id. -/
def recordSequence (h : Hub) (id : DeviceId) (n : UInt64) : Option (SequenceStatus × Device) × Hub :=
  match h.registry.get? id with
  | none => (none, h)
  | some d =>
    let (status, sequence) := d.sequence.record n
    let d := { d with sequence }
    (some (status, d), { h with registry := h.registry.update id fun _ => d })

end Hub

end Liveness
