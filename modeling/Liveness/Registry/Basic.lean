import Liveness.Json.Reader
import Liveness.LastSeen
import Liveness.Sequence
import Std.Data.ExtTreeMap

/-! # The devices that are online -/

namespace Liveness

/-- The stable name of a peer. Any text is one, and ids are ordered by their code points. -/
abbrev DeviceId := String

namespace DeviceId

/-- An id as JSON text. -/
def toJson (id : DeviceId) : String := Json.quote id

/-- The id that a JSON text writes: it must be one string. -/
def ofJson? (text : String) : Option DeviceId := (Json.parse? text).bind Json.text?

/-- For each id, the place of the first one that equals it. -/
def firstEqual (ids : List DeviceId) : List Nat := ids.map fun id => ids.idxOf id

def sorted (ids : List DeviceId) : List DeviceId := ids.mergeSort (· ≤ ·)

end DeviceId

/-- The number of a connection, in the order in which connections came up. -/
abbrev LinkId := Nat

abbrev Attributes := List (String × Json)

/-- What became of a device before it came into the registry. -/
structure Past where
  /-- When it was made, if not at the very moment. -/
  made? : Option Int := none
  /-- When it was touched since. -/
  touches : List Int := []
  /-- The sequence numbers that were recorded for it. -/
  numbers : List UInt64 := []

namespace Past

/-- The clock of a device that comes into the registry now. -/
def clock (p : Past) (now : Int) : LastSeen := (LastSeen.startingAt (p.made?.getD now)).touches p.touches

def sequence (p : Past) : SequenceMark := SequenceMark.none.recordAll p.numbers

end Past

/-- What a device is made from. -/
structure Profile where
  id : DeviceId
  link : LinkId
  attributes : Attributes := []
  past : Past := {}

/-- One appearance of a peer in the registry. -/
structure Device where
  /-- Which appearance this is, counted from one over the whole registry. -/
  serial : Nat
  id : DeviceId
  link : LinkId
  clock : LastSeen
  sequence : SequenceMark
  attributes : Attributes

namespace Device

/-- A device that comes into the registry now, with all that has become of it before. -/
def appear (serial : Nat) (p : Profile) (now : Int) : Device where
  serial
  id := p.id
  link := p.link
  clock := p.past.clock now
  sequence := p.past.sequence
  attributes := p.attributes

def touch (d : Device) (now : Int) : Device := { d with clock := d.clock.touch now }

def onlineFor (d : Device) (now : Int) : Span := .between d.clock.origin now

@[simp] theorem serial_touch (d : Device) (now : Int) : (d.touch now).serial = d.serial := rfl
@[simp] theorem id_touch (d : Device) (now : Int) : (d.touch now).id = d.id := rfl
@[simp] theorem link_touch (d : Device) (now : Int) : (d.touch now).link = d.link := rfl

end Device

/-- How a table goes over its devices when it is asked for all: in any order, which may depend on which they are. -/
structure Walk where
  order : List Device → List Device
  perm : ∀ ds, (order ds).Perm ds

/-- Devices are gone over by their ids. -/
def Walk.byId : Walk := ⟨id, fun ds => .refl ds⟩

/-- Devices under their ids. A device is normally stored under its own id, but the one who stores it
chooses the key. -/
structure Registry where
  entries : Std.ExtTreeMap DeviceId Device := ∅
  /-- How many devices were ever stored. -/
  stored : Nat := 0

namespace Registry

def get? (r : Registry) (id : DeviceId) : Option Device := r.entries[id]?

def contains (r : Registry) (id : DeviceId) : Bool := r.entries.contains id

def size (r : Registry) : Nat := r.entries.size

/-- The ids in order. -/
def ids (r : Registry) : List DeviceId := r.entries.keys

/-- The devices in the order of their ids. -/
def devices (r : Registry) : List Device := r.entries.values

/-- Stores a new device under a key; answers the device and the one it replaces. -/
def store (r : Registry) (key : DeviceId) (p : Profile) (now : Int) :
    Device × Option Device × Registry :=
  let d := Device.appear (r.stored + 1) p now
  (d, r.get? key, ⟨r.entries.insert key d, r.stored + 1⟩)

def erase (r : Registry) (id : DeviceId) : Registry := { r with entries := r.entries.erase id }

/-- Changes the device under an id, if there is one. -/
def update (r : Registry) (id : DeviceId) (f : Device → Device) : Registry :=
  { r with entries := r.entries.modify id f }

@[simp] theorem get?_empty (id : DeviceId) : ({} : Registry).get? id = none := by
  simp [get?]

theorem contains_eq_isSome (r : Registry) (id : DeviceId) : r.contains id = (r.get? id).isSome := by
  simp [contains, get?]

theorem get?_store (r : Registry) (key id : DeviceId) (p : Profile) (now : Int) :
    (r.store key p now).2.2.get? id =
      if key = id then some (Device.appear (r.stored + 1) p now) else r.get? id := by
  simp [store, get?, Std.ExtTreeMap.getElem?_insert]

theorem get?_erase (r : Registry) (key id : DeviceId) :
    (r.erase key).get? id = if key = id then none else r.get? id := by
  simp [erase, get?, Std.ExtTreeMap.getElem?_erase]

theorem get?_update (r : Registry) (key id : DeviceId) (f : Device → Device) :
    (r.update key f).get? id = if key = id then (r.get? id).map f else r.get? id := by
  simp only [update, get?, Std.ExtTreeMap.getElem?_modify]
  by_cases h : key = id
  · subst h; simp
  · simp [h]

end Registry

end Liveness
