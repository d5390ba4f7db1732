import Liveness.Proofs.Hub.Panics
import Mathlib.Logic.Equiv.Defs

/-!
# Other numbers for the same things

Appearances of devices and connections are numbered as they come, over the whole hub, so
a run that does less gives other numbers to the same things.  No call looks at these numbers
but to compare them or to look a connection up.  A `Naming` says which numbers stand for each other in
two runs, and what devices, notices, calls and answers look like under the other numbers.
-/

namespace Liveness

/-- Which numbers of appearances and of connections stand for each other in two runs. -/
structure Naming where
  serial : Equiv.Perm Nat
  link : Equiv.Perm Nat

/-- What one observer heard of an id, and when. -/
structure Sighting where
  time : Int
  observer : Nat
  notice : Notice
  present : Bool

namespace Naming

def inverse (ν : Naming) : Naming := ⟨ν.serial.symm, ν.link.symm⟩

/-- A device under the other numbers.  Its id, its clock and all else stay. -/
def device (ν : Naming) (d : Device) : Device := { d with serial := ν.serial d.serial, link := ν.link d.link }

def profile (ν : Naming) (p : Profile) : Profile := { p with link := ν.link p.link }

def notice (ν : Naming) : Notice → Notice
  | .added id d old => .added id (ν.device d) (old.map ν.device)
  | .removed id d reason => .removed id (ν.device d) reason

def sighting (ν : Naming) (m : Sighting) : Sighting := { m with notice := ν.notice m.notice }

def recipe (ν : Naming) : Recipe → Recipe
  | .make p => .make (ν.profile p)
  | r => r

/-- A call under the other numbers.  A check that looks at a device looks at the one that it stands for. -/
def op (ν : Naming) : Hub.Op → Hub.Op
  | .put p => .put (ν.profile p)
  | .getOrCreate id recipe => .getOrCreate id (ν.recipe recipe)
  | .removeIf id reason check => .removeIf id reason fun d => check (ν.inverse.device d)
  | .sweepOver asOf limit snapshot => .sweepOver asOf limit (snapshot.map ν.device)
  | .send link size => .send (ν.link link) size
  | .close link => .close (ν.link link)
  | .alter link l => .alter (ν.link link) l
  | .reportActive id link => .reportActive id (ν.link link)
  | .reportInactive link => .reportInactive (ν.link link)
  | o => o

def creation (ν : Naming) : Creation → Creation
  | .found d => .found (ν.device d)
  | .made d => .made (ν.device d)
  | c => c

def removal (ν : Naming) : Removal → Removal
  | .removed d => .removed (ν.device d)
  | r => r

def reply (ν : Naming) : Hub.Reply → Hub.Reply
  | .found d => .found (d.map ν.device)
  | .creation c => .creation (ν.creation c)
  | .removal r => .removal (ν.removal r)
  | .sequence s => .sequence (s.map fun a => (a.1, ν.device a.2))
  | .link l => .link (ν.link l)
  | r => r

@[simp] theorem inverse_device (ν : Naming) (d : Device) : ν.inverse.device (ν.device d) = d := by
  simp [inverse, device]

@[simp] theorem id_notice (ν : Naming) (n : Notice) : (ν.notice n).id = n.id := by
  cases n <;> rfl

end Naming

end Liveness
