import Liveness.Address

/-! # Connections to peers

The transport below a connection is not part of the library. A link is what it shows of itself: one
that counts its traffic, one that answers from a script, and one that can only be closed.
-/

namespace Liveness

/-- Answers given one after the other; the last one is given again and again. -/
structure Script (α : Type) where
  answers : List α
  /-- How many were asked for. -/
  asked : Nat := 0
deriving Repr

namespace Script

variable {α : Type}

/-- The next answer; a script without answers gives the default. -/
def next (default : α) (s : Script α) : α × Script α :=
  match s.answers with
  | [] => (default, { s with asked := s.asked + 1 })
  | [a] => (a, { s with asked := s.asked + 1 })
  | a :: rest => (a, ⟨rest, s.asked + 1⟩)

@[simp] theorem asked_next (default : α) (s : Script α) : (s.next default).2.asked = s.asked + 1 := by
  unfold next
  split <;> rfl

end Script

/-- Why a connection did not take data or did not close. -/
inductive TransportError where
  | closed
  | bufferFull (pending : Nat)
  | other (text : String)
deriving DecidableEq, Repr

namespace TransportError

def message : TransportError → String
  | .closed => "connection closed"
  | .bufferFull pending => s!"send buffer full ({pending} bytes pending)"
  | .other text => s!"transport error: {text}"

end TransportError

abbrev Delivery := Except TransportError Unit

/-- A link that counts what goes through it. -/
structure CountingLink where
  peer : Option Address := none
  endpoint : Option Address := none
  /-- Closing fails and leaves the link open. -/
  failsToClose : Bool := false
  closed : Bool := false
  closeCalls : Nat := 0
  packets : Nat := 0
  bytes : Nat := 0

/-- A link that answers every call from a script. -/
structure ScriptedLink where
  peer : Option Address := none
  endpoint : Option Address := none
  sends : Script Delivery
  closes : Script Delivery
  opens : Script Bool

inductive Link where
  | counting (l : CountingLink)
  | scripted (l : ScriptedLink)
  /-- Takes all data and is open until it is closed. -/
  | bare (isOpen : Bool)

namespace Link

def peer? : Link → Option Address
  | .counting l => l.peer
  | .scripted l => l.peer
  | .bare _ => none

/-- The local address of a connection. -/
def endpoint? : Link → Option Address
  | .counting l => l.endpoint
  | .scripted l => l.endpoint
  | .bare _ => none

/-- Sends so many bytes. -/
def send (size : Nat) : Link → Delivery × Link
  | .counting l =>
    if l.closed then (.error .closed, .counting l)
    else (.ok (), .counting { l with packets := l.packets + 1, bytes := l.bytes + size })
  | .scripted l =>
    let (answer, sends) := l.sends.next (.ok ())
    (answer, .scripted { l with sends })
  | .bare isOpen => (.ok (), .bare isOpen)

def close : Link → Delivery × Link
  | .counting l =>
    let l := { l with closeCalls := l.closeCalls + 1 }
    if l.failsToClose then (.error (.other "simulated close failure"), .counting l)
    else (.ok (), .counting { l with closed := true })
  | .scripted l =>
    let (answer, closes) := l.closes.next (.ok ())
    (answer, .scripted { l with closes })
  | .bare _ => (.ok (), .bare false)

/-- Asks whether the connection is open; a script counts the question. -/
def isOpen : Link → Bool × Link
  | .counting l => (!l.closed, .counting l)
  | .scripted l =>
    let (answer, opens) := l.opens.next true
    (answer, .scripted { l with opens })
  | .bare isOpen => (isOpen, .bare isOpen)

end Link

end Liveness
