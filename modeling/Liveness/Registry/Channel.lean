/-! # A channel that keeps its latest items for every reader -/

namespace Liveness

/-- How many items a channel keeps. -/
def channelCapacity : Nat := 128

/-- The items sent last, newest first, and how many were sent in all. -/
structure Channel (α : Type) where
  sent : Nat := 0
  recent : List α := []

/-- Where a reader of a channel stands: the number of the item it reads next. -/
structure Subscription where
  next : Nat
deriving DecidableEq, Repr

/-- What a reader gets at once. -/
structure Unread (α : Type) where
  /-- How many items it missed because newer ones took their place. -/
  lost : Nat
  items : List α

/-- What a reader gets when it receives. -/
inductive Reception (α : Type) where
  | item (a : α)
  /-- So many items were missed because newer ones took their place. -/
  | lagged (lost : Nat)
deriving DecidableEq, Repr

namespace Channel

variable {α : Type}

def send (c : Channel α) (a : α) : Channel α :=
  ⟨c.sent + 1, (a :: c.recent).take channelCapacity⟩

/-- A reader of all that is sent from now on. -/
def subscribe (c : Channel α) : Subscription := ⟨c.sent⟩

/-- All that a reader has not read, oldest first. -/
def unread (c : Channel α) (s : Subscription) : Unread α where
  lost := c.sent - c.recent.length - s.next
  items := (c.recent.take (c.sent - s.next)).reverse

/-- A reader receives the oldest item that it has not read, if there is one, but hears first of those that
it missed. -/
def receive (c : Channel α) (s : Subscription) : Option (Reception α) × Subscription :=
  let oldest := c.sent - c.recent.length
  if s.next < oldest then (some (.lagged (oldest - s.next)), ⟨oldest⟩)
  else
    match (c.recent.take (c.sent - s.next)).getLast? with
    | some a => (some (.item a), ⟨s.next + 1⟩)
    | none => (none, s)

@[simp] theorem sent_send (c : Channel α) (a : α) : (c.send a).sent = c.sent + 1 := rfl

@[simp] theorem unread_subscribe (c : Channel α) : (c.unread c.subscribe).items = [] := by
  simp [unread, subscribe]

end Channel

end Liveness
