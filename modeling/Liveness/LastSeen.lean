import Liveness.Span

/-! # The last-seen clock of a device -/

namespace Liveness

/-- When a peer was first and last seen, the latter as nanoseconds after the former in one word. -/
structure LastSeen where
  origin : Int
  mark : Nat
  mark_le : mark ≤ wordMax
deriving DecidableEq

namespace LastSeen

/-- A clock whose first and last marks are both the given instant. -/
def startingAt (origin : Int) : LastSeen := ⟨origin, 0, Nat.zero_le _⟩

/-- Records activity at an instant; the mark never goes back and stops at the largest word. -/
def touch (c : LastSeen) (t : Int) : LastSeen where
  origin := c.origin
  mark := max c.mark (min (Span.between c.origin t).nanos wordMax)
  mark_le := Nat.max_le.2 ⟨c.mark_le, Nat.min_le_right _ _⟩

/-- The clock after touches at given instants. -/
def touches (c : LastSeen) (ts : List Int) : LastSeen := ts.foldl touch c

/-- The instant of the latest recorded activity. -/
def lastSeen (c : LastSeen) : Int := c.origin + c.mark

/-- The silence up to an instant, zero when the instant precedes the latest activity. -/
def idleFor (c : LastSeen) (now : Int) : Span := Span.between c.lastSeen now

/-- Whether the silence is strictly longer than allowed. -/
def isExpired (c : LastSeen) (now : Int) (limit : Span) : Bool :=
  limit.nanos < (c.idleFor now).nanos

@[simp] theorem origin_touch (c : LastSeen) (t : Int) : (c.touch t).origin = c.origin := rfl
@[simp] theorem touches_nil (c : LastSeen) : c.touches [] = c := rfl

@[simp] theorem touches_cons (c : LastSeen) (t : Int) (ts : List Int) :
    c.touches (t :: ts) = (c.touch t).touches ts := rfl

theorem touches_append (c : LastSeen) (ts ts' : List Int) : c.touches (ts ++ ts') = (c.touches ts).touches ts' :=
  List.foldl_append

@[simp] theorem origin_touches (c : LastSeen) (ts : List Int) : (c.touches ts).origin = c.origin := by
  induction ts generalizing c with
  | nil => rfl
  | cons t ts ih => rw [touches_cons, ih, origin_touch]

@[simp] theorem mark_startingAt (t : Int) : (startingAt t).mark = 0 := rfl
@[simp] theorem lastSeen_startingAt (t : Int) : (startingAt t).lastSeen = t := by
  simp [lastSeen, startingAt]

end LastSeen

end Liveness
