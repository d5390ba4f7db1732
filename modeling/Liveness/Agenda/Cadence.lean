import Liveness.Span

/-! # The rhythm of recurring work

Recurring work is due on a grid: its first due instant and every period after that. The clock can
jump past due instants. Work that is late by no more than a tolerance is caught up instant by
instant; work that is later runs once and goes on at the next instant of its grid.
-/

namespace Liveness.Cadence

/-- How late work may be and still count as on time: five milliseconds. -/
def tolerance : Span := Span.ofMillis 5

/-- Work wakes up at whole milliseconds, the first one not before its due instant. -/
def isReady (due now : Int) : Bool := due ≤ Instant.floorMilli now

/-- The due instants that work ready at `now` serves at once. -/
def served (due : Int) (period : Span) (now : Int) : List Int :=
  if now ≤ tolerance.after due then
    let count := ((Instant.floorMilli now - due) / period.nanos).toNat + 1
    (List.range count).map fun (k : Nat) => due + k * period.nanos
  else [due]

/-- No wait is longer than this, but the first one of recurring work: thirty years of 365 days. -/
def longestWait : Span := .ofMillis 946080000000

/-- When work is due that would like to wait until an instant. -/
def within (now due : Int) : Int := min due (longestWait.after now)

/-- The whole millisecond at which a wait of some length is over. -/
def stop (amount : Span) (now : Int) : Int := Instant.ceilMilli (within now (amount.after now))

/-- The clock has no instants from here on: it counts seconds in a signed word of 64 bits, and has
counted at least one when time begins. -/
def clockEnd : Int := 9223372036854775807000000000

/-- When recurring work is first due after a wait, however long. If the clock has no such instant there is
none. -/
def first? (delay : Span) (now : Int) : Option Int :=
  if delay.after now < clockEnd then some (delay.after now) else none

/-- The first due instant of the grid that is left after work ready at `now` was done. Late work finds
none when the clock has no instant one period from now, or when it is further behind its grid than a
word can count in nanoseconds. -/
def next? (due : Int) (period : Span) (now : Int) : Option Int :=
  if now ≤ tolerance.after due then
    some (within now
      (due + (((Instant.floorMilli now - due) / period.nanos).toNat + 1 : Nat) * period.nanos))
  else
    let behind := (now - due) % period.nanos
    if period.after now < clockEnd && behind ≤ wordMax then
      some (within now (period.after now - behind))
    else none

end Liveness.Cadence
