/-! # Spans of time and instants

An instant is an integer, the nanoseconds after the start of the monotonic clock.
-/

namespace Liveness

/-- The largest number that a 64-bit word holds. -/
def wordMax : Nat := 18446744073709551615

/-- A length of time in nanoseconds. -/
structure Span where
  nanos : Nat
deriving DecidableEq, Repr, Inhabited

namespace Span

def zero : Span := ⟨0⟩

def ofMillis (n : Nat) : Span := ⟨n * 1000000⟩

/-- Whole milliseconds of a span, cut off at the largest word. -/
def millis (s : Span) : Nat := min (s.nanos / 1000000) wordMax

def isZero (s : Span) : Bool := s.nanos == 0

/-- The instant a span after another instant. -/
def after (s : Span) (t : Int) : Int := t + s.nanos

/-- The span from one instant to another, zero when the second is not later. -/
def between (start stop : Int) : Span := ⟨(stop - start).toNat⟩

/-- The period at which work recurs: one below a millisecond counts as one millisecond. -/
def asPeriod (s : Span) : Span := if s.nanos < 1000000 then ofMillis 1 else s

/-- The text of a span below one millisecond, in nanoseconds or microseconds. -/
def shortText (s : Span) : String :=
  if s.nanos < 1000 then s!"{s.nanos}ns"
  else
    let digits := (toString (1000 + s.nanos % 1000)).toList.drop 1
    let kept := (digits.reverse.dropWhile (· == '0')).reverse
    let fraction := if kept.isEmpty then "" else "." ++ String.ofList kept
    toString (s.nanos / 1000) ++ fraction ++ "µs"

@[simp] theorem nanos_ofMillis (n : Nat) : (ofMillis n).nanos = n * 1000000 := rfl
@[simp] theorem nanos_between (a b : Int) : (between a b).nanos = (b - a).toNat := rfl

theorem whole_of_ofMillis {s : Span} (h : ∃ n, 0 < n ∧ s = ofMillis n) : 1000000 ≤ s.nanos ∧ 1000000 ∣ s.nanos := by
  obtain ⟨n, hn, rfl⟩ := h
  rw [nanos_ofMillis]
  exact ⟨Nat.le_mul_of_pos_left 1000000 hn, Nat.dvd_mul_left 1000000 n⟩

theorem asPeriod_ge (s : Span) : 1000000 ≤ s.asPeriod.nanos := by
  unfold asPeriod
  split
  · simp
  · omega

end Span

namespace Instant

/-- The last whole millisecond at or before an instant. -/
def floorMilli (t : Int) : Int := t / 1000000 * 1000000

/-- The first whole millisecond at or after an instant. -/
def ceilMilli (t : Int) : Int := -floorMilli (-t)

/-- Whole milliseconds since the start of the clock. -/
def millis (t : Int) : Nat := t.toNat / 1000000

/-- The instant at which a clock that moves by whole milliseconds comes to one of these: it keeps what it is
past its own. -/
def arrive (milli now : Int) : Int := now + (milli - floorMilli now)

theorem floorMilli_le (t : Int) : floorMilli t ≤ t := by
  unfold floorMilli; omega

theorem le_ceilMilli (t : Int) : t ≤ ceilMilli t := by
  unfold ceilMilli floorMilli; omega

theorem dvd_ceilMilli (t : Int) : 1000000 ∣ ceilMilli t := by
  unfold ceilMilli floorMilli; omega

theorem floorMilli_of_dvd {t : Int} (h : 1000000 ∣ t) : floorMilli t = t := by
  unfold floorMilli; omega

theorem ceilMilli_of_dvd {t : Int} (h : 1000000 ∣ t) : ceilMilli t = t := by
  unfold ceilMilli floorMilli; omega

theorem floorMilli_arrive {milli : Int} (h : 1000000 ∣ milli) (now : Int) : floorMilli (arrive milli now) = milli := by
  unfold arrive floorMilli; omega

theorem dvd_arrive_sub {milli : Int} (h : 1000000 ∣ milli) (now : Int) : 1000000 ∣ arrive milli now - now := by
  unfold arrive floorMilli; omega

theorem arrive_arrive {milli : Int} (h : 1000000 ∣ milli) (milli' now : Int) :
    arrive milli' (arrive milli now) = arrive milli' now := by
  unfold arrive floorMilli; omega

theorem le_arrive {milli now : Int} (h : floorMilli now ≤ milli) : now ≤ arrive milli now := by
  unfold arrive; omega

end Instant

end Liveness
