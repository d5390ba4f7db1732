import Liveness.Config.Decode

/-!
# Spans as words of milliseconds

A span is written as one word, its whole milliseconds, and a word is read as a span of so
many.  The two are adjoint (`Span.le_millis_iff`): a word is at most what is written for a
span if and only if the span read from it is at most that span.  So what is read back is the
greatest span of whole milliseconds that fits a word and is not longer
(`Span.millis_read_back`).
-/

namespace Liveness.Span

variable {n : Nat} {s t : Span}

/-- A span of so many seconds and nanoseconds. -/
def ofSeconds (seconds nanos : Nat) : Span := ⟨seconds * 1000000000 + nanos⟩

/-- A word is at most what is written for a span if the span read from it is at most as long. -/
theorem le_millis_iff : n ≤ s.millis ↔ n ≤ wordMax ∧ (ofMillis n).nanos ≤ s.nanos := by
  rw [millis, Nat.le_min, Nat.le_div_iff_mul_le (by decide), nanos_ofMillis, and_comm]

theorem millis_le (s : Span) : s.millis ≤ wordMax := Nat.min_le_right _ _

theorem millis_mono (h : s.nanos ≤ t.nanos) : s.millis ≤ t.millis := by
  obtain ⟨hword, hle⟩ := le_millis_iff.mp (Nat.le_refl s.millis)
  exact le_millis_iff.mpr ⟨hword, Nat.le_trans hle h⟩

theorem millis_ofMillis (h : n ≤ wordMax) : (ofMillis n).millis = n := by
  rw [millis, nanos_ofMillis, Nat.mul_div_cancel n (by decide), Nat.min_eq_left h]

/-- What is written for a span counts its seconds and the milliseconds after them, as far as a word goes. -/
theorem millis_ofSeconds (seconds nanos : Nat) :
    (ofSeconds seconds nanos).millis = min (seconds * 1000 + nanos / 1000000) wordMax := by
  have hcount : (seconds * 1000000000 + nanos) / 1000000 = seconds * 1000 + nanos / 1000000 := by omega
  rw [millis, ofSeconds, hcount]

/-- Milliseconds are split into seconds and nanoseconds. -/
theorem ofMillis_eq_ofSeconds (n : Nat) : ofMillis n = ofSeconds (n / 1000) (n % 1000 * 1000000) := by
  rw [ofMillis, ofSeconds, mk.injEq]
  omega

/-- JSON text may hold any word. -/
theorem read_json (h : n ≤ wordMax) : Json.configFormat.millis (.int n) = some (ofMillis n) := by
  have hword : (0 : Int) ≤ n ∧ (n : Int) ≤ wordMax := ⟨Int.natCast_nonneg n, Int.ofNat_le.mpr h⟩
  exact if_pos hword

/-- A document may hold any integer that its own format allows. -/
theorem read_toml (n : Nat) : Toml.configFormat.millis (.integer n) = some (ofMillis n) := by
  have hread : Toml.configFormat.millis (.integer n) =
      if (0 : Int) ≤ n then some (ofMillis (n : Int).toNat) else none := rfl
  rw [hread, if_pos (Int.natCast_nonneg n), Int.toNat_natCast]

/-- What is read back of a span is the span itself if it is one of whole milliseconds that fit a word. -/
theorem ofMillis_millis_iff : ofMillis s.millis = s ↔ ∃ n ≤ wordMax, s = ofMillis n := by
  constructor
  · intro h
    exact ⟨s.millis, s.millis_le, h.symm⟩
  · rintro ⟨n, hn, rfl⟩
    rw [millis_ofMillis hn]

/-- A word is read, in a document as in JSON text, as a span of seconds that are a word and of nanoseconds below a
second, for which the word is written again.  Longer spans are written as larger words.  And what is read from the
word that is written for a span is the greatest span of whole milliseconds, no more than a word of them, that is not
longer: the span itself if it is such a one, and always a span that is written and read without change. -/
theorem millis_read_back :
    (∀ n ≤ wordMax, ∃ seconds nanos, Json.configFormat.millis (.int n) = some (ofSeconds seconds nanos) ∧
      Toml.configFormat.millis (.integer n) = some (ofSeconds seconds nanos) ∧
      seconds ≤ wordMax ∧ nanos < 1000000000 ∧ (ofSeconds seconds nanos).millis = n) ∧
    (∀ s t : Span, s.nanos ≤ t.nanos → s.millis ≤ t.millis) ∧
    ∀ seconds nanos,
      let s := ofSeconds seconds nanos
      s.millis = min (seconds * 1000 + nanos / 1000000) wordMax ∧
        ∃ r, Json.configFormat.millis (.int s.millis) = some r ∧
          (∃ n ≤ wordMax, r = ofMillis n) ∧ r.nanos ≤ s.nanos ∧
          (∀ n ≤ wordMax, (ofMillis n).nanos ≤ s.nanos → (ofMillis n).nanos ≤ r.nanos) ∧
          (r = s ↔ ∃ n ≤ wordMax, s = ofMillis n) ∧
          Json.configFormat.millis (.int r.millis) = some r := by
  refine ⟨fun n hn => ?_, fun s t => millis_mono, fun seconds nanos => ?_⟩
  · refine ⟨n / 1000, n % 1000 * 1000000, ?_, ?_, by omega, by omega, ?_⟩ <;> rw [← ofMillis_eq_ofSeconds]
    · exact read_json hn
    · exact read_toml n
    · exact millis_ofMillis hn
  · intro s
    have hread : ∀ t : Span, Json.configFormat.millis (.int t.millis) = some (ofMillis t.millis) := fun t =>
      read_json t.millis_le
    obtain ⟨hword, hle⟩ := le_millis_iff.mp (Nat.le_refl s.millis)
    refine ⟨millis_ofSeconds seconds nanos, ofMillis s.millis, hread s, ⟨s.millis, hword, rfl⟩, hle, ?_,
      ofMillis_millis_iff, ?_⟩
    · intro n hn hfits
      rw [nanos_ofMillis, nanos_ofMillis]
      exact Nat.mul_le_mul_right _ (le_millis_iff.mpr ⟨hn, hfits⟩)
    · rw [millis_ofMillis hword]
      exact hread s

/-- The longest span that seconds in one word make is cut off: what is read back is shorter, and stays as it is.  The
largest word is read and written again. -/
theorem millis_read_back_longest :
    let s := ofSeconds 18446744073709551615 999999999
    s.millis = 18446744073709551615 ∧
      (∃ t, Json.configFormat.millis (.int 18446744073709551615) = some t ∧ t.millis = 18446744073709551615) ∧
      ∃ r, Json.configFormat.millis (.int s.millis) = some r ∧ r.nanos ≤ s.nanos ∧ r ≠ s ∧
        Json.configFormat.millis (.int r.millis) = some r := by
  intro s
  obtain ⟨_, _, hword, -, -, -, hwritten⟩ := millis_read_back.1 18446744073709551615 (Nat.le_refl _)
  obtain ⟨hmillis, r, hread, -, hle, -, hsame, hagain⟩ :=
    millis_read_back.2.2 18446744073709551615 999999999
  have hlonger : ∀ n ≤ wordMax, s ≠ ofMillis n := by
    intro n hn heq
    have hnanos : s.nanos = n * 1000000 := congrArg nanos heq
    have hlast : s.nanos % 1000000 = 999999 := by decide
    omega
  refine ⟨hmillis, ⟨_, hword, hwritten⟩, r, hread, hle, fun heq => ?_, hagain⟩
  obtain ⟨n, hn, hs⟩ := hsame.mp heq
  exact hlonger n hn hs

end Liveness.Span
