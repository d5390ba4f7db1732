import Liveness.Proofs.Agenda.Turns
import Mathlib.Logic.Function.Iterate

/-!
# The ticks of the clock

An advance stops only where work wakes up, but it comes to the same as stopping after
every millisecond: to settle where nothing is ready does nothing
(`Timeline.settle_of_idle`).  So where an advance settles does not depend on what work
there is: `Timeline.advance_eq_ticks`.
-/

namespace Liveness

variable {Job σ : Type}

namespace Timeline

variable {w : Worker Job σ} {t : Timeline Job σ}

/-- A millisecond goes by, and what is ready is done. -/
def tick (w : Worker Job σ) (t : Timeline Job σ) : Timeline Job σ := settle w (t.setNow (t.agenda.now + 1000000))

/-- How many whole milliseconds there are after an instant and up to one of them. -/
def ticks (now stop : Int) : Nat := ((stop - Instant.floorMilli now) / 1000000).toNat

theorem arrive_eq_add_ticks {now stop : Int} (hstop : 1000000 ∣ stop) (hle : Instant.floorMilli now ≤ stop) :
    Instant.arrive stop now = now + (ticks now stop : Int) * 1000000 := by
  unfold Instant.arrive ticks Instant.floorMilli at *
  omega

theorem ready_of_idle (ht : t.Idle) : t.agenda.ready = [] := by
  refine List.eq_nil_iff_forall_not_mem.mpr fun i hi => ?_
  obtain ⟨e, due, he, hdue, hready⟩ := Agenda.mem_ready.mp hi
  exact Int.not_lt.mpr (of_decide_eq_true hready) (ht i due ⟨e, he, hdue⟩)

/-- Where nothing is ready there is nothing to do. -/
theorem settle_of_idle (ht : t.Idle) (herrands : t.agenda.errands = []) : settle w t = t := by
  obtain ⟨⟨now, entries, isShutdown, errands⟩, host⟩ := t
  obtain rfl : errands = [] := herrands
  rw [settle, ready_of_idle ht]
  rfl

/-- Ticks at which nothing wakes up only move the clock. -/
theorem iterate_tick_of_forall_lt (n : Nat) (herrands : t.agenda.errands = [])
    (hlate : ∀ i due, t.Waits i due → Instant.floorMilli t.agenda.now + (n : Int) * 1000000 < due) :
    (tick w)^[n] t = t.setNow (t.agenda.now + (n : Int) * 1000000) := by
  induction n with
  | zero => exact congrArg t.setNow (by omega : t.agenda.now = t.agenda.now + ((0 : Nat) : Int) * 1000000)
  | succ n ih =>
    rw [Function.iterate_succ_apply', ih fun i due hi => by have := hlate i due hi; omega]
    have hnow : t.agenda.now + (n : Int) * 1000000 + 1000000 = t.agenda.now + ((n + 1 : Nat) : Int) * 1000000 := by
      omega
    have hidle : (t.setNow (t.agenda.now + ((n + 1 : Nat) : Int) * 1000000)).Idle := fun i due hi => by
      have hlt := hlate i due hi
      change Instant.floorMilli (t.agenda.now + ((n + 1 : Nat) : Int) * 1000000) < due
      unfold Instant.floorMilli at *
      omega
    rw [← hnow] at hidle ⊢
    exact settle_of_idle hidle herrands

/-- Ticks up to the first instant at which something wakes up only settle there. -/
theorem iterate_tick_eq_settle (herrands : t.agenda.errands = []) {due : Int}
    (hnow : Instant.floorMilli t.agenda.now < due)
    (hmin : ∀ i due', t.Waits i due' → Instant.ceilMilli due ≤ Instant.ceilMilli due') :
    (tick w)^[ticks t.agenda.now (Instant.ceilMilli due)] t = settle w (t.comeTo (Instant.ceilMilli due)) := by
  obtain ⟨n, hn⟩ : ∃ n, ticks t.agenda.now (Instant.ceilMilli due) = n + 1 := by
    refine ⟨ticks t.agenda.now (Instant.ceilMilli due) - 1, ?_⟩
    unfold ticks Instant.ceilMilli Instant.floorMilli at *
    omega
  have hlast : t.agenda.now + (n : Int) * 1000000 + 1000000 =
      Instant.arrive (Instant.ceilMilli due) t.agenda.now := by
    unfold ticks Instant.arrive Instant.ceilMilli Instant.floorMilli at *
    omega
  have hlate : ∀ i due', t.Waits i due' → Instant.floorMilli t.agenda.now + (n : Int) * 1000000 < due' := by
    intro i due' hi
    have hle := hmin i due' hi
    unfold ticks Instant.ceilMilli Instant.floorMilli at *
    omega
  rw [hn, Function.iterate_succ_apply', iterate_tick_of_forall_lt n herrands hlate, comeTo, ← hlast]
  rfl

theorem ticks_add {now wake stop : Int} (hwake : 1000000 ∣ wake) (hnow : Instant.floorMilli now ≤ wake)
    (hstop : wake ≤ stop) : ticks now stop = ticks (Instant.arrive wake now) stop + ticks now wake := by
  rw [ticks, ticks, ticks, Instant.floorMilli_arrive hwake]
  unfold Instant.floorMilli at *
  omega

variable (hw : w.Orderly)
include hw

theorem advanceTo_eq_ticks (ht : t.Rests) {stop : Int} {n : Nat} (hstop : 1000000 ∣ stop)
    (hle : Instant.floorMilli t.agenda.now ≤ stop) (hn : ticks t.agenda.now stop < n) :
    advanceTo w stop n t = (tick w)^[ticks t.agenda.now stop] (settle w t) := by
  induction n generalizing t with
  | zero => exact absurd hn (Nat.not_lt_zero _)
  | succ n ih =>
    have hrests : (settle w t).Rests := rests_settle hw ht
    have hidle : (settle w t).Idle := idle_settle hw ht.paced
    have hnow : (settle w t).agenda.now = t.agenda.now := (goes_settle hw ht.paced).now
    -- where nothing wakes up on the whole way, the clock only moves
    have hquiet : (∀ i due, (settle w t).Waits i due → stop < Instant.ceilMilli due) →
        (tick w)^[ticks t.agenda.now stop] (settle w t) = (settle w t).comeTo stop := by
      intro hlate
      rw [← hnow, iterate_tick_of_forall_lt _ hrests.errands fun i due hi => ?_, comeTo,
        arrive_eq_add_ticks hstop (hnow ▸ hle)]
      have hlt := hlate i due hi
      rw [hnow]
      unfold ticks Instant.ceilMilli Instant.floorMilli at *
      omega
    rw [advanceTo]
    cases hwake : (settle w t).agenda.nextWake with
    | none =>
      refine (hquiet ?_).symm
      rintro i due ⟨e, he, hdue⟩
      exact absurd hdue (Agenda.nextWake_eq_none hwake he)
    | some wake =>
      obtain ⟨⟨i, e, due, he, hdue, rfl⟩, hmin⟩ := Agenda.nextWake_eq_some hwake
      have hfirst : ∀ j due', (settle w t).Waits j due' → Instant.ceilMilli due ≤ Instant.ceilMilli due' := by
        rintro j due' ⟨e', he', hdue'⟩
        exact hmin j e' due' he' hdue'
      by_cases hreach : Instant.ceilMilli due ≤ stop
      · have hwhole : 1000000 ∣ Instant.ceilMilli due := Instant.dvd_ceilMilli due
        have hlt := hidle i due ⟨e, he, hdue⟩
        have hsettle := iterate_tick_eq_settle (w := w) hrests.errands hlt hfirst
        rw [hnow] at hlt hsettle
        have hfloor : Instant.floorMilli t.agenda.now < Instant.ceilMilli due :=
          Int.lt_of_lt_of_le hlt (Instant.le_ceilMilli due)
        have hadd := ticks_add hwhole (Int.le_of_lt hfloor) hreach
        have hpos : 0 < ticks t.agenda.now (Instant.ceilMilli due) := by
          unfold ticks Instant.ceilMilli Instant.floorMilli at *
          omega
        have hthere : ((settle w t).comeTo (Instant.ceilMilli due)).agenda.now =
            Instant.arrive (Instant.ceilMilli due) t.agenda.now := congrArg (Instant.arrive _) hnow
        simp only [hreach, if_true]
        rw [hadd, Function.iterate_add_apply, hsettle, ← hthere]
        refine ih (t := (settle w t).comeTo _) (hrests.setNow _) ?_ ?_
        · rwa [hthere, Instant.floorMilli_arrive hwhole]
        · rw [hthere]
          omega
      · simp only [hreach, if_false]
        exact (hquiet fun j due' hj => Int.lt_of_lt_of_le (Int.not_le.mp hreach) (hfirst j due' hj)).symm

/-- An advance settles at once and then every millisecond. -/
theorem advance_eq_ticks (ht : t.Rests) (amount : Span) :
    advance w amount t = (tick w)^[ticks t.agenda.now (Cadence.stop amount t.agenda.now)] (settle w t) := by
  refine advanceTo_eq_ticks hw ht (Cadence.dvd_stop _ _) (Cadence.floorMilli_le_stop _ _) ?_
  have hlt := Cadence.stop_sub_lt amount t.agenda.now
  unfold ticks
  omega

end Timeline

end Liveness
