import Liveness.LastSeen

/-!
# Clocks under any touches

A clock shows the latest of its touches, in whatever order they came and however often,
as far as its mark reaches (`LastSeen.lastSeen_touches`).  What it shows lies below an
instant if and only if each touch does (`LastSeen.lastSeen_touches_le_iff`), which is all
that the question of silence needs to know.
-/

namespace Liveness.LastSeen

variable {origin t now : Int} {ts : List Int} {limit : Span}

/-- Two clocks that started together and show the same are the same. -/
theorem eq_of_lastSeen {c c' : LastSeen} (horigin : c.origin = c'.origin) (h : c.lastSeen = c'.lastSeen) : c = c' := by
  obtain ⟨origin, mark, hmark⟩ := c
  obtain ⟨origin', mark', hmark'⟩ := c'
  obtain rfl : origin = origin' := horigin
  simp only [lastSeen] at h
  obtain rfl : mark = mark' := by omega
  rfl

/-- A touch counts as far as the mark reaches. -/
theorem lastSeen_touch (c : LastSeen) (t : Int) :
    (c.touch t).lastSeen = max c.lastSeen (min t (c.origin + wordMax)) := by
  simp only [lastSeen, touch, Span.nanos_between]
  omega

theorem lastSeen_le_touch (c : LastSeen) (t : Int) : c.lastSeen ≤ (c.touch t).lastSeen := by
  rw [lastSeen_touch]
  exact Int.le_max_left _ _

/-- What a clock shows is the least instant that no touch exceeds, as far as the mark reaches. -/
theorem lastSeen_touches_le_iff (c : LastSeen) (ts : List Int) (x : Int) :
    (c.touches ts).lastSeen ≤ x ↔ c.lastSeen ≤ x ∧ ∀ t ∈ ts, min t (c.origin + wordMax) ≤ x := by
  induction ts generalizing c with
  | nil => simp
  | cons t ts ih =>
    rw [touches_cons, ih, lastSeen_touch, origin_touch, Int.max_le, List.forall_mem_cons, and_assoc]

theorem lastSeen_touches_mono (c : LastSeen) {ts ts' : List Int} (h : ts ⊆ ts') :
    (c.touches ts).lastSeen ≤ (c.touches ts').lastSeen := by
  obtain ⟨hstart, hall⟩ := (lastSeen_touches_le_iff c ts' _).mp (Int.le_refl _)
  exact (lastSeen_touches_le_iff c ts _).mpr ⟨hstart, fun t ht => hall t (h ht)⟩

/-- The latest touch, counted from the start and cut off where the mark ends. -/
theorem lastSeen_touches (origin : Int) (ts : List Int) :
    ((startingAt origin).touches ts).lastSeen - origin = min ((ts.map (· - origin)).foldl max 0) wordMax := by
  -- the maximum so far may have left the mark behind, so it is cut off before the two are compared
  suffices ∀ (ts : List Int) (c : LastSeen) (furthest : Int), c.lastSeen - c.origin = min furthest wordMax →
      (c.touches ts).lastSeen - c.origin = min ((ts.map (· - c.origin)).foldl max furthest) wordMax by
    refine this ts (startingAt origin) 0 ?_
    rw [lastSeen_startingAt, startingAt, Int.sub_self, Int.min_eq_left (Int.natCast_nonneg wordMax)]
  intro ts
  induction ts with
  | nil => exact fun c furthest h => h
  | cons t ts ih =>
    intro c furthest h
    refine ih (c.touch t) (max furthest (t - c.origin)) ?_
    rw [lastSeen_touch, origin_touch]
    omega

/-- The latest of all refreshes, as far as the mark reaches. -/
theorem lastSeen_touches_eq (origin : Int) (ts : List Int) :
    ((startingAt origin).touches ts).lastSeen = min (ts.foldl max origin) (origin + wordMax) := by
  have hshift : ∀ (ts : List Int) (x : Int), (ts.map (· - origin)).foldl max (x - origin) = ts.foldl max x - origin := by
    intro ts
    induction ts with
    | nil => exact fun x => rfl
    | cons t ts ih =>
      intro x
      rw [List.map_cons, List.foldl_cons, List.foldl_cons, ← ih, ← Int.sub_max_sub_right]
  have hlatest := lastSeen_touches origin ts
  have hstart := hshift ts origin
  rw [Int.sub_self] at hstart
  rw [hstart] at hlatest
  omega

/-! ## Silence -/

theorem nanos_idleFor (c : LastSeen) (now : Int) : ((c.idleFor now).nanos : Int) = max 0 (now - c.lastSeen) := by
  rw [idleFor, Span.nanos_between, Int.toNat_eq_max, Int.max_comm]

theorem isExpired_iff (c : LastSeen) (now : Int) (limit : Span) :
    c.isExpired now limit ↔ c.lastSeen + limit.nanos < now := by
  rw [isExpired, idleFor, Span.nanos_between, decide_eq_true_iff]
  omega

/-- A silence is too long if it is so for the start and for each touch alone. -/
theorem isExpired_touches_iff (c : LastSeen) (hreach : ∀ t ∈ ts, t ≤ c.origin + wordMax) :
    (c.touches ts).isExpired now limit ↔ c.isExpired now limit ∧ ∀ t ∈ ts, t + limit.nanos < now := by
  have hbound : (c.touches ts).lastSeen ≤ now - limit.nanos - 1 ↔
      c.lastSeen ≤ now - limit.nanos - 1 ∧ ∀ t ∈ ts, t ≤ now - limit.nanos - 1 := by
    rw [lastSeen_touches_le_iff]
    refine and_congr_right fun _ => forall₂_congr fun t ht => ?_
    rw [Int.min_eq_left (hreach t ht)]
  have hbelow : ∀ x : Int, x + limit.nanos < now ↔ x ≤ now - limit.nanos - 1 := by
    intro x
    omega
  simp only [isExpired_iff, hbelow]
  exact hbound

theorem isExpired_of_touch {c : LastSeen} (h : (c.touch t).isExpired now limit) : c.isExpired now limit := by
  rw [isExpired_iff] at h ⊢
  have hle := c.lastSeen_le_touch t
  omega

theorem isExpired_mono {c : LastSeen} {now' : Int} (hle : now ≤ now') (h : c.isExpired now limit) :
    c.isExpired now' limit := by
  rw [isExpired_iff] at h ⊢
  omega

/-- A clock shows the latest of its touches, or its start, as far as its mark reaches; neither order nor repetition of
the touches counts, and it never goes back.  Its silence is strictly longer than allowed if and only if the instant
lies strictly after the sum of what it shows and what is allowed; so, while the mark reaches, if and only if the same
holds for the start and for each touch.  A touch never makes a silence too long, and a later instant never makes it
short enough. -/
theorem clock_of_touches (origin : Int) (ts : List Int) :
    let c : LastSeen := (startingAt origin).touches ts
    c.lastSeen - origin = min ((ts.map (· - origin)).foldl max 0) wordMax ∧
      (∀ ts', (∀ t, t ∈ ts' ↔ t ∈ ts) → (startingAt origin).touches ts' = c) ∧
      (∀ earlier, earlier <+: ts → ((startingAt origin).touches earlier).lastSeen ≤ c.lastSeen) ∧
      (∀ now limit, ((c.idleFor now).nanos : Int) = max 0 (now - c.lastSeen) ∧
        (c.isExpired now limit ↔ c.lastSeen + limit.nanos < now)) ∧
      ((∀ t ∈ ts, t - origin ≤ wordMax) → ∀ now limit,
        c.isExpired now limit ↔ origin + limit.nanos < now ∧ ∀ t ∈ ts, t + limit.nanos < now) ∧
      (∀ t now limit, (c.touch t).isExpired now limit → c.isExpired now limit) ∧
      ∀ now now' limit, now ≤ now' → c.isExpired now limit → c.isExpired now' limit := by
  intro c
  refine ⟨lastSeen_touches origin ts, fun ts' hsame => ?_, fun earlier hprefix => ?_,
    fun now limit => ⟨nanos_idleFor c now, isExpired_iff c now limit⟩, fun hreach now limit => ?_,
    fun t now limit => isExpired_of_touch, fun now now' limit => isExpired_mono⟩
  · have hseen : ((startingAt origin).touches ts').lastSeen = c.lastSeen :=
      Int.le_antisymm (lastSeen_touches_mono _ fun t => (hsame t).mp) (lastSeen_touches_mono _ fun t => (hsame t).mpr)
    exact eq_of_lastSeen (by rw [origin_touches, origin_touches]) hseen
  · exact lastSeen_touches_mono _ hprefix.subset
  · have hreach' : ∀ t ∈ ts, t ≤ origin + wordMax := by
      intro t ht
      have hle := hreach t ht
      omega
    rw [isExpired_touches_iff _ hreach', isExpired_iff, lastSeen_startingAt]

/-- Touches out of order, before the start, twice, and as late as the mark reaches: the limit is strict. -/
theorem clock_of_touches_out_of_order :
    let ts : List Int := [2500, 18446744073709552615, 400, 2500]
    let c := (startingAt 1000).touches ts
    (∀ t ∈ ts, t - 1000 ≤ wordMax) ∧ c.lastSeen = 18446744073709552615 ∧
      c = (startingAt 1000).touches [400, 2500, 18446744073709552615] ∧
      c.isExpired 18446744073709552618 ⟨2⟩ ∧ ¬c.isExpired 18446744073709552617 ⟨2⟩ := by
  intro ts c
  obtain ⟨hseen, hsame, -, -, hexpired, -, -⟩ := clock_of_touches 1000 ts
  have hreach : ∀ t ∈ ts, t - 1000 ≤ wordMax := by decide
  refine ⟨hreach, ?_, (hsame _ fun t => ?_).symm, (hexpired hreach _ _).mpr (by decide), fun h => ?_⟩
  · have hlatest : min ((ts.map (· - 1000)).foldl max (0 : Int)) wordMax = 18446744073709551615 := by decide
    rw [hlatest] at hseen
    change c.lastSeen - 1000 = _ at hseen
    omega
  · simp only [ts, List.mem_cons, List.not_mem_nil, or_false]
    omega
  · exact absurd ((hexpired hreach _ _).mp h) (by decide)

end Liveness.LastSeen
