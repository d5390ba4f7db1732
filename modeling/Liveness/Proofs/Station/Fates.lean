import Liveness.Proofs.Station.Lives

/-!
# Fates of synthetic devices

The course of a simulation is the list of all that matters to its devices.  It is `OnTime`
if everything comes at its instant by a `Timetable`, and sweeps no later than the next
round.  In the course of a timetable whose rounds follow each other closely enough, a
device that takes part in them outlives all sweeps (`OnTime.fate_talks`).  One that has
fallen silent outlives those up to its deadline (`foldl_silent`), and the first one later
than that evicts it (`foldl_late`).
-/

namespace Liveness.Station

/-- How far a synthetic device comes in a course. -/
def fate (born : Int) (limit : Span) (falls : Bool) (course : List Pulse) : Life :=
  course.foldl (Life.next born limit falls) (.online true 0 born)

/-- The instants of one kind in a course. -/
def times (kind : Pulse.Kind) (course : List Pulse) : List Int :=
  course.filterMap fun p => if p.kind = kind then some p.time else none

/-- When a device was last seen that has taken part in all rounds of a course. -/
def lastSeen (born : Int) (course : List Pulse) : Int := ((times .round course).getLast?).getD born

/-- How long a device stays that was last seen at an instant.  Its mark counts nanoseconds in one word. -/
def deadline (born : Int) (limit : Span) (seen : Int) : Int := min seen (born + wordMax) + limit.nanos

variable {born now horizon : Int} {limit : Span} {falls : Bool} {course before after : List Pulse} {n : Nat}
  {seen : Int} {kind : Pulse.Kind}

theorem times_append (kind : Pulse.Kind) (course after : List Pulse) :
    times kind (course ++ after) = times kind course ++ times kind after := List.filterMap_append

theorem times_snoc (kind kind' : Pulse.Kind) (course : List Pulse) (now : Int) :
    times kind (course ++ [⟨kind', now⟩]) = if kind' = kind then times kind course ++ [now] else times kind course := by
  rw [times_append]
  by_cases h : kind' = kind <;> simp [times, h]

theorem fate_append (born : Int) (limit : Span) (falls : Bool) (course after : List Pulse) :
    fate born limit falls (course ++ after) =
      after.foldl (Life.next born limit falls) (fate born limit falls course) := List.foldl_append

theorem lastSeen_snoc_round (born : Int) (course : List Pulse) (now : Int) :
    lastSeen born (course ++ [⟨.round, now⟩]) = now := by
  rw [lastSeen, times_snoc, if_pos rfl, List.getLast?_concat]
  rfl

theorem lastSeen_snoc (born : Int) (course : List Pulse) (hkind : kind ≠ .round) (now : Int) :
    lastSeen born (course ++ [⟨kind, now⟩]) = lastSeen born course := by
  rw [lastSeen, times_snoc, if_neg hkind]
  rfl

/-! ## Courses on time -/

/-- When a simulation starts, and when the work comes up that matters to its devices. -/
structure Timetable where
  born : Int
  schedule : Pulse.Kind → Nat → Option Int

/-- A course up to some instant that keeps to a timetable. -/
inductive OnTime (t : Timetable) : List Pulse → Int → Prop where
  | start : OnTime t [] t.born
  | wait {course : List Pulse} {now later : Int} : OnTime t course now → now ≤ later → OnTime t course later
  | pulse {course : List Pulse} {now : Int} (kind : Pulse.Kind) : OnTime t course now →
      t.schedule kind (times kind course).length = some now →
      (∀ r, t.schedule .round (times .round course).length = some r → now ≤ r) →
      OnTime t (course ++ [⟨kind, now⟩]) now

variable {t : Timetable}

namespace OnTime

theorem born_le (h : OnTime t course now) : t.born ≤ now := by
  induction h with
  | start => exact Int.le_refl _
  | wait _ hle ih => exact Int.le_trans ih hle
  | pulse _ _ _ _ ih => exact ih

/-- The moments of a kind are the first ones of its schedule. -/
theorem times_eq (h : OnTime t course now) (kind : Pulse.Kind) :
    (times kind course).map some = (List.range (times kind course).length).map (t.schedule kind) := by
  induction h with
  | start => rfl
  | wait _ _ ih => exact ih
  | pulse kind' _ hdue _ ih =>
    rw [times_snoc]
    split
    · rename_i hkind
      subst hkind
      rw [List.map_append, ih, List.length_append, List.length_singleton, List.range_succ, List.map_append,
        List.map_singleton, List.map_singleton, hdue]
    · exact ih

/-- Up to each of its moments a course keeps to the timetable. -/
theorem left (h : OnTime t course now) {p : Pulse} (hcourse : course = before ++ p :: after) :
    OnTime t before p.time := by
  induction h generalizing after with
  | start => cases before <;> cases hcourse
  | wait _ _ ih => exact ih hcourse
  | pulse kind h _ _ ih =>
    rcases List.eq_nil_or_concat after with rfl | ⟨after, q, rfl⟩
    · obtain ⟨rfl, hp⟩ := List.append_inj' hcourse rfl
      rw [← (List.cons.inj hp).1]
      exact h
    · rw [List.concat_eq_append, ← List.cons_append, ← List.append_assoc] at hcourse
      exact ih (List.append_inj' hcourse rfl).1

theorem dated (h : OnTime t course now) (limit : Span) (falls : Bool) :
    (fate t.born limit falls course).Dated t.born now := by
  induction h with
  | start => exact ⟨Int.le_refl _, Int.le_refl _⟩
  | wait _ hle ih => exact ih.mono hle
  | pulse kind h _ _ ih =>
    rw [fate_append]
    generalize fate t.born limit falls _ = life at ih
    match life, kind with
    | .online true _ _, .round => exact ⟨h.born_le, Int.le_refl _⟩
    | .online false _ _, .round | .online true _ _, .hush | .online false _ _, .hush => exact ih
    | .online _ _ _, .sweep =>
      rw [List.foldl_cons, List.foldl_nil, Life.next]
      split
      · trivial
      · exact ih
    | .evicted _, .round | .evicted _, .hush | .evicted _, .sweep => trivial
    | .reported _, .round | .reported _, .hush | .reported _, .sweep => trivial

end OnTime

/-! ## Devices that talk -/

/-- When a device was last seen that has taken part in so many rounds. -/
def Timetable.previous (t : Timetable) : Nat → Option Int
  | 0 => some t.born
  | k + 1 => t.schedule .round k

theorem OnTime.previous (h : OnTime t course now) :
    t.previous (times .round course).length = some (lastSeen t.born course) := by
  induction h with
  | start => rfl
  | wait _ _ ih => exact ih
  | pulse kind _ hdue _ ih =>
    by_cases hkind : kind = .round
    · subst hkind
      rw [lastSeen_snoc_round, times_snoc, if_pos rfl, List.length_append]
      exact hdue
    · rw [lastSeen_snoc t.born _ hkind, times_snoc, if_neg hkind]
      exact ih

/-- Up to some horizon, all sweeps before a round come within a limit after the round before that, or the start. -/
structure Timetable.Within (t : Timetable) (limit : Span) (horizon : Int) : Prop where
  gap : ∀ j k last now, t.previous k = some last → t.schedule .sweep j = some now → now ≤ horizon →
    (∀ r, t.schedule .round k = some r → now ≤ r) → now ≤ last + limit.nanos
  word : horizon ≤ t.born + wordMax + limit.nanos

/-- A device that takes part in all rounds outlives all sweeps. -/
theorem OnTime.fate_talks (h : OnTime t course now) (hwithin : t.Within limit horizon) (hnow : now ≤ horizon)
    (htalks : falls = false ∨ times .hush course = []) :
    fate t.born limit falls course = .online true (times .round course).length (lastSeen t.born course) := by
  induction h with
  | start => rfl
  | wait _ hle ih => exact ih (Int.le_trans hle hnow) htalks
  | @pulse course now kind h hdue hround ih =>
    have htalks' : falls = false ∨ times .hush course = [] := htalks.imp_right fun hnil => by
      rw [times_append] at hnil
      exact (List.append_eq_nil_iff.mp hnil).1
    rw [fate_append, ih hnow htalks']
    cases kind with
    | round =>
      rw [lastSeen_snoc_round, times_snoc, if_pos rfl, List.length_append]
      rfl
    | hush =>
      have hfalls : falls = false := htalks.resolve_right fun hnil => by
        rw [times_snoc, if_pos rfl] at hnil
        exact List.append_ne_nil_of_right_ne_nil _ (List.cons_ne_nil _ _) hnil
      subst hfalls
      rw [lastSeen_snoc t.born _ (by decide), times_snoc, if_neg (by decide)]
      rfl
    | sweep =>
      have hlast : now ≤ lastSeen t.born course + limit.nanos := hwithin.gap _ _ _ _ h.previous hdue hnow hround
      have hword : now ≤ t.born + wordMax + limit.nanos := Int.le_trans hnow hwithin.word
      have hfresh : ¬min (lastSeen t.born course) (t.born + wordMax) + limit.nanos < now := by omega
      rw [lastSeen_snoc t.born _ (by decide), times_snoc, if_neg (by decide)]
      exact if_neg hfresh

/-! ## Devices that have fallen silent -/

/-- A silent device outlives all sweeps up to its deadline. -/
theorem foldl_silent (hsweeps : ∀ now ∈ times .sweep after, now ≤ deadline born limit seen) :
    after.foldl (Life.next born limit falls) (.online false n seen) = .online false n seen := by
  induction after with
  | nil => rfl
  | cons p after ih =>
    have hafter : ∀ now ∈ times .sweep after, now ≤ deadline born limit seen := fun now hnow => hsweeps now <| by
      rw [← List.singleton_append, times_append]
      exact List.mem_append_right _ hnow
    rw [List.foldl_cons]
    match p with
    | ⟨.round, _⟩ | ⟨.hush, _⟩ => exact ih hafter
    | ⟨.sweep, now⟩ =>
      have hfresh : ¬min seen (born + wordMax) + limit.nanos < now := Int.not_lt.mpr (hsweeps now List.mem_cons_self)
      rw [Life.next, if_neg hfresh]
      exact ih hafter

/-- A device that was reported stays so. -/
theorem foldl_reported (after : List Pulse) :
    after.foldl (Life.next born limit falls) (.reported n) = .reported n := by
  induction after with
  | nil => rfl
  | cons p after ih => exact ih

/-- A device that was evicted is reported by the next round. -/
theorem foldl_evicted (after : List Pulse) :
    after.foldl (Life.next born limit falls) (.evicted n) =
      if times .round after = [] then .evicted n else .reported n := by
  induction after with
  | nil => rfl
  | cons p after ih =>
    match p with
    | ⟨.round, _⟩ => exact (foldl_reported after).trans (if_neg (List.cons_ne_nil _ _)).symm
    | ⟨.hush, _⟩ | ⟨.sweep, _⟩ => exact ih

/-- The first sweep later than its deadline evicts a silent device. -/
theorem foldl_late (hsweeps : ∀ now ∈ times .sweep before, now ≤ deadline born limit seen)
    (hlate : deadline born limit seen < now) :
    (before ++ ⟨.sweep, now⟩ :: after).foldl (Life.next born limit falls) (.online false n seen) =
      if times .round after = [] then .evicted n else .reported n := by
  rw [List.foldl_append, foldl_silent hsweeps, List.foldl_cons, Life.next,
    if_pos (show min seen (born + wordMax) + limit.nanos < now from hlate), foldl_evicted]

/-- From the moment on at which it falls silent, a device stays up to its deadline. -/
theorem OnTime.fate_silenced (h : OnTime t course now) (hwithin : t.Within limit horizon) {p : Pulse}
    (hcourse : course = before ++ p :: after) (hkind : p.kind = .hush) (hfirst : times .hush before = [])
    (hhorizon : p.time ≤ horizon) :
    fate t.born limit true course =
      after.foldl (Life.next t.born limit true)
        (.online false (times .round before).length (lastSeen t.born before)) := by
  obtain ⟨kind, hush⟩ := p
  obtain rfl : kind = .hush := hkind
  rw [hcourse, fate_append, (h.left hcourse).fate_talks hwithin hhorizon (.inr hfirst)]
  rfl

end Liveness.Station
