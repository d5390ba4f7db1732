import Liveness.Proofs.Station.FixedRate

/-!
# Runs of recurring work at one instant

Work that is late by more than is tolerated runs once and leaves the instants out that it
missed.  Work that is less late serves all of them at once: it runs in a *burst*, at due
instants one period apart, the first of which is not earlier than is tolerated
(`Entry.Sparse`).  So work with a period longer than the tolerance never runs twice at one
instant, other work no more often than periods fit into it; and if the clock does not leap
all work runs at most once (`Station.bursts_are_short`).
-/

namespace Liveness

namespace Cadence

/-- Instants one period apart. -/
def successive (first : Int) (period : Span) (n : Nat) : List Int :=
  (List.range n).map fun (k : Nat) => first + k * period.nanos

/-- How many due instants work that is ready serves at once. -/
def catchUp (due : Int) (period : Span) (now : Int) : Nat :=
  if now ≤ tolerance.after due then ((Instant.floorMilli now - due) / period.nanos).toNat + 1 else 1

variable {first due now : Int} {period : Span} {n : Nat} {ran : List Int}

@[simp] theorem length_successive : (successive first period n).length = n := by
  simp [successive]

theorem served_eq (due : Int) (period : Span) (now : Int) :
    served due period now = successive due period (catchUp due period now) := by
  unfold served catchUp
  split
  · rfl
  · simp [successive]

theorem eq_successive_of_prefix (h : ran <+: successive first period n) :
    ∃ m, m ≤ n ∧ ran = successive first period m := by
  refine ⟨ran.length, ?_, ?_⟩
  · simpa using h.length_le
  · have hlength : ran.length ≤ n := by simpa using h.length_le
    rw [List.prefix_iff_eq_take] at h
    rw [h, successive, ← List.map_take, List.take_range, successive, List.length_map, List.length_range,
      Nat.min_eq_left hlength]

/-- The instants that are served at once lie between the tolerance and now. -/
theorem catchUp_spec (hperiod : 0 < period.nanos) (hready : isReady due now) {m : Nat}
    (hm : m ≤ catchUp due period now) (hmany : 1 < m) :
    due + (m - 1 : Nat) * period.nanos ≤ now ∧ now ≤ tolerance.after due := by
  have hle : due ≤ Instant.floorMilli now := of_decide_eq_true hready
  have hfloor : Instant.floorMilli now ≤ now := Instant.floorMilli_le now
  unfold catchUp at hm
  split at hm
  · rename_i htolerance
    refine ⟨?_, htolerance⟩
    have hquot : 0 ≤ (Instant.floorMilli now - due) / period.nanos := Int.ediv_nonneg (by omega) (by omega)
    have hcount : ((m - 1 : Nat) : Int) ≤ (Instant.floorMilli now - due) / period.nanos := by omega
    have hmul : ((m - 1 : Nat) : Int) * period.nanos ≤ Instant.floorMilli now - due :=
      Int.le_trans (Int.mul_le_mul_of_nonneg_right hcount (by omega)) (Int.ediv_mul_le _ (by omega))
    omega
  · omega

end Cadence

section

variable {Job σ : Type}

namespace Entry

/-- The runs of a piece of work at an instant, the latest first. -/
def runsAt (e : Entry Job) (time : Int) : List Run := e.runs.filter (·.time = time)

/-- The runs of work at an instant serve due instants one period apart; if there is more than one, these lie
between the tolerance and the instant of the runs. -/
def Burst (p : Span) (e : Entry Job) (time : Int) : Prop :=
  ∃ first n, (e.runsAt time).map Run.due = (Cadence.successive first p n).reverse ∧
    (1 < n → first + (n - 1 : Nat) * p.nanos ≤ time ∧ time ≤ Cadence.tolerance.after first)

/-- Work with a period that has run in bursts, and waits for a time when it has not run yet. -/
structure Sparse (p : Span) (e : Entry Job) : Prop where
  period : e.period = some p
  past : ∀ due, e.due? = some due → ∀ r ∈ e.runs, Instant.floorMilli r.time < due
  bursts : ∀ time, e.Burst p time

variable {e e' : Entry Job} {p : Span} {now time : Int} {ran : List Int}

theorem Sparse.still (h : e.Sparse p) (hstill : e.Still e') : e'.Sparse p where
  period := hstill.later.period.trans h.period
  past := fun due hdue => hstill.runs ▸ h.past due (hstill.due due hdue)
  bursts := fun time => by
    rw [Burst, runsAt, hstill.runs]
    exact h.bursts time

/-- No more runs fit into an instant than periods into the tolerance, and one. -/
theorem Burst.length_le (hp : 0 < p.nanos) (h : e.Burst p time) :
    (e.runsAt time).length ≤ Cadence.tolerance.nanos / p.nanos + 1 := by
  obtain ⟨first, n, hdues, hmany⟩ := h
  have hlength : (e.runsAt time).length = n := by
    simpa using congrArg List.length hdues
  by_cases hn : 1 < n
  · obtain ⟨hlast, hfirst⟩ := hmany hn
    have hfits : (n - 1) * p.nanos ≤ Cadence.tolerance.nanos := by
      have hcast : (((n - 1) * p.nanos : Nat) : Int) = (n - 1 : Nat) * p.nanos := Int.natCast_mul _ _
      simp only [Span.after] at hfirst
      omega
    have hcount : n - 1 ≤ Cadence.tolerance.nanos / p.nanos := (Nat.le_div_iff_mul_le hp).mpr hfits
    rw [hlength]
    exact Nat.le_add_of_sub_le hcount
  · rw [hlength]
    exact Nat.le_trans (Nat.le_of_not_lt hn) (Nat.le_add_left 1 _)

theorem runsAt_now (hruns : e'.runs = (ran.map (Run.mk · now)).reverse ++ e.runs)
    (hbefore : ∀ r ∈ e.runs, r.time ≠ now) : e'.runsAt now = (ran.map (Run.mk · now)).reverse := by
  have hnew : (ran.map (Run.mk · now)).reverse.filter (·.time = now) = (ran.map (Run.mk · now)).reverse := by
    refine List.filter_eq_self.mpr fun r hr => ?_
    obtain ⟨due, -, rfl⟩ := List.mem_map.mp (List.mem_reverse.mp hr)
    exact decide_eq_true rfl
  have hold : e.runs.filter (·.time = now) = [] :=
    List.filter_eq_nil_iff.mpr fun r hr htime => hbefore r hr (of_decide_eq_true htime)
  rw [runsAt, hruns, List.filter_append, hnew, hold, List.append_nil]

theorem runsAt_of_ne (hruns : e'.runs = (ran.map (Run.mk · now)).reverse ++ e.runs) (hne : time ≠ now) :
    e'.runsAt time = e.runsAt time := by
  have hnew : (ran.map (Run.mk · now)).reverse.filter (·.time = time) = [] := by
    refine List.filter_eq_nil_iff.mpr fun r hr htime => ?_
    obtain ⟨due, -, rfl⟩ := List.mem_map.mp (List.mem_reverse.mp hr)
    exact hne (of_decide_eq_true htime).symm
  rw [runsAt, hruns, List.filter_append, hnew, List.nil_append, runsAt]

end Entry

namespace Timeline

variable {w : Worker Job σ} {t : Timeline Job σ} {i : EntryId} {e : Entry Job} {p : Span}

/-- Work that wakes up runs in one burst, which has the length that its delay asks for if the work is still
live after that. -/
theorem sparse_wake (he : t.agenda.entries[i]? = some e) (hp : 0 < p.nanos) (h : e.Sparse p) {due : Int}
    (hdue : e.due? = some due) (hready : Cadence.isReady due t.agenda.now) :
    ∃ e', (wake w t i).agenda.entries[i]? = some e' ∧ e'.Sparse p ∧
      (∀ time, time ≠ t.agenda.now → e'.runsAt time = e.runsAt time) ∧
      (e'.runsAt t.agenda.now).length ≤ Cadence.catchUp due p t.agenda.now ∧
      (e'.isLive → (e'.runsAt t.agenda.now).length = Cadence.catchUp due p t.agenda.now) ∧
      ∀ due', e'.due? = some due' → Instant.floorMilli t.agenda.now < due' := by
  obtain ⟨ran, e', he', hran, -, hall, hlater, hruns, hwaits⟩ := wake_recurring (w := w) he h.period hdue
  rw [Cadence.served_eq] at hran hall
  obtain ⟨m, hm, rfl⟩ := Cadence.eq_successive_of_prefix hran
  -- it waited for an instant after all of its runs, and the clock has come there
  have hbefore : ∀ r ∈ e.runs, Instant.floorMilli r.time < Instant.floorMilli t.agenda.now := fun r hr =>
    Int.lt_of_lt_of_le (h.past due hdue r hr) (of_decide_eq_true hready)
  have hnow := Entry.runsAt_now hruns fun r hr htime => Int.lt_irrefl _ (htime ▸ hbefore r hr)
  have hlength : (e'.runsAt t.agenda.now).length = m := by
    rw [hnow, List.length_reverse, List.length_map, Cadence.length_successive]
  refine ⟨e', he', ⟨hlater.period.trans h.period, fun due' hdue' r hr => ?_, fun time => ?_⟩,
    fun time hne => Entry.runsAt_of_ne hruns hne, hlength ▸ hm, fun hlive => ?_,
    fun due' hdue' => Cadence.floorMilli_lt_next hp (hwaits due' hdue')⟩
  · refine Int.lt_of_le_of_lt ?_ (Cadence.floorMilli_lt_next hp (hwaits due' hdue'))
    rw [hruns, List.mem_append, List.mem_reverse, List.mem_map] at hr
    rcases hr with ⟨due, -, rfl⟩ | hr
    · exact Int.le_refl _
    · exact Int.le_of_lt (hbefore r hr)
  · by_cases htime : time = t.agenda.now
    · subst htime
      refine ⟨due, m, ?_, Cadence.catchUp_spec hp hready hm⟩
      rw [hnow, List.map_reverse, List.map_map]
      exact congrArg List.reverse (List.map_id _)
    · rw [Entry.Burst, Entry.runsAt_of_ne hruns htime]
      exact h.bursts time
  · have hlengths := congrArg List.length (hall hlive)
    rw [Cadence.length_successive, Cadence.length_successive] at hlengths
    exact hlength.trans hlengths

end Timeline

end

namespace Station

variable {s : Station} {i : EntryId} {e : Entry Job} {p : Span}

/-- Every act in its turn leaves recurring work with bursts only. -/
theorem sparse_act {a : Act} (hmay : s.May a) (he : s.agenda.entries[i]? = some e) (hp : 0 < p.nanos)
    (h : e.Sparse p) : ∃ e', (s.act a).agenda.entries[i]? = some e' ∧ e'.Sparse p := by
  by_cases hwake : a = .time (.wake i)
  · subst hwake
    by_cases hwaits : ∃ due, s.timeline.Waits i due
    · obtain ⟨due, e', he', hdue⟩ := hwaits
      obtain rfl := Option.some.inj (he.symm.trans he')
      obtain ⟨e', he', h', -⟩ :=
        Timeline.sparse_wake (w := Floor.worker) (t := s.timeline) he hp h hdue (hmay due ⟨e, he, hdue⟩)
      exact ⟨e', he', h'⟩
    · refine ⟨e, ?_, h⟩
      change (Timeline.wake Floor.worker s.timeline i).agenda.entries[i]? = some e
      rwa [Timeline.wake_of_not_waits Floor.worker (not_exists.mp hwaits)]
  · obtain ⟨e', he', hstill, -⟩ := still_act he hwake
    exact ⟨e', he', h.still hstill⟩

theorem sparse_play {acts : List Act} (hacts : s.InTurn acts) (he : s.agenda.entries[i]? = some e)
    (hp : 0 < p.nanos) (h : e.Sparse p) : ∃ e', (s.play acts).agenda.entries[i]? = some e' ∧ e'.Sparse p := by
  induction acts generalizing s e with
  | nil => exact ⟨e, he, h⟩
  | cons a as ih =>
    obtain ⟨e', he', h'⟩ := sparse_act hacts.1 he hp h
    exact ih hacts.2 he' h'

/-- Work that has never run twice at an instant, and which the clock has not gone past. -/
structure Single (p : Span) (now : Int) (e : Entry Job) : Prop extends e.Sparse p where
  once : ∀ time, (e.runsAt time).length ≤ 1
  punctual : ∀ due, e.due? = some due → Instant.floorMilli now ≤ Instant.ceilMilli due

/-- Work is on time as long as the clock does not leap, and does not run twice at an instant. -/
theorem single_act {a : Act} (hmay : s.May a) (hclock : ∀ now, a ≠ .time (.leap now))
    (he : s.agenda.entries[i]? = some e) (hp : 1000000 ≤ p.nanos) (h : Single p s.now e) :
    ∃ e', (s.act a).agenda.entries[i]? = some e' ∧ Single p (s.act a).now e' := by
  by_cases hwake : a = .time (.wake i)
  · subst hwake
    rw [now_wake]
    by_cases hwaits : ∃ due, s.timeline.Waits i due
    · obtain ⟨due, e', he', hdue⟩ := hwaits
      obtain rfl := Option.some.inj (he.symm.trans he')
      have hready : Cadence.isReady due s.now := hmay due ⟨e, he, hdue⟩
      obtain ⟨htolerance, hnone⟩ :=
        Cadence.on_time hp (Cadence.floorMilli_eq_of_isReady hready (h.punctual due hdue))
      have hcount : Cadence.catchUp due p s.now = 1 := by
        rw [Cadence.catchUp, if_pos htolerance, hnone]
        rfl
      obtain ⟨e', he', h', hsame, hle, -, hnext⟩ := Timeline.sparse_wake (w := Floor.worker) (t := s.timeline) he
        (Nat.lt_of_lt_of_le (by decide) hp) h.toSparse hdue hready
      refine ⟨e', he', h', fun time => ?_, fun due' hdue' => ?_⟩
      · by_cases htime : time = s.now
        · subst htime
          exact Nat.le_trans hle (Nat.le_of_eq hcount)
        · rw [hsame time htime]
          exact h.once time
      · have hlt : Instant.floorMilli s.now < due' := hnext due' hdue'
        unfold Instant.ceilMilli Instant.floorMilli at *
        omega
    · refine ⟨e, ?_, h⟩
      change (Timeline.wake Floor.worker s.timeline i).agenda.entries[i]? = some e
      rwa [Timeline.wake_of_not_waits Floor.worker (not_exists.mp hwaits)]
  · obtain ⟨e', he', hstill, -⟩ := still_act he hwake
    refine ⟨e', he', h.toSparse.still hstill, fun time => ?_, fun due hdue => ?_⟩
    · rw [Entry.runsAt, hstill.runs]
      exact h.once time
    · have hle := h.punctual due (hstill.due due hdue)
      by_cases hmoves : ∃ now, a = .time (.clock now)
      · obtain ⟨now, rfl⟩ := hmoves
        exact hmay.2.2.2 i due ⟨e, he, hstill.due due hdue⟩
      · rwa [now_act fun now => ⟨fun heq => hmoves ⟨now, heq⟩, hclock now⟩]

theorem single_play {acts : List Act} (hacts : s.InTurn acts) (hclock : ∀ now, .time (.leap now) ∉ acts)
    (he : s.agenda.entries[i]? = some e) (hp : 1000000 ≤ p.nanos) (h : Single p s.now e) :
    ∃ e', (s.play acts).agenda.entries[i]? = some e' ∧ Single p (s.play acts).now e' := by
  induction acts generalizing s e with
  | nil => exact ⟨e, he, h⟩
  | cons a as ih =>
    obtain ⟨e', he', h'⟩ :=
      single_act hacts.1 (fun now heq => hclock now (heq ▸ List.mem_cons_self)) he hp h
    exact ih hacts.2 (fun now hmem => hclock now (List.mem_cons_of_mem a hmem)) he' h'

/-- Work that was just taken on has not run at any instant. -/
theorem Fresh.single {job : Job} {delay period : Span} (h : Fresh s job delay period e) :
    Single period.asPeriod s.now e := by
  have hnone : ∀ time, e.runsAt time = [] := fun time => by
    rw [Entry.runsAt, h.runs]
    rfl
  refine ⟨⟨h.period, fun due _ r hr => ?_, fun time => ⟨0, 0, ?_, fun hmany => absurd hmany (Nat.not_lt_zero 1)⟩⟩,
    fun time => ?_, fun due hdue => ?_⟩
  · rw [h.runs] at hr
    cases hr
  · rw [hnone]
    rfl
  · rw [hnone]
    exact Nat.zero_le 1
  · obtain ⟨-, rfl⟩ := h.due due hdue
    have hlate : s.now ≤ s.firstDue delay := Int.le_add_of_nonneg_right (Int.natCast_nonneg _)
    exact Int.le_trans (Instant.floorMilli_le _) (Int.le_trans hlate (Instant.le_ceilMilli _))

/-- All runs of recurring work at one instant serve due instants one period apart, within the tolerance, and
there is one run at most if the clock has not leapt.  How many there are when the work wakes up depends on its
delay only, as long as no run ends the work. -/
theorem bursts_are_short (settings : SweepSettings) (earlier during : List Order) (name : String) (job : Job)
    (delay period : Span) (done todo : List Act) :
    let s := (opened settings).after earlier
    let i := (s.every name job delay period).1
    let started := (s.every name job delay period).2
    let p := period.asPeriod
    started.plan during = done ++ todo →
      ∃ e, (started.play done).agenda.entries[i]? = some e ∧
        (∀ time, e.Burst p time ∧ (e.runsAt time).length ≤ Cadence.tolerance.nanos / p.nanos + 1) ∧
        ((∀ now, .time (.leap now) ∉ done) → ∀ time, (e.runsAt time).length ≤ 1) ∧
        ∀ rest due, todo = .time (.wake i) :: rest → e.due? = some due →
          ∃ e', ((started.play done).act (.time (.wake i))).agenda.entries[i]? = some e' ∧
            (e'.isLive → (e'.runsAt (started.play done).now).length =
              Cadence.catchUp due p (started.play done).now) := by
  intro s i started p hsplit
  have hstarted : started.timeline.Rests := (rests_after (rests_opened settings .byId) earlier).grows
    (grows_every (P := fun _ => True) (Q := fun _ => False) s name delay period trivial)
  have hp : 1000000 ≤ p.nanos := Span.asPeriod_ge period
  have hpos : 0 < p.nanos := Nat.lt_of_lt_of_le (by decide) hp
  obtain ⟨hdone, htodo⟩ := (inTurn_append _ _ _).mp (hsplit ▸ inTurn_plan hstarted during)
  obtain ⟨e₀, he₀, hfresh⟩ := fresh_every s name job delay period
  have hsingle : Single p started.now e₀ := now_every s name job delay period ▸ hfresh.single
  obtain ⟨e, he, hsparse⟩ := sparse_play hdone he₀ hpos hsingle.toSparse
  refine ⟨e, he, fun time => ⟨hsparse.bursts time, (hsparse.bursts time).length_le hpos⟩,
    fun hclock time => ?_, ?_⟩
  · obtain ⟨e', he', h'⟩ := single_play hdone hclock he₀ hp hsingle
    obtain rfl := Option.some.inj (he.symm.trans he')
    exact h'.once time
  · rintro rest due rfl hdue
    have hready : Cadence.isReady due (started.play done).now := htodo.1 due ⟨e, he, hdue⟩
    obtain ⟨e', he', -, -, -, hlive, -⟩ := Timeline.sparse_wake (w := Floor.worker)
      (t := (started.play done).timeline) he hpos hsparse hdue hready
    exact ⟨e', he', hlive⟩

/-- Work that recurs every millisecond runs once when it is first due, and three times when the clock leaps
over three of its instants then. -/
theorem bursts_are_short_of_probe :
    let s := (opened {}).after []
    let i := (s.every "probe" (.probe none none) .zero (.ofMillis 1)).1
    let started := (s.every "probe" (.probe none none) .zero (.ofMillis 1)).2
    let p := (Span.ofMillis 1).asPeriod
    let done := [Act.time (.wake i), .time (.leap 3000000)]
    started.plan [.jump (.ofMillis 3)] = done ++ [.time (.wake i)] ∧
      ∃ e e' due, (started.play done).agenda.entries[i]? = some e ∧ e.due? = some due ∧
        (∀ time, (e.runsAt time).length ≤ Cadence.tolerance.nanos / p.nanos + 1) ∧
        ((started.play done).act (.time (.wake i))).agenda.entries[i]? = some e' ∧
        (e'.runsAt 3000000).length = Cadence.catchUp due p 3000000 ∧ Cadence.catchUp due p 3000000 = 3 := by
  intro s i started p done
  have hplan : started.plan [.jump (.ofMillis 3)] = done ++ [.time (.wake i)] := by
    have hacts : Timeline.jumpActs Floor.worker (.ofMillis 3) started.timeline = [.wake 0, .leap 3000000, .wake 0] := by
      decide +kernel
    change (Timeline.jumpActs Floor.worker (.ofMillis 3) started.timeline).map Act.time ++ [] = _
    rw [hacts]
    rfl
  obtain ⟨e, he, hall, -, hwake⟩ := bursts_are_short {} [] [.jump (.ofMillis 3)] "probe" (.probe none none) .zero
    (.ofMillis 1) done [.time (.wake i)] hplan
  have hdue : ((started.play done).agenda.entries[i]?).bind Entry.due? = some 1000000 := by decide +kernel
  rw [show (started.play done).agenda.entries[i]? = some e from he, Option.bind_some] at hdue
  obtain ⟨e', he', hcount⟩ := hwake [] 1000000 rfl hdue
  have hlive : (((started.play done).act (.time (.wake i))).agenda.entries[i]?).map Entry.isLive = some true := by
    decide +kernel
  dsimp only [started, i, s] at hlive ⊢
  rw [he', Option.map_some, Option.some.injEq] at hlive
  exact ⟨hplan, e, e', 1000000, he, hdue, fun time => (hall time).2, he', hcount hlive, by decide +kernel⟩

/-- Work that is late by less than is tolerated runs several times at one instant. -/
theorem bursts_replay :
    let s := (opened {}).after
      [.deed (.every "probe" none none .zero (.ofMillis 1)), .jump (.ofMillis 3)]
    (s.agenda.entries[0]?).map (fun e => e.runs.reverse.map Run.time) = some [0, 3000000, 3000000, 3000000] := by
  decide +kernel

end Station

end Liveness
