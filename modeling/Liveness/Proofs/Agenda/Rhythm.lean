import Liveness.Proofs.Agenda.Growth

/-!
# The grid of recurring work

Whatever other work does, and however the clock moves, recurring work keeps to its
grid: it serves due instants of the grid only, each one later than the one before,
none before its time, and waits for one that is later still.  `Entry.OnGrid` is the
invariant.  Acts of others leave the runs of an entry alone (`Entry.Still`), and
when the entry itself wakes up it runs at the first of the instants that it is
planned to serve, at all of them if it comes to no harm (`Timeline.wake_recurring`).
-/

namespace Liveness

/-! ## Instants of the grid -/

namespace Cadence

/-- An instant some periods after another. -/
def Follows (first : Int) (period : Span) (due : Int) : Prop := ∃ m : Nat, due = first + m * period.nanos

variable {first due now next : Int} {period : Span}

theorem Follows.refl (first : Int) (period : Span) : Follows first period first := ⟨0, by simp⟩

theorem Follows.trans (h : Follows first period due) (h' : Follows due period next) : Follows first period next := by
  obtain ⟨m, rfl⟩ := h
  obtain ⟨n, rfl⟩ := h'
  exact ⟨m + n, by rw [Int.natCast_add, Int.add_mul, Int.add_assoc]⟩

/-- Work serves due instants of its grid, in their order, none of them later than now. -/
theorem served_spec (hperiod : 0 < period.nanos) (hready : isReady due now) :
    (served due period now).Pairwise (· < ·) ∧
      ∀ t ∈ served due period now, due ≤ t ∧ t ≤ Instant.floorMilli now ∧ Follows due period t := by
  have hle : due ≤ Instant.floorMilli now := of_decide_eq_true hready
  have hpos : (0 : Int) < period.nanos := by omega
  unfold served
  split
  · constructor
    · refine List.pairwise_map.mpr (List.pairwise_lt_range.imp fun {j k} hjk => ?_)
      have hmul := Int.mul_lt_mul_of_pos_right (Int.ofNat_lt.mpr hjk) hpos
      omega
    · intro t ht
      obtain ⟨k, hk, rfl⟩ := List.mem_map.mp ht
      rw [List.mem_range] at hk
      have hk' : (k : Int) ≤ (Instant.floorMilli now - due) / period.nanos := by
        have hquot : 0 ≤ (Instant.floorMilli now - due) / period.nanos := Int.ediv_nonneg (by omega) (by omega)
        omega
      have hmul : (k : Int) * period.nanos ≤ Instant.floorMilli now - due :=
        Int.le_trans (Int.mul_le_mul_of_nonneg_right hk' (by omega)) (Int.ediv_mul_le _ (by omega))
      have hnonneg : 0 ≤ (k : Int) * period.nanos := Int.mul_nonneg (by omega) (by omega)
      exact ⟨by omega, by omega, k, rfl⟩
  · refine ⟨List.pairwise_singleton _ _, fun t ht => ?_⟩
    obtain rfl := List.mem_singleton.mp ht
    exact ⟨Int.le_refl _, hle, .refl _ _⟩

/-- The next due instant is on the grid again, if no period is longer than the clock can wait. -/
theorem follows_next (hperiod : 0 < period.nanos) (hshort : period.nanos ≤ longestWait.nanos)
    (hready : isReady due now) (hnext : next? due period now = some next) : Follows due period next := by
  have hle : due ≤ Instant.floorMilli now := of_decide_eq_true hready
  have hfloor : Instant.floorMilli now ≤ now := Instant.floorMilli_le now
  have hshort' : (period.nanos : Int) ≤ longestWait.nanos := Int.ofNat_le.mpr hshort
  unfold next? at hnext
  split at hnext
  · obtain rfl := Option.some.inj hnext
    have hquot : 0 ≤ (Instant.floorMilli now - due) / period.nanos := Int.ediv_nonneg (by omega) (by omega)
    refine ⟨((Instant.floorMilli now - due) / period.nanos).toNat + 1, Int.min_eq_left ?_⟩
    have hmul : (Instant.floorMilli now - due) / period.nanos * period.nanos ≤ Instant.floorMilli now - due :=
      Int.ediv_mul_le _ (by omega)
    rw [Int.natCast_add, Int.toNat_of_nonneg hquot, Int.add_mul]
    simp only [Span.after]
    omega
  · rw [Option.ite_none_right_eq_some, Option.some.injEq] at hnext
    obtain ⟨-, rfl⟩ := hnext
    have hquot : 0 ≤ (now - due) / period.nanos := Int.ediv_nonneg (by omega) (by omega)
    have hmod : 0 ≤ (now - due) % period.nanos := Int.emod_nonneg _ (by omega)
    have hsum : (now - due) / period.nanos * period.nanos + (now - due) % period.nanos = now - due := by
      rw [Int.mul_comm]
      exact Int.mul_ediv_add_emod _ _
    refine ⟨((now - due) / period.nanos).toNat + 1, ?_⟩
    rw [Int.natCast_add, Int.toNat_of_nonneg hquot, Int.add_mul, within, Int.min_eq_left]
    · simp only [Span.after]
      omega
    · simp only [Span.after]
      omega

end Cadence

variable {Job σ : Type}

namespace Entry

variable {e e₁ e₂ e₃ : Entry Job}

/-- An entry that has not run, and waits for what it waited for if it waits at all. -/
structure Still (e e' : Entry Job) : Prop where
  later : e.Later e'
  runs : e'.runs = e.runs
  due : ∀ due, e'.due? = some due → e.due? = some due

theorem Kept.still (h : e₁.Kept e₂) : e₁.Still e₂ where
  later := h.later
  runs := by rcases h with rfl | rfl <;> rfl
  due := fun _ hdue => h.due? hdue

theorem Still.stop (e : Entry Job) : e.Still { e with cancelled := true, stage := .ended } where
  later := ⟨rfl, rfl, rfl, fun _ => rfl⟩
  runs := rfl
  due := nofun

/-- Work that keeps to the grid that it started on. -/
structure OnGrid (first : Int) (p : Span) (e : Entry Job) : Prop where
  period : e.period = some p
  ascending : (e.runs.map Run.due).Pairwise (· > ·)
  due_le : ∀ r ∈ e.runs, r.due ≤ r.time
  lt_due : ∀ due, e.due? = some due → ∀ r ∈ e.runs, r.due < due
  runs : p.nanos ≤ Cadence.longestWait.nanos → ∀ r ∈ e.runs, Cadence.Follows first p r.due
  due : p.nanos ≤ Cadence.longestWait.nanos → ∀ due, e.due? = some due → Cadence.Follows first p due

variable {first : Int} {p : Span}

theorem OnGrid.still (h : OnGrid first p e₁) (hstill : e₁.Still e₂) : OnGrid first p e₂ where
  period := hstill.later.period.trans h.period
  ascending := hstill.runs ▸ h.ascending
  due_le := hstill.runs ▸ h.due_le
  lt_due := fun due hdue => hstill.runs ▸ h.lt_due due (hstill.due due hdue)
  runs := hstill.runs ▸ h.runs
  due := fun hshort due hdue => h.due hshort due (hstill.due due hdue)

/-- Work that is to run at instants of its grid, some of which it has served, and then to wait for a later
one. -/
theorem OnGrid.serve (h : OnGrid first p e₁) {due now next : Int} (hp : 0 < p.nanos) (hdue : e₁.due? = some due)
    (hready : Cadence.isReady due now) (hnext : Cadence.next? due p now = some next) {ran : List Int}
    (hran : ran <+: Cadence.served due p now) (hperiod : e₂.period = e₁.period)
    (hruns : e₂.runs = (ran.map (Run.mk · now)).reverse ++ e₁.runs)
    (hdue₂ : ∀ due, e₂.due? = some due → due = next) : OnGrid first p e₂ := by
  obtain ⟨hascending, hserved⟩ := Cadence.served_spec hp hready
  have hfloor : Instant.floorMilli now ≤ now := Instant.floorMilli_le now
  have hlater : Instant.floorMilli now < next := Cadence.floorMilli_lt_next hp hnext
  have hmem : ∀ r ∈ e₂.runs, (∃ t ∈ Cadence.served due p now, r = ⟨t, now⟩) ∨ r ∈ e₁.runs := by
    intro r hr
    rw [hruns, List.mem_append, List.mem_reverse, List.mem_map] at hr
    rcases hr with ⟨t, ht, rfl⟩ | hr
    · exact .inl ⟨t, hran.subset ht, rfl⟩
    · exact .inr hr
  refine ⟨hperiod.trans h.period, ?_, fun r hr => ?_, fun due' hdue' r hr => ?_, fun hshort r hr => ?_,
    fun hshort due' hdue' => ?_⟩
  · rw [hruns, List.map_append, List.map_reverse, List.map_map, List.pairwise_append, List.pairwise_reverse]
    refine ⟨List.pairwise_map.mpr (hascending.sublist hran.sublist), h.ascending, ?_⟩
    intro t ht t' ht'
    rw [List.mem_reverse, List.mem_map] at ht
    obtain ⟨t, ht, rfl⟩ := ht
    obtain ⟨r, hr, rfl⟩ := List.mem_map.mp ht'
    exact Int.lt_of_lt_of_le (h.lt_due due hdue r hr) (hserved t (hran.subset ht)).1
  · rcases hmem r hr with ⟨t, ht, rfl⟩ | hr
    · exact Int.le_trans (hserved t ht).2.1 hfloor
    · exact h.due_le r hr
  · obtain rfl := hdue₂ due' hdue'
    refine Int.lt_of_le_of_lt ?_ hlater
    rcases hmem r hr with ⟨t, ht, rfl⟩ | hr
    · exact (hserved t ht).2.1
    · exact Int.le_trans (Int.le_of_lt (h.lt_due due hdue r hr)) (of_decide_eq_true hready)
  · rcases hmem r hr with ⟨t, ht, rfl⟩ | hr
    · exact (h.due hshort due hdue).trans (hserved t ht).2.2
    · exact h.runs hshort r hr
  · obtain rfl := hdue₂ due' hdue'
    exact (h.due hshort due hdue).trans (Cadence.follows_next hp hshort hready hnext)

end Entry

namespace Timeline

variable {w : Worker Job σ} {t : Timeline Job σ} {i j : EntryId} {e : Entry Job}

/-! ## What others leave alone -/

theorem kept_runOnce (he : t.agenda.entries[i]? = some e) (hne : j ≠ i) (due : Int) :
    ∃ e', (runOnce w j t due).agenda.entries[i]? = some e' ∧ e.Kept e' := by
  refine runOnce_cases w (P := fun t => ∃ e', t.agenda.entries[i]? = some e' ∧ e.Kept e') due ⟨e, he, .refl e⟩
    fun e' _ _ => ?_
  generalize (w.run e'.job e'.runs t.agenda.now t.host).2 = request
  have hsame : (t.agenda.modify j fun e => e.ran due t.agenda.now request.panicked).entries[i]? = some e := by
    rw [Agenda.modify, Array.getElem?_modify, if_neg hne, he]
  obtain ⟨e'', he'', hkept, -⟩ := Agenda.kept_fulfil request hsame
  exact ⟨e'', he'', hkept⟩

theorem kept_wake (he : t.agenda.entries[i]? = some e) (hne : j ≠ i) :
    ∃ e', (wake w t j).agenda.entries[i]? = some e' ∧ e.Kept e' := by
  refine wake_induction w (P := fun t => ∃ e', t.agenda.entries[i]? = some e' ∧ e.Kept e') ?_ ?_ ⟨e, he, .refl e⟩
  · rintro t due ⟨e₁, he₁, hkept₁⟩
    obtain ⟨e₂, he₂, hkept₂⟩ := kept_runOnce (w := w) he₁ hne due
    exact ⟨e₂, he₂, hkept₁.trans hkept₂⟩
  · rintro t stage ⟨e₁, he₁, hkept₁⟩
    refine ⟨e₁, ?_, hkept₁⟩
    simp only [Agenda.modify, Array.getElem?_modify, if_neg hne, he₁]

theorem kept_beginNext (he : t.agenda.entries[i]? = some e) :
    ∃ e', (beginNext w t).agenda.entries[i]? = some e' ∧ e.Kept e' := by
  unfold beginNext
  split
  · exact ⟨e, he, .refl e⟩
  · rename_i job rest _
    obtain ⟨e', he', hkept, -⟩ := Agenda.kept_fulfil (a := { t.agenda with errands := rest })
      (w.run job [] t.agenda.now t.host).2 he
    exact ⟨e', he', hkept⟩

/-- Only its own waking up makes an entry run. -/
theorem kept_act (he : t.agenda.entries[i]? = some e) {a : Act} (hne : a ≠ .wake i) :
    ∃ e', (act w t a).agenda.entries[i]? = some e' ∧ e.Kept e' := by
  cases a with
  | wake j => exact kept_wake he fun heq => hne (by rw [heq])
  | errand => exact kept_beginNext he
  | clock now => exact ⟨e, he, .refl e⟩
  | leap now => exact ⟨e, he, .refl e⟩

/-! ## Waking up -/

/-- What a run leaves of its entry. -/
theorem kept_runOnce_of_live (he : t.agenda.entries[i]? = some e) (hlive : e.isLive) (due : Int) :
    ∃ e', (runOnce w i t due).agenda.entries[i]? = some e' ∧
      (e.ran due t.agenda.now (w.run e.job e.runs t.agenda.now t.host).2.panicked).Kept e' := by
  rw [runOnce_of_live w he hlive]
  generalize (w.run e.job e.runs t.agenda.now t.host).2 = request
  have hran : (t.agenda.modify i fun e => e.ran due t.agenda.now request.panicked).entries[i]? =
      some (e.ran due t.agenda.now request.panicked) := by
    rw [Agenda.modify, Array.getElem?_modify, if_pos rfl, he]
    rfl
  obtain ⟨e', he', hkept, -⟩ := Agenda.kept_fulfil request hran
  exact ⟨e', he', hkept⟩

theorem now_runOnce (due : Int) : (runOnce w i t due).agenda.now = t.agenda.now :=
  runOnce_cases w (P := fun t' => t'.agenda.now = t.agenda.now) due rfl fun _ _ _ => Agenda.now_fulfil _ _

/-- An entry runs at the first few of the instants that it is to serve, and at all of them if it is still live
after that. -/
theorem foldl_runOnce (he : t.agenda.entries[i]? = some e) (dues : List Int) :
    ∃ ran e', (dues.foldl (runOnce w i) t).agenda.entries[i]? = some e' ∧ ran <+: dues ∧
      (e'.isLive → ran = dues) ∧ e.Later e' ∧ e'.runs = (ran.map (Run.mk · t.agenda.now)).reverse ++ e.runs := by
  induction dues generalizing t e with
  | nil => exact ⟨[], e, he, List.prefix_refl _, fun _ => rfl, .refl e, rfl⟩
  | cons due dues ih =>
    rw [List.foldl_cons]
    cases hlive : e.isLive with
    | false =>
      have hidle : ∀ due, runOnce w i t due = t := fun due => runOnce_of_not_live w (fun e' he' => by
        obtain rfl := Option.some.inj (he.symm.trans he')
        exact hlive) due
      have hfold : dues.foldl (runOnce w i) t = t := by
        clear ih
        induction dues with
        | nil => rfl
        | cons due dues ih => rw [List.foldl_cons, hidle, ih]
      rw [hidle, hfold]
      exact ⟨[], e, he, List.nil_prefix, fun hl => absurd hl (Bool.eq_false_iff.mp hlive), .refl e, rfl⟩
    | true =>
      obtain ⟨e₁, he₁, hkept⟩ := kept_runOnce_of_live (w := w) he hlive due
      obtain ⟨ran, e₂, he₂, hprefix, hall, hlater, hruns⟩ := ih he₁
      refine ⟨due :: ran, e₂, he₂, List.cons_prefix_cons.mpr ⟨rfl, hprefix⟩, fun hl => by rw [hall hl],
        ((e.later_ran due _ _).trans hkept.later).trans hlater, ?_⟩
      rw [hruns, hkept.still.runs, now_runOnce]
      simp [Entry.ran]

/-- Recurring work that wakes up runs at the first few of the instants that it is to serve, and at all of them
if it is still live after that.  If it waits again, then for the next instant of its grid. -/
theorem wake_recurring (he : t.agenda.entries[i]? = some e) {p : Span} (hperiod : e.period = some p) {due : Int}
    (hdue : e.due? = some due) :
    ∃ ran e', (wake w t i).agenda.entries[i]? = some e' ∧ ran <+: Cadence.served due p t.agenda.now ∧
      (Cadence.next? due p t.agenda.now = none → ran = []) ∧
      (e'.isLive → ran = Cadence.served due p t.agenda.now) ∧ e.Later e' ∧
      e'.runs = (ran.map (Run.mk · t.agenda.now)).reverse ++ e.runs ∧
      ∀ due', e'.due? = some due' → Cadence.next? due p t.agenda.now = some due' := by
  rw [wake_of_due w he hdue]
  obtain ⟨ran, e', he', hran, hall, hlater, hruns⟩ := foldl_runOnce (w := w) he (e.plan due t.agenda.now).1
  have hwoken : (((e.plan due t.agenda.now).1.foldl (runOnce w i) t).agenda.modify i
      (·.restage (e.plan due t.agenda.now).2)).entries[i]? = some (e'.restage (e.plan due t.agenda.now).2) := by
    simp only [Agenda.modify, Array.getElem?_modify, if_true, he', Option.map_some]
  have hlater' : e.Later (e'.restage (e.plan due t.agenda.now).2) := hlater.trans ⟨rfl, rfl, rfl, id⟩
  refine ⟨ran, _, hwoken, ?_⟩
  simp only [Entry.plan, hperiod] at hran hall hlater' ⊢
  cases hnext : Cadence.next? due p t.agenda.now with
  | none =>
    rw [hnext] at hran hall hlater'
    obtain rfl := List.prefix_nil.mp hran
    have hended : ∀ due', ¬(e'.restage .ended).due? = some due' := fun due' hdue' =>
      Bool.eq_false_iff.mp e'.isLive_restage_ended (Entry.isLive_of_due? hdue')
    exact ⟨List.nil_prefix, fun _ => rfl, fun hl => absurd hl (Bool.eq_false_iff.mp e'.isLive_restage_ended),
      hlater', hruns, fun due' hdue' => absurd hdue' (hended due')⟩
  | some next =>
    rw [hnext] at hran hall hlater'
    refine ⟨hran, fun hnone => absurd hnone (Option.some_ne_none next), fun hl => hall (Entry.isLive_of_restage hl),
      hlater', hruns, fun due' hdue' => ?_⟩
    obtain ⟨-, hstage⟩ := Entry.due?_eq_some.mp hdue'
    rw [Entry.restage, if_pos (Entry.isLive_of_restage (Entry.isLive_of_due? hdue'))] at hstage
    exact congrArg some (Stage.waiting.inj hstage)

/-- Work that wakes up keeps to its grid. -/
theorem onGrid_wake (he : t.agenda.entries[i]? = some e) {first : Int} {p : Span} (hp : 0 < p.nanos)
    (hready : ∀ due, t.Waits i due → Cadence.isReady due t.agenda.now) (hgrid : e.OnGrid first p) :
    ∃ e', (wake w t i).agenda.entries[i]? = some e' ∧ e'.OnGrid first p := by
  by_cases hwaits : ∃ due, t.Waits i due
  · obtain ⟨due, e', he', hdue⟩ := hwaits
    obtain rfl := Option.some.inj (he.symm.trans he')
    obtain ⟨ran, e', he', hran, hnone, -, hlater, hruns, hwaits⟩ := wake_recurring (w := w) he hgrid.period hdue
    refine ⟨e', he', ?_⟩
    cases hnext : Cadence.next? due p t.agenda.now with
    | none =>
      obtain rfl := hnone hnext
      refine hgrid.still ⟨hlater, hruns, fun due' hdue' => ?_⟩
      rw [hwaits due' hdue'] at hnext
      cases hnext
    | some next =>
      refine hgrid.serve hp hdue (hready due ⟨e, he, hdue⟩) hnext hran hlater.period hruns fun due' hdue' => ?_
      exact (Option.some.inj (hnext.symm.trans (hwaits due' hdue'))).symm
  · rw [wake_of_not_waits w (not_exists.mp hwaits)]
    exact ⟨e, he, hgrid⟩

/-- Every act in its turn keeps recurring work to its grid. -/
theorem onGrid_act (he : t.agenda.entries[i]? = some e) {first : Int} {p : Span} (hp : 0 < p.nanos) {a : Act}
    (hmay : t.May a) (hgrid : e.OnGrid first p) :
    ∃ e', (act w t a).agenda.entries[i]? = some e' ∧ e'.OnGrid first p := by
  by_cases hwake : a = .wake i
  · subst hwake
    exact onGrid_wake he hp hmay hgrid
  · obtain ⟨e', he', hkept⟩ := kept_act (w := w) he hwake
    exact ⟨e', he', hgrid.still hkept.still⟩

end Timeline

end Liveness
