import Liveness.Proofs.Station.FixedRate

/-!
# Recurring work that lasts

Work of a service that recurs goes on until it is cancelled or panics, as long as the clock has
an instant one period from now and a word can count the period in nanoseconds.
`Entry.Tracks` says so of an entry at some moment, and every act keeps it
(`Station.tracks_act`); for as long as its clock and period are in these bounds an entry
that is not cancelled and was not upset is live, then.
-/

namespace Liveness

/-- Recurring work that nothing but its cancellation ends, unless the clock comes to its end or the work was
upset. -/
structure Entry.Tracks (job : Job) (p : Span) (upset : Prop) (now : Int) (e : Entry Job) : Prop where
  job : e.job = job
  period : e.period = some p
  lasts : e.cancelled = false → p.nanos ≤ wordMax → p.after now < Cadence.clockEnd → ¬upset → e.isLive

/-- Work finds a further due instant if the clock has an instant one period from now. -/
theorem Cadence.exists_next {p : Span} {now : Int} (hp : 0 < p.nanos) (hword : p.nanos ≤ wordMax)
    (hreach : p.after now < clockEnd) (due : Int) : ∃ next, next? due p now = some next := by
  unfold next?
  split
  · exact ⟨_, rfl⟩
  · have hbehind : (now - due) % p.nanos ≤ wordMax := by
      have hlt : (now - due) % p.nanos < p.nanos := Int.emod_lt_of_pos _ (by omega)
      omega
    rw [if_pos]
    · exact ⟨_, rfl⟩
    · simp [hreach, hbehind]

namespace Station

variable {s : Station} {i : EntryId} {e : Entry Job} {job : Job} {p : Span} {upset upset' : Prop}

/-- Entries stay what they are, and no cancellation is taken back. -/
theorem later_act (he : s.agenda.entries[i]? = some e) (a : Act) :
    ∃ e', (s.act a).agenda.entries[i]? = some e' ∧ e.Later e' := by
  by_cases hwake : a = .time (.wake i)
  · subst hwake
    refine Timeline.wake_induction Floor.worker (t := s.timeline)
      (P := fun t => ∃ e', t.agenda.entries[i]? = some e' ∧ e.Later e') ?_ ?_ ⟨e, he, .refl e⟩
    · rintro t due ⟨e₁, he₁, hlater₁⟩
      obtain ⟨e₂, he₂, hlater₂⟩ := (Timeline.goes_runOnce Floor.orderly_worker t i due).old i e₁ he₁
      exact ⟨e₂, he₂, hlater₁.trans hlater₂⟩
    · rintro t stage ⟨e₁, he₁, hlater₁⟩
      refine ⟨e₁.restage stage, ?_, hlater₁.trans ⟨rfl, rfl, rfl, id⟩⟩
      simp only [Agenda.modify, Array.getElem?_modify, if_true, he₁, Option.map_some]
  · obtain ⟨e', he', hstill, -⟩ := still_act he hwake
    exact ⟨e', he', hstill.later⟩

theorem later_play (acts : List Act) (he : s.agenda.entries[i]? = some e) :
    ∃ e', (s.play acts).agenda.entries[i]? = some e' ∧ e.Later e' := by
  induction acts generalizing s e with
  | nil => exact ⟨e, he, .refl e⟩
  | cons a as ih =>
    obtain ⟨e₁, he₁, hlater₁⟩ := later_act he a
    obtain ⟨e₂, he₂, hlater₂⟩ := ih he₁
    exact ⟨e₂, he₂, hlater₁.trans hlater₂⟩

theorem later_runs (he : s.agenda.entries[i]? = some e) (dues : List Int) :
    ∃ e', (dues.foldl (fun s due => s.runOnce i due) s).agenda.entries[i]? = some e' ∧ e.Later e' := by
  induction dues generalizing s e with
  | nil => exact ⟨e, he, .refl e⟩
  | cons due dues ih =>
    obtain ⟨e₁, he₁, hlater₁⟩ := (Timeline.goes_runOnce Floor.orderly_worker s.timeline i due).old i e he
    obtain ⟨e₂, he₂, hlater₂⟩ := ih (s := s.runOnce i due) he₁
    exact ⟨e₂, he₂, hlater₁.trans hlater₂⟩

/-- None of the runs of some work panics. -/
def Calm (i : EntryId) (runs : List (Station × Station)) : Prop :=
  ∀ x ∈ runs, ∀ e : Entry Job, x.1.agenda.entries[i]? = some e → e.isLive →
    (Floor.run e.job e.runs x.1.now x.1.floor).2.panicked = false

/-- Work is live after runs that do not panic, if it was not cancelled by the way. -/
theorem isLive_runs (he : s.agenda.entries[i]? = some e) (hlive : e.isLive) {dues : List Int}
    (hcalm : Calm i (s.runsOf i dues)) :
    ∃ e', (dues.foldl (fun s due => s.runOnce i due) s).agenda.entries[i]? = some e' ∧ e.Later e' ∧
      (e'.cancelled = false → e'.isLive) := by
  induction dues generalizing s e with
  | nil => exact ⟨e, he, .refl e, fun _ => hlive⟩
  | cons due dues ih =>
    obtain ⟨e₁, he₁, hkept⟩ :=
      Timeline.kept_runOnce_of_live (w := Floor.worker) (t := s.timeline) he hlive due
    have hlater : e.Later e₁ := (e.later_ran due _ _).trans hkept.later
    rw [show (Floor.worker.run e.job e.runs s.timeline.agenda.now s.timeline.host).2.panicked = false from
      hcalm _ List.mem_cons_self e he hlive] at hkept
    rcases hkept with rfl | rfl
    · obtain ⟨e', he', hlater', hlive'⟩ :=
        ih (s := s.runOnce i due) he₁ hlive fun x hx => hcalm x (List.mem_cons_of_mem _ hx)
      exact ⟨e', he', hlater.trans hlater', hlive'⟩
    · obtain ⟨e', he', hlater'⟩ := later_runs (s := s.runOnce i due) he₁ dues
      refine ⟨e', he', hlater.trans hlater', fun hcancelled => ?_⟩
      cases (hlater'.cancelled rfl).symm.trans hcancelled

theorem tracks_wake (he : s.agenda.entries[i]? = some e) (hp : 0 < p.nanos) (hcalm : ¬upset' → Calm i (s.runs i))
    (h : e.Tracks job p upset s.now) (hupset : upset → upset') :
    ∃ e', (s.act (.time (.wake i))).agenda.entries[i]? = some e' ∧ e'.Tracks job p upset' s.now := by
  by_cases hwaits : ∃ due, s.timeline.Waits i due
  · obtain ⟨due, e', he', hdue⟩ := hwaits
    obtain rfl := Option.some.inj (he.symm.trans he')
    by_cases hup : upset'
    · obtain ⟨e', he', hlater⟩ := later_act he (.time (.wake i))
      exact ⟨e', he', hlater.job.trans h.job, hlater.period.trans h.period, fun _ _ _ hnot => absurd hup hnot⟩
    · have hruns : s.runs i = s.runsOf i (e.plan due s.now).1 := by simp only [runs, he, hdue]
      obtain ⟨e', he', hlater, hlive⟩ := isLive_runs he (Entry.isLive_of_due? hdue) (hruns ▸ hcalm hup)
      rw [act_wake he hdue]
      refine ⟨e'.restage (e.plan due s.now).2, ?_, hlater.job.trans h.job, hlater.period.trans h.period,
        fun hcancelled hword hreach _ => ?_⟩
      · simp only [Agenda.modify, Array.getElem?_modify, if_true, he', Option.map_some]
      · obtain ⟨next, hnext⟩ := Cadence.exists_next hp hword hreach due
        have hstage : (e.plan due s.now).2 = .waiting next := by simp only [Entry.plan, h.period, hnext]
        rw [hstage, Entry.isLive_iff, Entry.restage, if_pos (hlive hcancelled)]
        refine ⟨hcancelled, fun hended => ?_⟩
        cases hended
  · refine ⟨e, ?_, h.job, h.period, fun hc hword hreach hnot => h.lasts hc hword hreach (mt hupset hnot)⟩
    change (Timeline.wake Floor.worker s.timeline i).agenda.entries[i]? = some e
    rw [Timeline.wake_of_not_waits Floor.worker (not_exists.mp hwaits)]
    exact he

theorem tracks_act {a : Act} (hmay : s.May a) (he : s.agenda.entries[i]? = some e) (hp : 0 < p.nanos)
    (hcalm : ¬upset' → a = .time (.wake i) → Calm i (s.runs i)) (h : e.Tracks job p upset s.now)
    (hupset : upset → upset') :
    ∃ e', (s.act a).agenda.entries[i]? = some e' ∧ e'.Tracks job p upset' (s.act a).now := by
  by_cases hwake : a = .time (.wake i)
  · subst hwake
    rw [now_wake]
    exact tracks_wake he hp (fun hnot => hcalm hnot rfl) h hupset
  · obtain ⟨e', he', hstill, hsame⟩ := still_act he hwake
    refine ⟨e', he', hstill.later.job.trans h.job, hstill.later.period.trans h.period,
      fun hcancelled hword hreach hnot => ?_⟩
    obtain rfl := hsame hcancelled
    have hle : s.now ≤ (s.act a).now := now_le_act hmay
    refine h.lasts hcancelled hword (Int.lt_of_le_of_lt ?_ hreach) (mt hupset hnot)
    simp only [Span.after]
    omega

/-- A task that is not cancelled was not cancelled before. -/
theorem isScheduled_of_later (s' : Station) {task task' : Option EntryId}
    (hold : ∀ i, task = some i → ∃ e, s.agenda.entries[i]? = some e)
    (hlater : ∀ (i : EntryId) (e : Entry Job), s.agenda.entries[i]? = some e →
      ∃ e', s'.agenda.entries[i]? = some e' ∧ e.Later e')
    (htask : task' = task ∨ task' = none) (h : s'.isScheduled task' = true) : s.isScheduled task = true := by
  rcases htask with rfl | rfl
  · cases hi : task' with
    | none =>
      rw [hi] at h
      exact absurd h Bool.false_ne_true
    | some i =>
      obtain ⟨e, he⟩ := hold i hi
      obtain ⟨e', he', hlater⟩ := hlater i e he
      rw [isScheduled_of_task hi he', Bool.not_eq_true'] at h
      rw [isScheduled_of_task rfl he, Bool.not_eq_true']
      exact Bool.eq_false_iff.mpr fun hcancelled => Bool.eq_false_iff.mp h (hlater.cancelled hcancelled)
  · exact absurd h Bool.false_ne_true

/-- Work that was just taken on keeps to its grid, whatever happens then. -/
theorem Fresh.play {delay period : Span} (h : Fresh s job delay period e) {s' : Station} {acts : List Act}
    (hacts : s'.InTurn acts) (he : s'.agenda.entries[i]? = some e) :
    ∃ e', (s'.play acts).agenda.entries[i]? = some e' ∧ e'.job = job ∧
      e'.OnGrid (s.firstDue delay) period.asPeriod := by
  have hpos : 0 < period.asPeriod.nanos := Nat.lt_of_lt_of_le (by decide) (Span.asPeriod_ge period)
  obtain ⟨e₁, he₁, hgrid⟩ := onGrid_play hacts he hpos h.onGrid
  obtain ⟨e₂, he₂, hlater⟩ := later_play acts he
  obtain rfl := Option.some.inj (he₁.symm.trans he₂)
  exact ⟨e₁, he₁, hlater.job.trans h.job, hgrid⟩

/-- Work that was just taken on lasts, if it does not wait longer for its first run than for the next one. -/
theorem Fresh.tracks {delay period : Span} (h : Fresh s job delay period e)
    (hdelay : delay.nanos ≤ period.asPeriod.nanos) (upset : Prop) : e.Tracks job period.asPeriod upset s.now where
  job := h.job
  period := h.period
  lasts := fun hcancelled _ hreach _ => by
    refine Entry.isLive_of_due? (h.waits hcancelled (Int.lt_of_le_of_lt ?_ hreach))
    simp only [Span.after]
    omega

end Station

end Liveness
