import Liveness.Proofs.Agenda.Acts

/-!
# Acts in their turn

What a piece of work does to the others leaves their due instants as they are
(`Timeline.Goes`), so that all work that is ready when an agenda settles is still
ready when its turn comes, and nothing is ready any more afterwards.  From there
an advance goes from one instant at which work wakes up to the next, up to its
end: `Timeline.inTurn_advanceActs` and `Timeline.idle_advance`.
-/

namespace Liveness

variable {Job σ : Type}

/-- What never changes about an entry, or only once. -/
structure Entry.Later (e e' : Entry Job) : Prop where
  job : e'.job = e.job
  period : e'.period = e.period
  errand : e'.errand = e.errand
  cancelled : e.cancelled = true → e'.cancelled = true

namespace Entry

variable {e e₁ e₂ e₃ : Entry Job}

theorem Later.refl (e : Entry Job) : e.Later e := ⟨rfl, rfl, rfl, id⟩

theorem Later.trans (h : e₁.Later e₂) (h' : e₂.Later e₃) : e₁.Later e₃ :=
  ⟨h'.job.trans h.job, h'.period.trans h.period, h'.errand.trans h.errand,
    fun hc => h'.cancelled (h.cancelled hc)⟩

theorem Kept.later (h : e₁.Kept e₂) : e₁.Later e₂ := by
  rcases h with rfl | rfl
  · exact .refl _
  · exact ⟨rfl, rfl, rfl, fun _ => rfl⟩

/-- An entry that has just run. -/
def ran (e : Entry Job) (due now : Int) (panicked : Bool) : Entry Job :=
  { e with
    runs := ⟨due, now⟩ :: e.runs
    stage := if panicked then .ended else e.stage }

theorem later_ran (e : Entry Job) (due now : Int) (panicked : Bool) : e.Later (e.ran due now panicked) :=
  ⟨rfl, rfl, rfl, id⟩

theorem due?_of_ran {due now due' : Int} {panicked : Bool}
    (h : (e.ran due now panicked).due? = some due') : e.due? = some due' := by
  rw [due?_eq_some] at h ⊢
  cases panicked with
  | true => cases h.2
  | false => exact h

theorem isLive_of_ran {due now : Int} {panicked : Bool} (h : (e.ran due now panicked).isLive) : e.isLive := by
  rw [isLive_iff] at h ⊢
  cases panicked with
  | true => exact absurd rfl h.2
  | false => exact h

/-- The stage of an entry changes, if it is still live. -/
def restage (e : Entry Job) (stage : Stage) : Entry Job :=
  { e with stage := if e.isLive then stage else e.stage }

theorem restage_of_not_live {stage : Stage} (h : e.isLive = false) : e.restage stage = e := by
  simp [restage, h]

theorem isLive_restage_ended (e : Entry Job) : (e.restage .ended).isLive = false := by
  cases hlive : e.isLive with
  | true =>
    rw [restage, hlive, if_pos rfl]
    simp [isLive]
  | false => rwa [restage_of_not_live hlive]

theorem isLive_of_restage {stage : Stage} (h : (e.restage stage).isLive) : e.isLive := by
  by_cases hlive : e.isLive
  · exact hlive
  · rwa [restage_of_not_live (Bool.eq_false_iff.mpr hlive)] at h

end Entry

namespace Timeline

variable (w : Worker Job σ) {t t₁ t₂ t₃ : Timeline Job σ} {i : EntryId}

/-! ## One run -/

theorem runOnce_of_live {e : Entry Job} (he : t.agenda.entries[i]? = some e) (hlive : e.isLive)
    (due : Int) :
    runOnce w i t due =
      { agenda := (t.agenda.modify i fun e' => e'.ran due t.agenda.now
          (w.run e.job e.runs t.agenda.now t.host).2.panicked).fulfil
            (w.run e.job e.runs t.agenda.now t.host).2
        host := (w.run e.job e.runs t.agenda.now t.host).1 } := by
  simp only [runOnce, he, hlive, Bool.not_true, Bool.false_eq_true, if_false]
  rfl

theorem runOnce_of_not_live (h : ∀ e, t.agenda.entries[i]? = some e → e.isLive = false) (due : Int) :
    runOnce w i t due = t := by
  cases he : t.agenda.entries[i]? with
  | none => simp only [runOnce, he]
  | some e => simp only [runOnce, he, h e he, Bool.not_false, if_true]

/-- A run of an entry that is not live changes nothing. -/
theorem runOnce_cases {P : Timeline Job σ → Prop} (due : Int) (hidle : P t)
    (hran : ∀ e, t.agenda.entries[i]? = some e → e.isLive →
      P { agenda := (t.agenda.modify i fun e' => e'.ran due t.agenda.now
            (w.run e.job e.runs t.agenda.now t.host).2.panicked).fulfil
              (w.run e.job e.runs t.agenda.now t.host).2
          host := (w.run e.job e.runs t.agenda.now t.host).1 }) : P (runOnce w i t due) := by
  by_cases hlive : ∃ e, t.agenda.entries[i]? = some e ∧ e.isLive
  · obtain ⟨e, he, hlive⟩ := hlive
    rw [runOnce_of_live w he hlive]
    exact hran e he hlive
  · rwa [runOnce_of_not_live w fun e he => Bool.eq_false_iff.mpr fun hl => hlive ⟨e, he, hl⟩]

theorem wake_of_due {e : Entry Job} {due : Int} (he : t.agenda.entries[i]? = some e)
    (hdue : e.due? = some due) :
    wake w t i =
      { (e.plan due t.agenda.now).1.foldl (runOnce w i) t with
        agenda := ((e.plan due t.agenda.now).1.foldl (runOnce w i) t).agenda.modify i
          (·.restage (e.plan due t.agenda.now).2) } := by
  simp only [wake, he, hdue]
  rfl

theorem wake_of_not_waits (h : ∀ due, ¬t.Waits i due) : wake w t i = t := by
  cases he : t.agenda.entries[i]? with
  | none => simp only [wake, he]
  | some e =>
    cases hdue : e.due? with
    | none => simp only [wake, he, hdue]
    | some due => exact absurd ⟨e, he, hdue⟩ (h due)

/-- What every run of an entry keeps and its new stage as well is kept when the entry wakes up. -/
theorem wake_induction {P : Timeline Job σ → Prop} (hrun : ∀ t due, P t → P (runOnce w i t due))
    (hstage : ∀ t stage, P t → P { t with agenda := t.agenda.modify i (·.restage stage) }) (h : P t) :
    P (wake w t i) := by
  have hruns : ∀ (dues : List Int) (t : Timeline Job σ), P t → P (dues.foldl (runOnce w i) t) := by
    intro dues
    induction dues with
    | nil => exact fun t h => h
    | cons due dues ih => exact fun t h => ih _ (hrun t due h)
  by_cases hwaits : ∃ due, t.Waits i due
  · obtain ⟨due, e, he, hdue⟩ := hwaits
    rw [wake_of_due w he hdue]
    exact hstage _ _ (hruns _ t h)
  · rwa [wake_of_not_waits w (not_exists.mp hwaits)]

/-! ## What one act leaves alone -/

/-- Recurring work has a period in which time passes. -/
def Paced (t : Timeline Job σ) : Prop :=
  ∀ (i : EntryId) (e : Entry Job) (p : Span), t.agenda.entries[i]? = some e → e.period = some p →
    0 < p.nanos

/-- Some entries wake up.  All the others keep their due instants, if they are not cancelled; and all
that waits anew waits for an instant that is not ready. -/
structure Goes (woke : List EntryId) (t t' : Timeline Job σ) : Prop where
  now : t'.agenda.now = t.agenda.now
  isShutdown : t'.agenda.isShutdown = t.agenda.isShutdown
  old : ∀ (i : EntryId) (e : Entry Job), t.agenda.entries[i]? = some e →
    ∃ e', t'.agenda.entries[i]? = some e' ∧ e.Later e'
  fresh : ∀ (i : EntryId) (e' : Entry Job), t'.agenda.entries[i]? = some e' →
    t.agenda.entries[i]? = none → e'.period = none
  waits : ∀ i due, t'.Waits i due → i ∉ woke ∧ t.Waits i due ∨
    (i ∈ woke ∨ t.agenda.entries[i]? = none) ∧ Instant.floorMilli t.agenda.now < due

namespace Goes

variable {woke woke' : List EntryId}

theorem refl (h : ∀ i ∈ woke, ∀ due, ¬t.Waits i due) : Goes woke t t where
  now := rfl
  isShutdown := rfl
  old := fun i e he => ⟨e, he, .refl e⟩
  fresh := fun i e he hnone => by rw [he] at hnone; cases hnone
  waits := fun i due hw => .inl ⟨fun hi => h i hi due hw, hw⟩

theorem none_of_none (h : Goes woke t t₁) (hnone : t₁.agenda.entries[i]? = none) :
    t.agenda.entries[i]? = none := by
  cases he : t.agenda.entries[i]? with
  | none => rfl
  | some e =>
    obtain ⟨e', he', -⟩ := h.old i e he
    rw [hnone] at he'
    cases he'

theorem trans (h : Goes woke t₁ t₂) (h' : Goes woke' t₂ t₃) : Goes (woke ++ woke') t₁ t₃ where
  now := h'.now.trans h.now
  isShutdown := h'.isShutdown.trans h.isShutdown
  old := fun i e he => by
    obtain ⟨e', he', hlater⟩ := h.old i e he
    obtain ⟨e'', he'', hlater'⟩ := h'.old i e' he'
    exact ⟨e'', he'', hlater.trans hlater'⟩
  fresh := fun i e'' he'' hnone => by
    cases he' : t₂.agenda.entries[i]? with
    | none => exact h'.fresh i e'' he'' he'
    | some e' =>
      obtain ⟨e, he, hlater⟩ := h'.old i e' he'
      obtain rfl : e'' = e := Option.some.inj (he''.symm.trans he)
      rw [hlater.period]
      exact h.fresh i e' he' hnone
  waits := fun i due hw => by
    rcases h'.waits i due hw with ⟨hi', hw'⟩ | ⟨hi', hlt⟩
    · rcases h.waits i due hw' with ⟨hi, hw''⟩ | ⟨hi, hlt⟩
      · exact .inl ⟨fun hmem => (List.mem_append.mp hmem).elim hi hi', hw''⟩
      · exact .inr ⟨hi.imp_left (List.mem_append_left _), hlt⟩
    · rw [h.now] at hlt
      rcases hi' with hi' | hnone
      · exact .inr ⟨.inl (List.mem_append_right _ hi'), hlt⟩
      · exact .inr ⟨.inr (h.none_of_none hnone), hlt⟩

theorem paced (h : Goes woke t t₁) (hp : t.Paced) : t₁.Paced := by
  intro i e' p he' hperiod
  cases he : t.agenda.entries[i]? with
  | none =>
    rw [h.fresh i e' he' he] at hperiod
    cases hperiod
  | some e =>
    obtain ⟨e'', he'', hlater⟩ := h.old i e he
    obtain rfl : e' = e'' := Option.some.inj (he'.symm.trans he'')
    exact hp i e p he (hlater.period ▸ hperiod)

end Goes

theorem goes_fulfil {r : Request Job} (hr : ∀ d job, (some d, job) ∈ r.waits → 0 < d.nanos)
    (t : Timeline Job σ) (host : σ) : Goes [] t { agenda := t.agenda.fulfil r, host } where
  now := Agenda.now_fulfil t.agenda r
  isShutdown := Agenda.isShutdown_fulfil t.agenda r
  old := fun i e he => by
    obtain ⟨e', he', hkept, -⟩ := Agenda.kept_fulfil r he
    exact ⟨e', he', hkept.later⟩
  fresh := fun i e' he' hnone => by
    rcases Agenda.of_getElem?_fulfil he' with ⟨e, he, -⟩ | ⟨-, -, x, -, rfl⟩
    · rw [hnone] at he
      cases he
    · rfl
  waits := fun i due hw => by
    obtain ⟨e', he', hdue⟩ := hw
    rcases Agenda.of_getElem?_fulfil he' with ⟨e, he, hkept⟩ | ⟨hnone, -, ⟨delay, job⟩, hx, rfl⟩
    · exact .inl ⟨List.not_mem_nil, e, he, hkept.due? hdue⟩
    · refine .inr ⟨.inr hnone, ?_⟩
      have hstage := (Entry.due?_eq_some.mp hdue).2
      cases delay with
      | none => cases hstage
      | some d =>
        have hpos : 0 < d.nanos := hr d job hx
        have hfloor : Instant.floorMilli t.agenda.now ≤ t.agenda.now := Instant.floorMilli_le _
        obtain rfl := Stage.waiting.inj hstage
        refine Cadence.floorMilli_lt_within ?_
        simp only [Span.after]
        omega

theorem goes_modify (t : Timeline Job σ) (i : EntryId) {f : Entry Job → Entry Job}
    (hlater : ∀ e : Entry Job, e.Later (f e)) (hdue : ∀ e due, (f e).due? = some due → e.due? = some due) :
    Goes [] t { t with agenda := t.agenda.modify i f } where
  now := rfl
  isShutdown := rfl
  old := fun j e he => by
    simp only [Agenda.modify, Array.getElem?_modify, he]
    split
    · exact ⟨f e, rfl, hlater e⟩
    · exact ⟨e, rfl, .refl e⟩
  fresh := fun j e' he' hnone => by
    simp only [Agenda.modify, Array.getElem?_modify, hnone] at he'
    split at he' <;> cases he'
  waits := fun j due hw => by
    obtain ⟨e', he', hd⟩ := hw
    refine .inl ⟨List.not_mem_nil, ?_⟩
    simp only [Agenda.modify, Array.getElem?_modify] at he'
    split at he'
    · obtain ⟨e, he, rfl⟩ := Option.map_eq_some_iff.mp he'
      exact ⟨e, he, hdue e due hd⟩
    · exact ⟨e', he', hd⟩

variable {w} (hw : w.Orderly)
include hw

theorem goes_runOnce (t : Timeline Job σ) (i : EntryId) (due : Int) : Goes [] t (runOnce w i t due) := by
  refine runOnce_cases w (P := Goes [] t) due (.refl fun i hi => absurd hi List.not_mem_nil) fun e _ _ => ?_
  have hran := goes_modify t i (fun e' => e'.later_ran due t.agenda.now
    (w.run e.job e.runs t.agenda.now t.host).2.panicked) fun e' due' => Entry.due?_of_ran
  exact hran.trans (goes_fulfil (hw.patient e.job e.runs t.agenda.now t.host) _ _)

theorem goes_runs (t : Timeline Job σ) (i : EntryId) (dues : List Int) :
    Goes [] t (dues.foldl (runOnce w i) t) := by
  induction dues generalizing t with
  | nil => exact .refl fun i hi => absurd hi List.not_mem_nil
  | cons due dues ih => exact (goes_runOnce hw t i due).trans (ih _)

theorem goes_begin (t : Timeline Job σ) (job : Job) : Goes [] t (begin w t job) :=
  goes_fulfil (hw.patient job [] t.agenda.now t.host) t _

/-- Work that wakes up is not ready afterwards, and leaves the due instants of all other work alone. -/
theorem goes_wake (hp : t.Paced) (i : EntryId) : Goes [i] t (wake w t i) := by
  by_cases hwaits : ∃ due, t.Waits i due
  · obtain ⟨due, e, he, hdue⟩ := hwaits
    rw [wake_of_due w he hdue]
    generalize hplan : e.plan due t.agenda.now = plan
    have hruns : Goes [] t (plan.1.foldl (runOnce w i) t) := goes_runs hw t i plan.1
    refine ⟨hruns.now, hruns.isShutdown, fun j e' he' => ?_, fun j e' he' hnone => ?_, fun j due' hj => ?_⟩
    · obtain ⟨e₁, he₁, hlater⟩ := hruns.old j e' he'
      simp only [Agenda.modify, Array.getElem?_modify, he₁]
      split
      · exact ⟨e₁.restage plan.2, rfl, hlater.trans ⟨rfl, rfl, rfl, id⟩⟩
      · exact ⟨e₁, rfl, hlater⟩
    · have hne : i ≠ j := by
        rintro rfl
        rw [he] at hnone
        cases hnone
      simp only [Agenda.modify, Array.getElem?_modify, if_neg hne] at he'
      exact hruns.fresh j e' he' hnone
    · obtain ⟨e', he', hd⟩ := hj
      simp only [Agenda.modify, Array.getElem?_modify] at he'
      split at he'
      · rename_i heq
        obtain rfl : i = j := heq
        obtain ⟨e₁, -, rfl⟩ := Option.map_eq_some_iff.mp he'
        refine .inr ⟨.inl List.mem_cons_self, ?_⟩
        obtain ⟨hc, hstage⟩ := Entry.due?_eq_some.mp hd
        have hlive : e₁.isLive := Entry.isLive_of_restage (Entry.isLive_of_due? hd)
        simp only [Entry.restage, hlive, if_true] at hstage
        exact Entry.floorMilli_lt_of_plan (fun p => hp i e p he) (hplan ▸ hstage)
      · rename_i hne
        rcases hruns.waits j due' ⟨e', he', hd⟩ with ⟨-, hw'⟩ | ⟨hj, hlt⟩
        · exact .inl ⟨fun hmem => hne (List.mem_singleton.mp hmem).symm, hw'⟩
        · exact .inr ⟨.inr (hj.resolve_left List.not_mem_nil), hlt⟩
  · rw [not_exists] at hwaits
    rw [wake_of_not_waits w hwaits]
    refine .refl fun j hj due => ?_
    obtain rfl := List.mem_singleton.mp hj
    exact hwaits due

theorem goes_wakes (hp : t.Paced) (is : List EntryId) : Goes is t (is.foldl (wake w) t) := by
  induction is generalizing t with
  | nil => exact .refl fun i hi => absurd hi List.not_mem_nil
  | cons i is ih =>
    have hfirst : Goes [i] t (wake w t i) := goes_wake hw hp i
    exact hfirst.trans (ih (hfirst.paced hp))

/-! ## Settling -/

omit hw in
theorem goes_errands (t : Timeline Job σ) (jobs : List Job) :
    Goes [] t { t with agenda := { t.agenda with errands := jobs } } where
  now := rfl
  isShutdown := rfl
  old := fun i e he => ⟨e, he, .refl e⟩
  fresh := fun i e he hnone => by
    rw [show t.agenda.entries[i]? = some e from he] at hnone
    cases hnone
  waits := fun i due hi => .inl ⟨List.not_mem_nil, hi⟩

theorem goes_beginErrands (t : Timeline Job σ) : Goes [] t (beginErrands w t) := by
  have hfold : ∀ (jobs : List Job) (t : Timeline Job σ), Goes [] t (jobs.foldl (begin w) t) := by
    intro jobs
    induction jobs with
    | nil => exact fun t => .refl fun i hi => absurd hi List.not_mem_nil
    | cons job jobs ih => exact fun t => (goes_begin hw t job).trans (ih _)
  exact (goes_errands t []).trans (hfold t.agenda.errands _)

theorem goes_settle (hp : t.Paced) : Goes t.agenda.ready t (settle w t) := by
  have hwakes := goes_wakes hw hp t.agenda.ready
  have hboth := hwakes.trans (goes_beginErrands hw (t.agenda.ready.foldl (wake w) t))
  rwa [List.append_nil] at hboth

/-- Nothing is ready. -/
def Idle (t : Timeline Job σ) : Prop := ∀ i due, t.Waits i due → Instant.floorMilli t.agenda.now < due

/-- After all that was ready has woken up, nothing is ready. -/
theorem idle_settle (hp : t.Paced) : (settle w t).Idle := by
  have hgoes := goes_settle hw hp
  intro i due hi
  rw [hgoes.now]
  rcases hgoes.waits i due hi with ⟨hready, e, he, hdue⟩ | ⟨-, hlt⟩
  · rw [← Cadence.not_isReady_iff, ← Bool.not_eq_true]
    exact fun h => hready (Agenda.mem_ready.mpr ⟨e, due, he, hdue, h⟩)
  · exact hlt

/-- Work that is ready when others wake up is still ready when its own turn comes. -/
theorem inTurn_wakes (hp : t.Paced) {is : List EntryId} (hnodup : is.Nodup)
    (his : ∀ i ∈ is, t.agenda.entries[i]? ≠ none ∧ ∀ due, t.Waits i due → Cadence.isReady due t.agenda.now) :
    InTurn w t (is.map .wake) := by
  induction is generalizing t with
  | nil => trivial
  | cons i is ih =>
    obtain ⟨hi, hnodup⟩ := List.nodup_cons.mp hnodup
    have hgoes : Goes [i] t (wake w t i) := goes_wake hw hp i
    refine ⟨(his i List.mem_cons_self).2, ih (hgoes.paced hp) hnodup fun j hj => ?_⟩
    obtain ⟨hsome, hready⟩ := his j (List.mem_cons_of_mem i hj)
    refine ⟨fun hnone => hsome (hgoes.none_of_none hnone), fun due hw => ?_⟩
    rw [show (act w t (.wake i)).agenda.now = t.agenda.now from hgoes.now]
    rcases hgoes.waits j due hw with ⟨-, hw'⟩ | ⟨hj' | hnone, -⟩
    · exact hready due hw'
    · obtain rfl := List.mem_singleton.mp hj'
      exact absurd hj hi
    · exact absurd hnone hsome

omit hw in
theorem inTurn_errands (t : Timeline Job σ) (jobs : List Job) :
    InTurn w t (jobs.map fun _ => .errand) := by
  induction jobs generalizing t with
  | nil => trivial
  | cons job jobs ih => exact ⟨trivial, ih _⟩

theorem inTurn_settleActs (hp : t.Paced) : InTurn w t (settleActs w t) := by
  refine (inTurn_append w t _ _).mpr ⟨inTurn_wakes hw hp (Agenda.nodup_ready _) fun i hi => ?_,
    inTurn_errands _ _⟩
  obtain ⟨e, due, he, hdue, hready⟩ := Agenda.mem_ready.mp hi
  refine ⟨by rw [he]; exact Option.some_ne_none e, fun due' hw' => ?_⟩
  obtain ⟨e', he', hdue'⟩ := hw'
  obtain rfl : e = e' := Option.some.inj (he.symm.trans he')
  obtain rfl : due = due' := Option.some.inj (hdue.symm.trans hdue')
  exact hready

/-! ## Errands -/

/-- The errands that were asked for ask for none themselves. -/
def Terse (w : Worker Job σ) (t : Timeline Job σ) : Prop :=
  ∀ job ∈ t.agenda.errands, ∀ runs now x, (w.run job runs now x).2.errands = []

theorem terse_runOnce (ht : t.Terse w) (i : EntryId) (due : Int) : (runOnce w i t due).Terse w := by
  refine runOnce_cases w (P := Terse w) due ht fun e _ _ job hjob => ?_
  rw [Agenda.errands_fulfil] at hjob
  rcases List.mem_append.mp hjob with hjob | hjob
  · exact ht job hjob
  · exact hw.terse _ _ _ _ job hjob

theorem terse_wake (ht : t.Terse w) (i : EntryId) : (wake w t i).Terse w :=
  wake_induction w (P := Terse w) (fun _ due ht => terse_runOnce hw ht i due) (fun _ _ ht => ht) ht

theorem terse_wakes (ht : t.Terse w) (is : List EntryId) : (is.foldl (wake w) t).Terse w := by
  induction is generalizing t with
  | nil => exact ht
  | cons i is ih => exact ih (terse_wake hw ht i)

omit hw in
theorem errands_begin_foldl (jobs : List Job) (t : Timeline Job σ)
    (hjobs : ∀ job ∈ jobs, ∀ runs now x, (w.run job runs now x).2.errands = []) :
    (jobs.foldl (begin w) t).agenda.errands = t.agenda.errands := by
  induction jobs generalizing t with
  | nil => rfl
  | cons job jobs ih =>
    rw [List.foldl_cons, ih _ fun job' h => hjobs job' (List.mem_cons_of_mem job h), begin,
      Agenda.errands_fulfil, hjobs job List.mem_cons_self, List.append_nil]

/-- When an agenda has settled no errand is left to begin. -/
theorem errands_settle (ht : t.agenda.errands = []) : (settle w t).agenda.errands = [] := by
  have hterse : t.Terse w := fun job hjob => by rw [ht] at hjob; cases hjob
  exact errands_begin_foldl _ _ (terse_wakes hw hterse t.agenda.ready)

/-! ## Advancing -/

/-- A timeline between two moves of its clock. -/
structure Rests (t : Timeline Job σ) : Prop where
  paced : t.Paced
  errands : t.agenda.errands = []

theorem rests_settle (ht : t.Rests) : (settle w t).Rests :=
  ⟨(goes_settle hw ht.paced).paced ht.paced, errands_settle hw ht.errands⟩

omit hw in
theorem Rests.setNow (ht : t.Rests) (now : Int) : (t.setNow now).Rests := ⟨ht.paced, ht.errands⟩

omit hw in
/-- Work that is not ready wakes up at a later whole millisecond. -/
theorem Idle.lt_ceilMilli (ht : t.Idle) {due : Int} (hi : t.Waits i due) :
    t.agenda.now < Instant.ceilMilli due ∧
      Instant.floorMilli t.agenda.now + 1000000 ≤ Instant.floorMilli (Instant.ceilMilli due) := by
  have hlt := ht i due hi
  unfold Instant.ceilMilli Instant.floorMilli at *
  omega

omit hw in
/-- The last move of an advance: nothing wakes up before its end. -/
theorem inTurn_comeAct (ht : t.Rests) {stop : Int} (hstop : 1000000 ∣ stop)
    (hle : Instant.floorMilli t.agenda.now ≤ stop) (hlate : ∀ i due, t.Waits i due → stop < Instant.ceilMilli due) :
    InTurn w t [t.comeAct stop] ∧ (t.comeTo stop).Idle := by
  refine ⟨⟨⟨Instant.le_arrive hle, Instant.dvd_arrive_sub hstop _, ht.errands, fun i due hi => ?_⟩, trivial⟩,
    fun i due hi => ?_⟩
  · rw [Instant.floorMilli_arrive hstop]
    exact Int.le_of_lt (hlate i due hi)
  · have hlt := hlate i due hi
    change Instant.floorMilli (Instant.arrive stop t.agenda.now) < due
    rw [Instant.floorMilli_arrive hstop]
    unfold Instant.ceilMilli Instant.floorMilli at hlt
    omega

/-- If the instants on the way are no more than the whole milliseconds, an advance comes to its end with
nothing left that is ready, by acts in their turn. -/
theorem advanceTo_spec (ht : t.Rests) {stop : Int} {n : Nat} (hstop : 1000000 ∣ stop)
    (hle : Instant.floorMilli t.agenda.now ≤ stop) (hn : stop - Instant.floorMilli t.agenda.now < n * 1000000) :
    InTurn w t (advanceActs w stop n t) ∧ (advanceTo w stop n t).Idle ∧
      (advanceTo w stop n t).Rests ∧ (advanceTo w stop n t).agenda.now = Instant.arrive stop t.agenda.now := by
  induction n generalizing t with
  | zero =>
    rw [Int.natCast_zero, Int.zero_mul] at hn
    omega
  | succ n ih =>
    have hrests : (settle w t).Rests := rests_settle hw ht
    have hidle : (settle w t).Idle := idle_settle hw ht.paced
    have hnow : (settle w t).agenda.now = t.agenda.now := (goes_settle hw ht.paced).now
    have hturn : InTurn w t (settleActs w t) := inTurn_settleActs hw ht.paced
    rw [advanceActs, advanceTo, inTurn_append, play_settleActs]
    cases hwake : (settle w t).agenda.nextWake with
    | none =>
      have hnone : ∀ i due, ¬(settle w t).Waits i due := by
        rintro i due ⟨e, he, hdue⟩
        exact Agenda.nextWake_eq_none hwake he hdue
      obtain ⟨hcome, hidle'⟩ := inTurn_comeAct (w := w) hrests hstop (hnow ▸ hle) fun i due hi => absurd hi (hnone i due)
      exact ⟨⟨hturn, hcome⟩, hidle', hrests.setNow _, congrArg (Instant.arrive stop) hnow⟩
    | some wake =>
      obtain ⟨⟨i, e, due, he, hdue, rfl⟩, hmin⟩ := Agenda.nextWake_eq_some hwake
      obtain ⟨-, hfloor⟩ := hidle.lt_ceilMilli ⟨e, he, hdue⟩
      have hwhole : 1000000 ∣ Instant.ceilMilli due := Instant.dvd_ceilMilli due
      have hthere : Instant.floorMilli ((settle w t).comeTo (Instant.ceilMilli due)).agenda.now =
          Instant.ceilMilli due := Instant.floorMilli_arrive hwhole _
      by_cases hreach : Instant.ceilMilli due ≤ stop
      · simp only [hreach, if_true]
        rw [hnow, Instant.floorMilli_of_dvd hwhole] at hfloor
        obtain ⟨hturn', hidle', hrests', hend⟩ := ih (t := (settle w t).comeTo _) (hrests.setNow _) (by rwa [hthere])
          (by rw [hthere]; omega)
        refine ⟨⟨hturn, ⟨Instant.le_arrive (by rw [hnow]; omega), Instant.dvd_arrive_sub hwhole _,
          hrests.errands, ?_⟩, hturn'⟩, hidle', hrests', ?_⟩
        · rintro j due' ⟨e', he', hdue'⟩
          rw [Instant.floorMilli_arrive hwhole]
          exact hmin j e' due' he' hdue'
        · rw [hend, ← hnow]
          exact Instant.arrive_arrive hwhole stop _
      · simp only [hreach, if_false]
        have hlate : ∀ j due', (settle w t).Waits j due' → stop < Instant.ceilMilli due' := by
          rintro j due' ⟨e', he', hdue'⟩
          exact Int.lt_of_lt_of_le (Int.not_le.mp hreach) (hmin j e' due' he' hdue')
        obtain ⟨hcome, hidle'⟩ := inTurn_comeAct (w := w) hrests hstop (hnow ▸ hle) hlate
        exact ⟨⟨hturn, hcome⟩, hidle', hrests.setNow _, congrArg (Instant.arrive stop) hnow⟩

theorem advance_spec (ht : t.Rests) (amount : Span) :
    InTurn w t (advanceActs w (Cadence.stop amount t.agenda.now) (amount.nanos / 1000000 + 3) t) ∧
      (advance w amount t).Idle ∧ (advance w amount t).Rests ∧
      (advance w amount t).agenda.now = Instant.arrive (Cadence.stop amount t.agenda.now) t.agenda.now :=
  advanceTo_spec hw ht (Cadence.dvd_stop _ _) (Cadence.floorMilli_le_stop _ _) (Cadence.stop_sub_lt _ _)

theorem inTurn_jumpActs (ht : t.Rests) (amount : Span) : InTurn w t (jumpActs w amount t) := by
  have hrests : (settle w t).Rests := rests_settle hw ht
  refine (inTurn_append w t _ _).mpr ⟨inTurn_settleActs hw ht.paced, ?_⟩
  rw [play_settleActs]
  refine ⟨⟨?_, hrests.errands⟩, inTurn_settleActs hw (hrests.setNow _).paced⟩
  simp only [Span.after]
  omega

theorem rests_jump (ht : t.Rests) (amount : Span) : (jump w amount t).Rests :=
  rests_settle hw ((rests_settle hw ht).setNow _)

end Timeline

end Liveness
