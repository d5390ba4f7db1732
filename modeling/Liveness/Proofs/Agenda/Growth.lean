import Liveness.Proofs.Agenda.Turns

/-!
# What callers do to an agenda

Between two moves of its clock an agenda only grows: callers take on work and
cancel some of it.  `Agenda.Grows` says which work is taken on and which entries
are cancelled; all other entries stay as they are.
-/

namespace Liveness

variable {Job : Type}

namespace Agenda

/-- Work with some jobs is taken on, and some entries are cancelled. -/
inductive Grows (taken : Job → Prop) (dropped : EntryId → Prop) (a : Agenda Job) : Agenda Job → Prop
  | refl : Grows taken dropped a a
  | add {b : Agenda Job} (e : Entry Job) : Grows taken dropped a b → taken e.job →
      (∀ p, e.period = some p → 0 < p.nanos) → Grows taken dropped a (b.add e).2
  | cancel {b : Agenda Job} (i : EntryId) : Grows taken dropped a b → dropped i →
      Grows taken dropped a (b.cancel i)

/-- An entry as an agenda takes it on. -/
def enrol (a : Agenda Job) (e : Entry Job) : Entry Job :=
  if a.isShutdown then { e with cancelled := true, stage := .ended } else e

theorem add_eq (a : Agenda Job) (e : Entry Job) :
    a.add e = (a.entries.size, { a with entries := a.entries.push (a.enrol e) }) := rfl

theorem size_add (a : Agenda Job) (e : Entry Job) : (a.add e).2.entries.size = a.entries.size + 1 :=
  Array.size_push _

@[simp] theorem job_enrol (a : Agenda Job) (e : Entry Job) : (a.enrol e).job = e.job := by
  unfold enrol; split <;> rfl

theorem isLive_enrol {a : Agenda Job} (ha : a.isShutdown = true) (e : Entry Job) :
    (a.enrol e).isLive = false := by
  simp [enrol, ha, Entry.isLive]

@[simp] theorem period_enrol (a : Agenda Job) (e : Entry Job) : (a.enrol e).period = e.period := by
  unfold enrol; split <;> rfl

theorem getElem?_add_size (a : Agenda Job) (e : Entry Job) :
    (a.add e).2.entries[a.entries.size]? = some (a.enrol e) := Array.getElem?_push_size

theorem getElem?_add_of_lt {a : Agenda Job} {i : EntryId} {e : Entry Job} (e' : Entry Job)
    (h : a.entries[i]? = some e) : (a.add e').2.entries[i]? = some e := by
  rw [add_eq, Array.getElem?_push_lt (Array.getElem?_eq_some_iff.mp h).1]
  exact congrArg some (Array.getElem?_eq_some_iff.mp h).2

theorem getElem?_cancel (a : Agenda Job) (i j : EntryId) :
    (a.cancel i).entries[j]? =
      (a.entries[j]?).map fun e => if i = j then { e with cancelled := true } else e := by
  rw [cancel, modify, Array.getElem?_modify]
  split <;> simp_all

/-- The entries after a shutdown. -/
def stopped (a : Agenda Job) : Agenda Job :=
  { a with entries := a.entries.map fun e => { e with cancelled := true, stage := .ended } }

theorem isLive_of_stopped (a : Agenda Job) (i : EntryId) (e : Entry Job)
    (he : a.stopped.entries[i]? = some e) : e.isLive = false := by
  rw [stopped, Array.getElem?_map] at he
  obtain ⟨e₀, -, rfl⟩ := Option.map_eq_some_iff.mp he
  rfl

namespace Grows

variable {taken : Job → Prop} {dropped : EntryId → Prop} {a b c : Agenda Job} {i : EntryId}

theorem trans (h : Grows taken dropped a b) (h' : Grows taken dropped b c) : Grows taken dropped a c := by
  induction h' with
  | refl => exact h
  | add e _ htaken hperiod ih => exact ih.add e htaken hperiod
  | cancel i _ hdropped ih => exact ih.cancel i hdropped

theorem mono {taken' : Job → Prop} {dropped' : EntryId → Prop} (htaken : ∀ job, taken job → taken' job)
    (hdropped : ∀ i, dropped i → dropped' i) (h : Grows taken dropped a b) :
    Grows taken' dropped' a b := by
  induction h with
  | refl => exact .refl
  | add e _ ht hperiod ih => exact ih.add e (htaken _ ht) hperiod
  | cancel i _ hd ih => exact ih.cancel i (hdropped i hd)

/-- One piece of work is taken on. -/
theorem of_job {job : Job} (h : Grows (· = job) (fun _ => False) a b) (hjob : taken job) :
    Grows taken dropped a b :=
  h.mono (fun job' (heq : job' = job) => heq ▸ hjob) fun _ => False.elim

theorem now (h : Grows taken dropped a b) : b.now = a.now := by
  induction h with
  | refl => rfl
  | add e _ _ _ ih => exact ih
  | cancel i _ _ ih => exact ih

theorem isShutdown (h : Grows taken dropped a b) : b.isShutdown = a.isShutdown := by
  induction h with
  | refl => rfl
  | add e _ _ _ ih => exact ih
  | cancel i _ _ ih => exact ih

theorem errands (h : Grows taken dropped a b) : b.errands = a.errands := by
  induction h with
  | refl => rfl
  | add e _ _ _ ih => exact ih
  | cancel i _ _ ih => exact ih

/-- An entry that was there is still there, and is the same if it was not dropped. -/
theorem old (h : Grows taken dropped a b) {e : Entry Job} (he : a.entries[i]? = some e) :
    ∃ e', b.entries[i]? = some e' ∧ e.Kept e' ∧ (¬dropped i → e' = e) := by
  induction h with
  | refl => exact ⟨e, he, .refl e, fun _ => rfl⟩
  | add e'' _ _ _ ih =>
    obtain ⟨e', he', hkept, hsame⟩ := ih
    exact ⟨e', getElem?_add_of_lt e'' he', hkept, hsame⟩
  | cancel j _ hj ih =>
    obtain ⟨e', he', hkept, hsame⟩ := ih
    rw [getElem?_cancel, he', Option.map_some]
    refine ⟨_, rfl, ?_, fun hi => ?_⟩
    · split
      · exact hkept.trans (.inr rfl)
      · exact hkept
    · have hne : j ≠ i := by
        rintro rfl
        exact hi hj
      rw [if_neg hne]
      exact hsame hi

/-- An entry that is there was there before, or is some work that was taken on, which ends at once after a
shutdown. -/
theorem new (h : Grows taken dropped a b) {e' : Entry Job} (he' : b.entries[i]? = some e') :
    (∃ e, a.entries[i]? = some e ∧ e.Kept e') ∨
      a.entries[i]? = none ∧ taken e'.job ∧ (∀ p, e'.period = some p → 0 < p.nanos) ∧
        (a.isShutdown = true → e'.isLive = false) := by
  induction h generalizing e' with
  | refl => exact .inl ⟨e', he', .refl e'⟩
  | @add b e hgrows htaken hperiod ih =>
    by_cases hi : i = b.entries.size
    · subst hi
      obtain rfl := Option.some.inj ((getElem?_add_size b e).symm.trans he')
      refine .inr ⟨?_, ?_, ?_, fun hs => isLive_enrol (hgrows.isShutdown.trans hs) e⟩
      · cases ha : a.entries[b.entries.size]? with
        | none => rfl
        | some e₀ =>
          obtain ⟨e₁, he₁, -⟩ := hgrows.old ha
          exact absurd (Array.getElem?_eq_some_iff.mp he₁).1 (Nat.lt_irrefl _)
      · rwa [job_enrol]
      · rwa [period_enrol]
    · rw [add_eq, Array.getElem?_push, if_neg hi] at he'
      exact ih he'
  | cancel j _ _ ih =>
    rw [getElem?_cancel] at he'
    obtain ⟨e, he, rfl⟩ := Option.map_eq_some_iff.mp he'
    have hkept : e.Kept (if j = i then { e with cancelled := true } else e) := by
      split
      · exact .inr rfl
      · exact .refl e
    rcases ih he with ⟨e₀, he₀, hkept₀⟩ | ⟨hnone, htaken, hperiod, hlive⟩
    · exact .inl ⟨e₀, he₀, hkept₀.trans hkept⟩
    · refine .inr ⟨hnone, by rwa [hkept.job], by rwa [hkept.period], fun hs => ?_⟩
      exact Bool.eq_false_iff.mpr fun hl => Bool.eq_false_iff.mp (hlive hs) (hkept.isLive hl)

end Grows

/-- The entry of recurring work. -/
def recurring (a : Agenda Job) (name : String) (job : Job) (delay period : Span) : Entry Job where
  name
  job
  period := some period.asPeriod
  stage := match Cadence.first? delay a.now with
    | some due => .waiting due
    | none => .ended

/-- Recurring work waits for its first due instant, if the clock goes that far. -/
theorem due?_recurring (a : Agenda Job) (name : String) (job : Job) (delay period : Span) :
    (a.recurring name job delay period).due? = Cadence.first? delay a.now := by
  unfold recurring Entry.due?
  cases Cadence.first? delay a.now <;> rfl

theorem grows_every (a : Agenda Job) (name : String) (job : Job) (delay period : Span) :
    Grows (· = job) (fun _ => False) a (a.every name job delay period).2 := by
  refine .add _ .refl rfl fun p hp => ?_
  obtain rfl := Option.some.inj hp
  exact Nat.lt_of_lt_of_le (by decide) (Span.asPeriod_ge period)

theorem grows_once (a : Agenda Job) (name : String) (job : Job) (delay : Span) :
    Grows (· = job) (fun _ => False) a (a.once name job delay).2 :=
  .add _ .refl rfl fun p hp => by cases hp

theorem grows_wait (a : Agenda Job) (job : Job) (delay : Option Span) :
    Grows (· = job) (fun _ => False) a (a.wait job delay) := by
  unfold wait
  split
  · exact .refl
  · exact .add _ .refl rfl fun p hp => by cases hp

end Agenda

namespace Timeline

variable {σ : Type} {taken : Job → Prop} {dropped : EntryId → Prop}

/-- Callers leave a timeline at rest. -/
theorem Rests.grows {t t' : Timeline Job σ} (ht : t.Rests)
    (h : Agenda.Grows taken dropped t.agenda t'.agenda) : t'.Rests where
  errands := h.errands.trans ht.errands
  paced := fun i e p he hperiod => by
    rcases h.new he with ⟨e₀, he₀, hkept⟩ | ⟨-, -, hpos, -⟩
    · exact ht.paced i e₀ p he₀ (hkept.period ▸ hperiod)
    · exact hpos p hperiod

end Timeline

end Liveness
