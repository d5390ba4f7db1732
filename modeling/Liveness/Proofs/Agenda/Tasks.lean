import Liveness.Proofs.Agenda.Rhythm
import Liveness.Proofs.Agenda.Ticks
import Mathlib.Logic.Relation

/-!
# Tasks that are cancelled

Callers put tasks on an agenda, cancel them, let time go by and shut the scheduler
down.  All this comes down to *beats*, the smallest things that happen
(`Timeline.beats_call`): one run of a body, a new stage of a task, an errand that begins,
a move of the clock, a change by callers.  From the beat on after which a task is
cancelled, be it by a caller or by some body, no beat runs its body again:
`Timeline.dropped_of_beats`.
-/

namespace Liveness

/-- What callers may do next. -/
inductive TaskCall (Job σ : Type) where
  /-- A recurring task is scheduled. -/
  | every (name : String) (job : Job) (delay period : Span)
  /-- A task is scheduled that is done once. -/
  | once (name : String) (job : Job) (delay : Span)
  | cancel (i : EntryId)
  /-- Something happens to the host that the bodies act on. -/
  | meanwhile (f : σ → σ)
  | settle
  | advance (amount : Span)
  | jump (amount : Span)
  | shutdown

namespace Timeline

variable {Job σ : Type} (w : Worker Job σ)

/-- What a call comes to. -/
def call (t : Timeline Job σ) : TaskCall Job σ → Timeline Job σ
  | .every name job delay period => { t with agenda := (t.agenda.every name job delay period).2 }
  | .once name job delay => { t with agenda := (t.agenda.once name job delay).2 }
  | .cancel i => { t with agenda := t.agenda.cancel i }
  | .meanwhile f => { t with host := f t.host }
  | .settle => settle w t
  | .advance amount => advance w amount t
  | .jump amount => jump w amount t
  | .shutdown => settle w (shutdown w t)

def calls (t : Timeline Job σ) (cs : List (TaskCall Job σ)) : Timeline Job σ := cs.foldl (call w) t

theorem calls_append (t : Timeline Job σ) (cs ds : List (TaskCall Job σ)) :
    calls w t (cs ++ ds) = calls w (calls w t cs) ds := List.foldl_append

/-! ## Beats -/

/-- The smallest things that happen. -/
inductive Beat (t : Timeline Job σ) : Timeline Job σ → Prop
  /-- The body of a task runs, if the task is live. -/
  | run (i : EntryId) (due : Int) : Beat t (runOnce w i t due)
  | restage (i : EntryId) (stage : Stage) : Beat t { t with agenda := t.agenda.modify i (·.restage stage) }
  /-- Errands are about to begin. -/
  | errands (jobs : List Job) : Beat t { t with agenda := { t.agenda with errands := jobs } }
  | begin (job : Job) : Beat t (begin w t job)
  | clock (now : Int) : Beat t (t.setNow now)
  | take (e : Entry Job) : Beat t { t with agenda := (t.agenda.add e).2 }
  | cancel (i : EntryId) : Beat t { t with agenda := t.agenda.cancel i }
  | host (x : σ) : Beat t { t with host := x }
  | shutdown : Beat t (shutdown w t)

/-- Beats one after the other. -/
abbrev Beats : Timeline Job σ → Timeline Job σ → Prop := Relation.ReflTransGen (Beat w)

theorem beats_foldl {α : Type} {f : Timeline Job σ → α → Timeline Job σ} (hf : ∀ t x, Beats w t (f t x)) (xs : List α)
    (t : Timeline Job σ) : Beats w t (xs.foldl f t) :=
  xs.foldlRecOn f (motive := Beats w t) .refl fun _ h x _ => h.trans (hf _ x)

theorem beats_wake (t : Timeline Job σ) (i : EntryId) : Beats w t (wake w t i) :=
  wake_induction w (P := Beats w t) (fun _ due h => h.tail (.run i due)) (fun _ stage h => h.tail (.restage i stage))
    .refl

theorem beats_beginErrands (t : Timeline Job σ) : Beats w t (beginErrands w t) :=
  (Relation.ReflTransGen.single (.errands [])).trans (beats_foldl w (fun _ job => .single (.begin job)) _ _)

theorem beats_settle (t : Timeline Job σ) : Beats w t (settle w t) :=
  (beats_foldl w (beats_wake w) _ t).trans (beats_beginErrands w _)

theorem beats_advanceTo (stop : Int) (n : Nat) (t : Timeline Job σ) : Beats w t (advanceTo w stop n t) := by
  induction n generalizing t with
  | zero => exact .single (.clock _)
  | succ n ih =>
    have hsettle : Beats w t (settle w t) := beats_settle w t
    rw [advanceTo]
    split
    · split
      · exact (hsettle.tail (.clock _)).trans (ih _)
      · exact hsettle.tail (.clock _)
    · exact hsettle.tail (.clock _)

theorem beats_call (t : Timeline Job σ) (c : TaskCall Job σ) : Beats w t (call w t c) := by
  cases c with
  | every name job delay period => exact .single (.take _)
  | once name job delay => exact .single (.take _)
  | cancel i => exact .single (.cancel i)
  | meanwhile f => exact .single (.host _)
  | settle => exact beats_settle w t
  | advance amount => exact beats_advanceTo w _ _ t
  | jump amount => exact ((beats_settle w t).tail (.clock _)).trans (beats_settle w _)
  | shutdown => exact (Relation.ReflTransGen.single .shutdown).trans (beats_settle w _)

theorem beats_calls (t : Timeline Job σ) (cs : List (TaskCall Job σ)) : Beats w t (calls w t cs) :=
  beats_foldl w (beats_call w) cs t

/-! ## Tasks that are dropped -/

/-- A task has been cancelled after some runs. -/
def Dropped (i : EntryId) (runs : List Run) (t : Timeline Job σ) : Prop :=
  ∃ e, t.agenda.entries[i]? = some e ∧ e.cancelled = true ∧ e.runs = runs

/-- A task is over after some runs: it was cancelled or has come to its end. -/
def Over (i : EntryId) (runs : List Run) (t : Timeline Job σ) : Prop :=
  ∃ e, t.agenda.entries[i]? = some e ∧ e.isLive = false ∧ e.runs = runs

variable {w} {t t' : Timeline Job σ} {i j : EntryId} {e : Entry Job} {runs : List Run}

/-- No beat runs the body of a task that is over. -/
theorem over_of_beat (he : t.agenda.entries[i]? = some e) (hover : e.isLive = false) (hbeat : Beat w t t') :
    ∃ e', t'.agenda.entries[i]? = some e' ∧ e'.isLive = false ∧ e'.runs = e.runs ∧
      (e.cancelled = true → e'.cancelled = true) := by
  have of_kept : (∃ e', t'.agenda.entries[i]? = some e' ∧ e.Kept e') → ∃ e', t'.agenda.entries[i]? = some e' ∧
      e'.isLive = false ∧ e'.runs = e.runs ∧ (e.cancelled = true → e'.cancelled = true) := by
    rintro ⟨e', he', hkept⟩
    exact ⟨e', he', Bool.eq_false_iff.mpr fun hlive => Bool.eq_false_iff.mp hover (hkept.isLive hlive),
      hkept.still.runs, hkept.later.cancelled⟩
  cases hbeat with
  | run j due =>
    refine of_kept ?_
    by_cases hj : j = i
    · subst hj
      rw [runOnce_of_not_live w fun e' he' => Option.some.inj (he.symm.trans he') ▸ hover]
      exact ⟨e, he, .refl e⟩
    · exact kept_runOnce he hj due
  | restage j stage =>
    refine of_kept ⟨e, ?_, .refl e⟩
    simp only [Agenda.modify, Array.getElem?_modify, he]
    split
    · exact congrArg some (Entry.restage_of_not_live hover)
    · rfl
  | begin job =>
    obtain ⟨e', he', hkept, -⟩ := Agenda.kept_fulfil (w.run job [] t.agenda.now t.host).2 he
    exact of_kept ⟨e', he', hkept⟩
  | take e' => exact of_kept ⟨e, Agenda.getElem?_add_of_lt e' he, .refl e⟩
  | cancel j =>
    refine of_kept ⟨_, (Agenda.getElem?_cancel t.agenda j i).trans (congrArg _ he), ?_⟩
    split
    · exact .inr rfl
    · exact .refl e
  | shutdown =>
    refine ⟨{ e with cancelled := true, stage := .ended }, ?_, rfl, rfl, fun _ => rfl⟩
    simp [Timeline.shutdown, Array.getElem?_map, he]
  | errands | clock | host => exact of_kept ⟨e, he, .refl e⟩

/-- A task that is over never runs again. -/
theorem over_of_beats (h : t.Over i runs) (hbeats : Beats w t t') : t'.Over i runs := by
  induction hbeats with
  | refl => exact h
  | tail _ hbeat ih =>
    obtain ⟨e, he, hover, hruns⟩ := ih
    obtain ⟨e', he', hover', hruns', -⟩ := over_of_beat he hover hbeat
    exact ⟨e', he', hover', hruns'.trans hruns⟩

/-- A task that was cancelled never runs again. -/
theorem dropped_of_beats (h : t.Dropped i runs) (hbeats : Beats w t t') : t'.Dropped i runs := by
  induction hbeats with
  | refl => exact h
  | tail _ hbeat ih =>
    obtain ⟨e, he, hcancelled, hruns⟩ := ih
    obtain ⟨e', he', -, hruns', hcancelled'⟩ := over_of_beat he (by simp [Entry.isLive, hcancelled]) hbeat
    exact ⟨e', he', hcancelled' hcancelled, hruns'.trans hruns⟩

/-- A caller cancels a task. -/
theorem dropped_of_cancel (he : t.agenda.entries[i]? = some e) : (call w t (.cancel i)).Dropped i e.runs :=
  ⟨{ e with cancelled := true }, by simp [call, Agenda.getElem?_cancel, he], rfl, rfl⟩

/-- The body of some task, its own or another one's, cancels a task. -/
theorem dropped_of_request {due : Int} {e' : Entry Job} (he' : t.agenda.entries[j]? = some e') (hlive : e'.isLive)
    (hi : i ∈ (w.run e'.job e'.runs t.agenda.now t.host).2.cancels) (he : t.agenda.entries[i]? = some e) :
    (runOnce w j t due).Dropped i (if i = j then ⟨due, t.agenda.now⟩ :: e.runs else e.runs) := by
  rw [runOnce_of_live w he' hlive]
  generalize (w.run e'.job e'.runs t.agenda.now t.host).2 = request at hi ⊢
  let ran : Entry Job := if j = i then e.ran due t.agenda.now request.panicked else e
  have hran : (t.agenda.modify j fun e => e.ran due t.agenda.now request.panicked).entries[i]? = some ran := by
    rw [Agenda.modify, Array.getElem?_modify, he]
    simp only [ran]
    split <;> rfl
  obtain ⟨e'', he'', hkept, -, hcancelled⟩ := Agenda.kept_fulfil request hran
  refine ⟨e'', he'', hcancelled hi, hkept.still.runs.trans ?_⟩
  simp only [ran, eq_comm (a := j)]
  split <;> rfl

/-! ## Tasks at rest -/

/-- Calls leave a timeline at rest. -/
theorem rests_call (hw : w.Orderly) (ht : t.Rests) (c : TaskCall Job σ) : (call w t c).Rests := by
  cases c with
  | every name job delay period => exact ht.grows (Agenda.grows_every t.agenda name job delay period)
  | once name job delay => exact ht.grows (Agenda.grows_once t.agenda name job delay)
  | cancel i =>
    have hgrows : Agenda.Grows (fun _ => False) (fun _ => True) t.agenda (t.agenda.cancel i) := .cancel i .refl trivial
    exact ht.grows hgrows
  | meanwhile f => exact ⟨ht.paced, ht.errands⟩
  | settle => exact rests_settle hw ht
  | advance amount => exact (advance_spec hw ht amount).2.2.1
  | jump amount => exact rests_jump hw ht amount
  | shutdown =>
    refine rests_settle hw ⟨fun i e p he hp => ?_, ht.errands⟩
    simp only [shutdown, Array.getElem?_map, Option.map_eq_some_iff] at he
    obtain ⟨e₀, he₀, rfl⟩ := he
    exact ht.paced i e₀ p he₀ hp

theorem rests_calls (hw : w.Orderly) (ht : t.Rests) (cs : List (TaskCall Job σ)) : (calls w t cs).Rests := by
  induction cs generalizing t with
  | nil => exact ht
  | cons c cs ih => exact ih (rests_call hw ht c)

end Timeline

end Liveness
