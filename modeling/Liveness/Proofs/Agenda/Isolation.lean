import Liveness.Proofs.Agenda.Alike
import Liveness.Proofs.Agenda.OneShots

/-!
# Tasks that do not know of each other

A task whose body keeps out of sight of the others and cancels none of them may be
cancelled or not: the others do the same.  The two runs are compared call by call, and
within a round wake-up by wake-up: at every point one timeline looks like the other,
the task apart (`Timeline.Alike`).  This is where ticks are of use: on the way of an
advance the two stop at different instants, but they tick alike.
-/

namespace Liveness

variable {Job σ View : Type}

/-- What work of some kind asks for depends on no more of its host than a view of it, and so does what it makes of
that view.  It leads to work of that kind only. -/
structure Worker.Sees (w : Worker Job σ) (view : σ → View) (P : Job → Prop) : Prop where
  request : ∀ job runs now x x', P job → view x' = view x → (w.run job runs now x').2 = (w.run job runs now x).2
  host : ∀ job runs now x x', P job → view x' = view x →
    view (w.run job runs now x').1 = view (w.run job runs now x).1
  abandon : ∀ job now x x', P job → view x' = view x → view (w.abandon job now x') = view (w.abandon job now x)
  errands : ∀ job runs now x, P job → ∀ job' ∈ (w.run job runs now x).2.errands, P job'
  waits : ∀ job runs now x, P job → ∀ y ∈ (w.run job runs now x).2.waits, P y.2

/-- The body of a task that does nothing in view, and asks for nothing but that the task itself be cancelled. -/
structure Worker.Hides (w : Worker Job σ) (view : σ → View) (k : EntryId) (job : Job) : Prop where
  host : ∀ runs now x, view (w.run job runs now x).1 = view x
  cancels : ∀ runs now x, ∀ i ∈ (w.run job runs now x).2.cancels, i = k
  errands : ∀ runs now x, (w.run job runs now x).2.errands = []
  waits : ∀ runs now x, (w.run job runs now x).2.waits = []

namespace TaskCall

/-- A call to cancel a certain task. -/
def cancels (k : EntryId) : TaskCall Job σ → Bool
  | .cancel i => i == k
  | _ => false

/-- A call that schedules work of some kind only, and does nothing in view that depends on more than the view. -/
def Fits (view : σ → View) (P : Job → Prop) : TaskCall Job σ → Prop
  | .every _ job _ _ | .once _ job _ => P job
  | .meanwhile f => ∀ x x', view x' = view x → view (f x') = view (f x)
  | _ => True

end TaskCall

namespace Timeline

/-- Two timelines that differ in one task only, and in what is out of view. -/
structure Alike (view : σ → View) (P : Job → Prop) (k : EntryId) (job : Job) (t t' : Timeline Job σ) : Prop where
  agenda : t.agenda.Alike P k job t'.agenda
  host : view t'.host = view t.host

namespace Alike

variable {w : Worker Job σ} {view : σ → View} {P : Job → Prop} {k : EntryId} {job : Job} {t t' t'' : Timeline Job σ}

theorem symm (h : Alike view P k job t t') : Alike view P k job t' t := ⟨h.agenda.symm, h.host.symm⟩

theorem trans (h : Alike view P k job t t') (h' : Alike view P k job t' t'') : Alike view P k job t t'' :=
  ⟨h.agenda.trans h'.agenda, h'.host.trans h.host⟩

theorem modify (h : Alike view P k job t t') (i : EntryId) {f : Entry Job → Entry Job}
    (hf : ∀ e : Entry Job, e.Later (f e)) :
    Alike view P k job { t with agenda := t.agenda.modify i f } { t' with agenda := t'.agenda.modify i f } :=
  ⟨h.agenda.modify i hf, h.host⟩

theorem setNow (h : Alike view P k job t t') (now : Int) : Alike view P k job (t.setNow now) (t'.setNow now) :=
  ⟨{ h.agenda with now := rfl }, h.host⟩

/-! ## What the task does -/

section Task

variable (hk : w.Hides view k job)
include hk

theorem runOnce_task (h : Alike view P k job t t') (due : Int) : Alike view P k job t (runOnce w k t' due) := by
  refine runOnce_cases w (P := Alike view P k job t) due h fun e he _ => ?_
  obtain ⟨e', he', hjob, -⟩ := h.agenda.task'
  obtain rfl := Option.some.inj (he.symm.trans he')
  subst hjob
  refine ⟨?_, (hk.host _ _ _).trans h.host⟩
  have hran := h.agenda.modify_task fun e' => e'.later_ran due t'.agenda.now
    (w.run e.job e.runs t'.agenda.now t'.host).2.panicked
  rw [Agenda.fulfil, hk.errands, hk.waits]
  simp only [List.foldl_nil, List.append_nil]
  refine List.foldlRecOn (motive := t.agenda.Alike P k e.job) _ Agenda.cancel hran fun _ h i hi => ?_
  obtain rfl : i = k := hk.cancels _ _ _ i hi
  exact h.cancel_task

theorem wake_task (h : Alike view P k job t t') : Alike view P k job t (wake w t' k) :=
  wake_induction w (P := Alike view P k job t) (fun _ due h => h.runOnce_task hk due)
    (fun _ _ h => ⟨h.agenda.modify_task fun _ => ⟨rfl, rfl, rfl, id⟩, h.host⟩) h

end Task

/-! ## What the others do -/

section Others

variable (hw : w.Sees view P)
include hw

theorem runOnce (h : Alike view P k job t t') {i : EntryId} (hi : i ≠ k) (due : Int) :
    Alike view P k job (runOnce w i t due) (runOnce w i t' due) := by
  by_cases hlive : ∃ e, t.agenda.entries[i]? = some e ∧ e.isLive
  · obtain ⟨e, he, hlive⟩ := hlive
    have hjob : P e.job := h.agenda.jobs i e hi he
    have he' : t'.agenda.entries[i]? = some e := (h.agenda.others i hi).trans he
    rw [runOnce_of_live w he hlive, runOnce_of_live w he' hlive, h.agenda.now, hw.request _ _ _ _ _ hjob h.host]
    refine ⟨?_, hw.host _ _ _ _ _ hjob h.host⟩
    exact (h.agenda.modify i fun e' => e'.later_ran _ _ _).fulfil (hw.errands _ _ _ _ hjob) (hw.waits _ _ _ _ hjob)
  · have hidle : ∀ e, t.agenda.entries[i]? = some e → e.isLive = false := fun e he =>
      Bool.eq_false_iff.mpr fun hl => hlive ⟨e, he, hl⟩
    rwa [runOnce_of_not_live w hidle, runOnce_of_not_live w (h.agenda.others i hi ▸ hidle)]

theorem wake (h : Alike view P k job t t') {i : EntryId} (hi : i ≠ k) :
    Alike view P k job (wake w t i) (wake w t' i) := by
  by_cases hdue : ∃ e due, t.agenda.entries[i]? = some e ∧ e.due? = some due
  · obtain ⟨e, due, he, hdue⟩ := hdue
    have he' : t'.agenda.entries[i]? = some e := (h.agenda.others i hi).trans he
    rw [wake_of_due w he hdue, wake_of_due w he' hdue, h.agenda.now]
    have hruns : Alike view P k job ((e.plan due t.agenda.now).1.foldl (Timeline.runOnce w i) t)
        ((e.plan due t.agenda.now).1.foldl (Timeline.runOnce w i) t') :=
      List.foldl_rel h fun due _ _ _ h => h.runOnce hw hi due
    exact hruns.modify i fun _ => ⟨rfl, rfl, rfl, id⟩
  · have hidle : ∀ due, ¬t.Waits i due := fun due ⟨e, he, hd⟩ => hdue ⟨e, due, he, hd⟩
    have hidle' : ∀ due, ¬t'.Waits i due := by
      rintro due ⟨e, he, hd⟩
      exact hidle due ⟨e, (h.agenda.others i hi).symm.trans he, hd⟩
    rwa [wake_of_not_waits w hidle, wake_of_not_waits w hidle']

theorem begin (h : Alike view P k job t t') {job' : Job} (hjob' : P job') :
    Alike view P k job (begin w t job') (begin w t' job') := by
  unfold Timeline.begin
  simp only
  rw [h.agenda.now, hw.request _ _ _ _ _ hjob' h.host]
  exact ⟨h.agenda.fulfil (hw.errands _ _ _ _ hjob') (hw.waits _ _ _ _ hjob'), hw.host _ _ _ _ _ hjob' h.host⟩

theorem beginErrands (h : Alike view P k job t t') : Alike view P k job (beginErrands w t) (beginErrands w t') := by
  unfold Timeline.beginErrands
  rw [h.agenda.errands]
  refine List.foldl_rel ⟨?_, h.host⟩ fun job' hjob' _ _ h' => h'.begin hw (h.agenda.asked job' hjob')
  exact { h.agenda with errands := rfl, asked := fun _ hmem => absurd hmem List.not_mem_nil }

/-- Rounds in which the same wake up, apart from the task. -/
theorem wakes (hk : w.Hides view k job) (h : Alike view P k job t t') {is is' : List EntryId}
    (his : is'.filter (· ≠ k) = is.filter (· ≠ k)) :
    Alike view P k job (is.foldl (Timeline.wake w) t) (is'.foldl (Timeline.wake w) t') := by
  have hfilter : ∀ (is : List EntryId) {t t' : Timeline Job σ}, Alike view P k job t t' →
      Alike view P k job ((is.filter (· ≠ k)).foldl (Timeline.wake w) t) (is.foldl (Timeline.wake w) t') := by
    intro is
    induction is with
    | nil => exact fun h => h
    | cons i is ih =>
      intro t t' h
      by_cases hi : i = k
      · subst hi
        rw [List.filter_cons_of_neg (by simp)]
        exact ih (h.wake_task hk)
      · rw [List.filter_cons_of_pos (by simpa using hi)]
        exact ih (h.wake hw hi)
  exact (hfilter is (h.trans h.symm)).symm.trans (his ▸ hfilter is' h)

theorem settle (hk : w.Hides view k job) (h : Alike view P k job t t') :
    Alike view P k job (settle w t) (settle w t') := (h.wakes hw hk h.agenda.ready).beginErrands hw

theorem ticks (hk : w.Hides view k job) (n : Nat) (h : Alike view P k job t t') :
    Alike view P k job ((tick w)^[n] t) ((tick w)^[n] t') := by
  induction n with
  | zero => exact h
  | succ n ih =>
    rw [Function.iterate_succ_apply', Function.iterate_succ_apply', tick, tick, ih.agenda.now]
    exact (ih.setNow _).settle hw hk

theorem advance (horderly : w.Orderly) (hk : w.Hides view k job) (ht : t.Rests) (ht' : t'.Rests)
    (h : Alike view P k job t t') (amount : Span) :
    Alike view P k job (advance w amount t) (advance w amount t') := by
  rw [advance_eq_ticks horderly ht, advance_eq_ticks horderly ht', h.agenda.now]
  exact (h.settle hw hk).ticks hw hk _

theorem jump (hk : w.Hides view k job) (h : Alike view P k job t t') (amount : Span) :
    Alike view P k job (jump w amount t) (jump w amount t') := by
  have hsettled : Alike view P k job (Timeline.settle w t) (Timeline.settle w t') := h.settle hw hk
  unfold Timeline.jump
  simp only
  rw [hsettled.agenda.now]
  exact (hsettled.setNow _).settle hw hk

theorem shutdown (h : Alike view P k job t t') : Alike view P k job (shutdown w t) (shutdown w t') where
  agenda := { h.agenda.stopped with isShutdown := rfl }
  host := by
    obtain ⟨hsame, hjobs⟩ := h.agenda.underWay
    simp only [Timeline.shutdown, hsame, h.agenda.now]
    exact List.foldl_rel (r := fun x x' => view x = view x') h.host fun e he _ _ hx =>
      hw.abandon _ _ _ _ (hjobs e he) hx

/-- What happens to both, if no one cancels the task. -/
theorem call (horderly : w.Orderly) (hk : w.Hides view k job) (ht : t.Rests) (ht' : t'.Rests)
    (h : Alike view P k job t t') {c : TaskCall Job σ} (hc : c.Fits view P) :
    Alike view P k job (call w t c) (call w t' c) := by
  cases c with
  | every name job' delay period =>
    have hstage : Cadence.first? delay t'.agenda.now = Cadence.first? delay t.agenda.now := by rw [h.agenda.now]
    refine ⟨?_, h.host⟩
    simp only [Timeline.call, Agenda.every, hstage]
    exact h.agenda.add hc
  | once name job' delay =>
    have hstage : t'.agenda.waitFor delay = t.agenda.waitFor delay := by
      rw [Agenda.waitFor, Agenda.waitFor, h.agenda.now]
    refine ⟨?_, h.host⟩
    simp only [Timeline.call, Agenda.once, hstage]
    exact h.agenda.add hc
  | cancel i => exact ⟨h.agenda.cancel i, h.host⟩
  | meanwhile f => exact ⟨h.agenda, hc _ _ h.host⟩
  | settle => exact h.settle hw hk
  | advance amount => exact h.advance hw horderly hk ht ht' amount
  | jump amount => exact h.jump hw hk amount
  | shutdown => exact (h.shutdown hw).settle hw hk

/-- What happens to both, whenever the task is cancelled. -/
theorem calls (horderly : w.Orderly) (hk : w.Hides view k job) (ht : t.Rests) (ht' : t'.Rests)
    (h : Alike view P k job t t') {cs cs' : List (TaskCall Job σ)} (hcs : ∀ c ∈ cs, c.Fits view P)
    (hsame : cs'.filter (!·.cancels k) = cs.filter (!·.cancels k)) :
    Alike view P k job (calls w t cs) (calls w t' cs') := by
  have hfilter : ∀ (cs : List (TaskCall Job σ)), (∀ c ∈ cs.filter (!·.cancels k), c.Fits view P) →
      ∀ {t t' : Timeline Job σ}, t.Rests → t'.Rests → Alike view P k job t t' →
        Alike view P k job (Timeline.calls w t (cs.filter (!·.cancels k))) (Timeline.calls w t' cs) := by
    intro cs
    induction cs with
    | nil => exact fun _ _ _ _ _ h => h
    | cons c cs ih =>
      intro hcs t t' ht ht' h
      cases hc : c.cancels k with
      | true =>
        rw [List.filter_cons_of_neg (by simp [hc])] at hcs ⊢
        refine ih hcs ht (rests_call horderly ht' c) ?_
        cases c with
        | cancel i =>
          obtain rfl : i = k := by simpa [TaskCall.cancels] using hc
          exact ⟨h.agenda.cancel_task, h.host⟩
        | _ => cases hc
      | false =>
        rw [List.filter_cons_of_pos (by simp [hc])] at hcs ⊢
        exact ih (fun c' hc' => hcs c' (List.mem_cons_of_mem c hc')) (rests_call horderly ht c)
          (rests_call horderly ht' c) (h.call hw horderly hk ht ht' (hcs c List.mem_cons_self))
  have hkept : ∀ c ∈ cs.filter (!·.cancels k), c.Fits view P := fun c hc => hcs c (List.mem_filter.mp hc).1
  have hleft := hfilter cs hkept ht ht (h.trans h.symm)
  have hright := hfilter cs' (hsame.symm ▸ hkept) ht ht' h
  rw [hsame] at hright
  exact hleft.symm.trans hright

end Others

end Alike

end Timeline

end Liveness
