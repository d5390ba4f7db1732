import Liveness.Proofs.Agenda.Turns

/-!
# The same work on two hosts

Where the work of an agenda asks two hosts for the same, what else sets the hosts apart
does not matter to the agenda.  So two timelines with the same agenda keep the same agenda
as time goes by, and whatever each run of the work keeps of their hosts is kept by all of
them: `Timeline.Twins.advance`, `Timeline.Twins.jump` and `Timeline.Twins.shutdown`.
-/

namespace Liveness

variable {Job σ : Type}

/-- Work of some kind asks two hosts for the same, which is work of that kind again, and keeps the hosts as they
stand to each other. -/
structure Worker.Keeps (w : Worker Job σ) (P : Job → Prop) (R : σ → σ → Prop) : Prop where
  request : ∀ job runs now x x', P job → R x x' → (w.run job runs now x').2 = (w.run job runs now x).2
  errands : ∀ job runs now x, P job → ∀ job' ∈ (w.run job runs now x).2.errands, P job'
  waits : ∀ job runs now x, P job → ∀ wait ∈ (w.run job runs now x).2.waits, P wait.2
  host : ∀ job runs now x x', P job → R x x' → R (w.run job runs now x).1 (w.run job runs now x').1
  abandon : ∀ job now x x', P job → R x x' → R (w.abandon job now x) (w.abandon job now x')

namespace Timeline

/-- Two timelines with one agenda, which holds work of some kind only. -/
structure Twins (P : Job → Prop) (R : σ → σ → Prop) (t t' : Timeline Job σ) : Prop where
  agenda : t'.agenda = t.agenda
  jobs : ∀ (i : EntryId) e, t.agenda.entries[i]? = some e → P e.job
  errands : ∀ job ∈ t.agenda.errands, P job
  host : R t.host t'.host

namespace Twins

variable {w : Worker Job σ} {P : Job → Prop} {R : σ → σ → Prop} {t t' : Timeline Job σ}

/-- An entry changes, but not its job. -/
theorem modify (ht : Twins P R t t') (i : EntryId) {g : Entry Job → Entry Job} (hg : ∀ e, (g e).job = e.job) :
    Twins P R { t with agenda := t.agenda.modify i g } { t' with agenda := t'.agenda.modify i g } where
  agenda := by rw [ht.agenda]
  jobs := by
    intro j e he
    rw [Agenda.modify, Array.getElem?_modify] at he
    split at he
    · obtain ⟨e₀, he₀, rfl⟩ := Option.map_eq_some_iff.mp he
      rw [hg]
      exact ht.jobs j e₀ he₀
    · exact ht.jobs j e he
  errands := ht.errands
  host := ht.host

theorem setNow (ht : Twins P R t t') (now : Int) : Twins P R (t.setNow now) (t'.setNow now) where
  agenda := congrArg (fun a : Agenda Job => { a with now }) ht.agenda
  jobs := ht.jobs
  errands := ht.errands
  host := ht.host

theorem comeTo (ht : Twins P R t t') (milli : Int) : Twins P R (t.comeTo milli) (t'.comeTo milli) := by
  unfold Timeline.comeTo
  rw [ht.agenda]
  exact ht.setNow _

/-- Both fulfil what a run of the work asks for. -/
theorem fulfil (hw : w.Keeps P R) (ht : Twins P R t t') {job : Job} (hjob : P job) (runs : List Run) (now : Int) :
    Twins P R ⟨t.agenda.fulfil (w.run job runs now t.host).2, (w.run job runs now t.host).1⟩
      ⟨t'.agenda.fulfil (w.run job runs now t'.host).2, (w.run job runs now t'.host).1⟩ where
  agenda := by rw [ht.agenda, hw.request job runs now _ _ hjob ht.host]
  jobs := by
    intro i e he
    rcases Agenda.of_getElem?_fulfil he with ⟨e₀, he₀, hkept⟩ | ⟨-, -, wait, hwait, rfl⟩
    · rw [hkept.job]
      exact ht.jobs i e₀ he₀
    · exact hw.waits job runs now _ hjob wait hwait
  errands := by
    intro job' hjob'
    rw [Agenda.errands_fulfil] at hjob'
    rcases List.mem_append.mp hjob' with hjob' | hjob'
    · exact ht.errands job' hjob'
    · exact hw.errands job runs now _ hjob job' hjob'
  host := hw.host job runs now _ _ hjob ht.host

theorem runOnce (hw : w.Keeps P R) (ht : Twins P R t t') (i : EntryId) (due : Int) :
    Twins P R (runOnce w i t due) (runOnce w i t' due) := by
  by_cases hlive : ∃ e, t.agenda.entries[i]? = some e ∧ e.isLive
  · obtain ⟨e, he, hlive⟩ := hlive
    have hjob : P e.job := ht.jobs i e he
    have he' : t'.agenda.entries[i]? = some e := by rwa [ht.agenda]
    rw [runOnce_of_live w he hlive, runOnce_of_live w he' hlive, hw.request _ _ _ _ _ hjob ht.host, ht.agenda]
    have hran := (ht.modify i (g := fun e' => e'.ran due t.agenda.now
      (w.run e.job e.runs t.agenda.now t.host).2.panicked) fun _ => rfl).fulfil hw hjob e.runs t.agenda.now
    rw [ht.agenda, hw.request _ _ _ _ _ hjob ht.host] at hran
    exact hran
  · have hidle : ∀ e, t.agenda.entries[i]? = some e → e.isLive = false := fun e he =>
      Bool.eq_false_iff.mpr fun hl => hlive ⟨e, he, hl⟩
    rwa [runOnce_of_not_live w hidle, runOnce_of_not_live w (ht.agenda.symm ▸ hidle)]

theorem foldl {α : Type} {f : Timeline Job σ → α → Timeline Job σ} (xs : List α)
    (hf : ∀ {t t'}, ∀ x ∈ xs, Twins P R t t' → Twins P R (f t x) (f t' x)) (ht : Twins P R t t') :
    Twins P R (xs.foldl f t) (xs.foldl f t') := by
  induction xs generalizing t t' with
  | nil => exact ht
  | cons x xs ih =>
    exact ih (fun x' hx' => hf x' (List.mem_cons_of_mem x hx')) (hf x List.mem_cons_self ht)

theorem wake (hw : w.Keeps P R) (ht : Twins P R t t') (i : EntryId) : Twins P R (wake w t i) (wake w t' i) := by
  by_cases hdue : ∃ e due, t.agenda.entries[i]? = some e ∧ e.due? = some due
  · obtain ⟨e, due, he, hdue⟩ := hdue
    have he' : t'.agenda.entries[i]? = some e := by rwa [ht.agenda]
    rw [wake_of_due w he hdue, wake_of_due w he' hdue, ht.agenda]
    exact (ht.foldl _ fun due _ ht => ht.runOnce hw i due).modify i fun _ => rfl
  · have hidle : ∀ due, ¬t.Waits i due := fun due ⟨e, he, hd⟩ => hdue ⟨e, due, he, hd⟩
    have hidle' : ∀ due, ¬t'.Waits i due := by
      rintro due ⟨e, he, hd⟩
      rw [ht.agenda] at he
      exact hidle due ⟨e, he, hd⟩
    rwa [wake_of_not_waits w hidle, wake_of_not_waits w hidle']

theorem beginErrands (hw : w.Keeps P R) (ht : Twins P R t t') : Twins P R (beginErrands w t) (beginErrands w t') := by
  have hbegun : Twins P R { t with agenda := { t.agenda with errands := [] } }
      { t' with agenda := { t'.agenda with errands := [] } } :=
    ⟨by rw [ht.agenda], ht.jobs, nofun, ht.host⟩
  unfold Timeline.beginErrands
  dsimp only
  rw [ht.agenda] at hbegun ⊢
  refine hbegun.foldl _ fun {t t'} job hjob ht' => ?_
  have hboth := ht'.fulfil hw (ht.errands job hjob) [] t.agenda.now
  unfold Timeline.begin
  dsimp only
  rw [ht'.agenda] at hboth ⊢
  exact hboth

theorem settle (hw : w.Keeps P R) (ht : Twins P R t t') : Twins P R (settle w t) (settle w t') := by
  unfold Timeline.settle
  rw [ht.agenda]
  exact (ht.foldl _ fun i _ ht => ht.wake hw i).beginErrands hw

theorem advanceTo (hw : w.Keeps P R) (stop : Int) (n : Nat) (ht : Twins P R t t') :
    Twins P R (advanceTo w stop n t) (advanceTo w stop n t') := by
  induction n generalizing t t' with
  | zero => exact ht.comeTo stop
  | succ n ih =>
    have hsettled : Twins P R (Timeline.settle w t) (Timeline.settle w t') := ht.settle hw
    simp only [Timeline.advanceTo]
    rw [hsettled.agenda]
    split
    · split
      · exact ih (hsettled.comeTo _)
      · exact hsettled.comeTo stop
    · exact hsettled.comeTo stop

/-- Time goes by for both alike. -/
theorem advance (hw : w.Keeps P R) (amount : Span) (ht : Twins P R t t') :
    Twins P R (advance w amount t) (advance w amount t') := by
  unfold Timeline.advance
  rw [ht.agenda]
  exact ht.advanceTo hw _ _

theorem jump (hw : w.Keeps P R) (amount : Span) (ht : Twins P R t t') :
    Twins P R (jump w amount t) (jump w amount t') := by
  have hsettled : Twins P R (Timeline.settle w t) (Timeline.settle w t') := ht.settle hw
  unfold Timeline.jump
  dsimp only
  rw [hsettled.agenda]
  exact (hsettled.setNow _).settle hw

theorem shutdown (hw : w.Keeps P R) (ht : Twins P R t t') : Twins P R (shutdown w t) (shutdown w t') where
  agenda := by
    unfold Timeline.shutdown
    rw [ht.agenda]
  jobs := by
    intro i e he
    simp only [Timeline.shutdown, Array.getElem?_map] at he
    obtain ⟨e₀, he₀, rfl⟩ := Option.map_eq_some_iff.mp he
    exact ht.jobs i e₀ he₀
  errands := ht.errands
  host := by
    simp only [Timeline.shutdown, ht.agenda]
    have hjobs : ∀ e ∈ t.agenda.entries.toList.filter fun e => e.errand && e.isLive, P e.job := by
      intro e he
      obtain ⟨i, hi⟩ := List.getElem?_of_mem (List.mem_filter.mp he).1
      exact ht.jobs i e (by rwa [Array.getElem?_toList] at hi)
    have hhost := ht.host
    generalize t.host = x at hhost ⊢
    generalize t'.host = x' at hhost ⊢
    generalize (t.agenda.entries.toList.filter fun e => e.errand && e.isLive) = es at hjobs ⊢
    induction es generalizing x x' with
    | nil => exact hhost
    | cons e es ih =>
      exact ih _ _ (hw.abandon _ _ _ _ (hjobs e List.mem_cons_self) hhost)
        fun e' he' => hjobs e' (List.mem_cons_of_mem e he')

end Twins

end Timeline

end Liveness
