import Liveness.Proofs.Station.Counts

/-!
# Reconnect attempts, one at a time

A check of a timer calls for an attempt, which starts in the same instant and ends
later, at once or never.  `Flight` balances the attempts of one timer: as many have been
called for or are unfinished as its flag says, one or none, its number of attempts is
the number of those that connectors have begun, once all that were called for have, and those
that are not over are the ones that are unfinished on the agenda.  Each act
keeps these equations (`Station.flight_act`), since an unfinished attempt is an errand
that no one can cancel.
-/

namespace Liveness

namespace Agenda

/-- An attempt of a timer that has not ended. -/
def isUnfinished (k : TimerId) (e : Entry Job) : Bool := e.isLive && e.job.answers k

/-- How many attempts of a timer have started and have not ended. -/
def unfinished (a : Agenda Job) (k : TimerId) : Nat := a.entries.countP (isUnfinished k)

/-- How many attempts of a timer have been called for and have not started. -/
def called (a : Agenda Job) (k : TimerId) : Nat := a.errands.countP (Job.dials k)

variable {a b : Agenda Job} {i : EntryId} {e : Entry Job} {k : TimerId}

theorem unfinished_modify (he : a.entries[i]? = some e) (g : Entry Job → Entry Job) (k : TimerId) :
    (a.modify i g).unfinished k + (isUnfinished k e).toNat =
      a.unfinished k + (isUnfinished k (g e)).toNat := by
  have hi : i < a.entries.toList.length := (Array.getElem?_eq_some_iff.mp he).1
  obtain ⟨l₁, e', l₂, hl, hlen, hmodify⟩ := List.exists_of_modify g hi
  have he' : e' = e := by
    rw [← Array.getElem?_toList, hl, ← hlen, List.getElem?_append_right (Nat.le_refl _), Nat.sub_self,
      List.getElem?_cons_zero] at he
    exact Option.some.inj he
  subst he'
  simp only [unfinished, modify, ← Array.countP_toList, Array.toList_modify, hmodify]
  rw [hl]
  simp only [List.countP_append, List.countP_cons]
  cases isUnfinished k e' <;> cases isUnfinished k (g e') <;> simp <;> omega

/-- A change of an entry that is no attempt of a timer. -/
theorem unfinished_modify_of_not (he : ∀ e, a.entries[i]? = some e → e.job.answers k = false)
    {g : Entry Job → Entry Job} (hg : ∀ e : Entry Job, (g e).job = e.job) :
    (a.modify i g).unfinished k = a.unfinished k := by
  cases h : a.entries[i]? with
  | none =>
    have hsame : a.entries.modify i g = a.entries := by
      refine Array.toList_inj.mp ?_
      rw [Array.toList_modify, List.modify_eq_self]
      exact Array.getElem?_eq_none_iff.mp h
    rw [unfinished, modify, hsame]
    rfl
  | some e =>
    have hcount := unfinished_modify h g k
    simp only [isUnfinished, hg e, he e h, Bool.and_false, Bool.toNat_false, Nat.add_zero] at hcount
    exact hcount

theorem unfinished_cancel (he : ∀ e, a.entries[i]? = some e → e.job.answers k = false) :
    (a.cancel i).unfinished k = a.unfinished k :=
  unfinished_modify_of_not he fun _ => rfl

theorem unfinished_foldl_cancel {is : List EntryId}
    (his : ∀ i ∈ is, ∀ e, a.entries[i]? = some e → e.job.answers k = false) :
    (is.foldl cancel a).unfinished k = a.unfinished k := by
  induction is generalizing a with
  | nil => rfl
  | cons i is ih =>
    rw [List.foldl_cons, ih, unfinished_cancel (his i List.mem_cons_self)]
    intro j hj e' he'
    rw [getElem?_cancel] at he'
    obtain ⟨e, he, rfl⟩ := Option.map_eq_some_iff.mp he'
    have hjob := his j (List.mem_cons_of_mem i hj) e he
    split
    · exact hjob
    · exact hjob

theorem unfinished_add (a : Agenda Job) (e : Entry Job) (k : TimerId) :
    (a.add e).2.unfinished k = a.unfinished k + (isUnfinished k (a.enrol e)).toNat := by
  rw [add_eq, unfinished, Array.countP_push]
  cases isUnfinished k (a.enrol e) <;> rfl

/-- Callers neither start attempts nor end them. -/
theorem Grows.unfinished {taken : Job → Prop} {dropped : EntryId → Prop} (h : Grows taken dropped a b)
    (htaken : ∀ job, taken job → job.answers k = false)
    (hdropped : ∀ i e, dropped i → a.entries[i]? = some e → e.job.answers k = false) :
    b.unfinished k = a.unfinished k := by
  induction h with
  | refl => rfl
  | add e _ he _ ih =>
    rw [unfinished_add, ih, isUnfinished, job_enrol, htaken _ he, Bool.and_false]
    rfl
  | @cancel b i hb hi ih =>
    rw [unfinished_cancel, ih]
    intro e' he'
    rcases hb.new he' with ⟨e, he, hkept⟩ | ⟨-, he, -, -⟩
    · rw [hkept.job]
      exact hdropped i e hi he
    · exact htaken _ he

/-- An attempt that goes on is unfinished. -/
theorem unfinished_wait (hup : a.isShutdown = false) (job : Job) (delay : Option Span) (k : TimerId) :
    (a.wait job delay).unfinished k = a.unfinished k + (job.answers k).toNat := by
  have hlive : (a.errandEntry delay job).isLive := by
    cases delay <;> rfl
  rw [wait_eq, if_neg (Bool.eq_false_iff.mp hup), unfinished, Array.countP_push, isUnfinished, hlive]
  change _ + (if (job.answers k) = true then 1 else 0) = _
  cases job.answers k <;> rfl

end Agenda

/-! ## The equations -/

/-- As many attempts of a timer have been called for or are unfinished as its flag says, its number of
attempts counts those that have begun and those that have been called for, and those that have begun are over or
unfinished. -/
structure Flight (k : TimerId) (begun ended : Nat) (a : Agenda Job) (f : Floor) : Prop where
  inFlight : a.unfinished k + a.called k = (f.timer k).inFlight.toNat
  attempts : (f.timer k).attempts = begun + a.called k
  balance : a.unfinished k + ended = begun

/-- A floor whose timers say the same of their attempts. -/
def Floor.Steady (f f' : Floor) : Prop :=
  ∀ k, (f'.timer k).inFlight = (f.timer k).inFlight ∧ (f'.timer k).attempts = (f.timer k).attempts

theorem Floor.Steady.trans {f₁ f₂ f₃ : Floor} (h : f₁.Steady f₂) (h' : f₂.Steady f₃) : f₁.Steady f₃ :=
  fun k => ⟨(h' k).1.trans (h k).1, (h' k).2.trans (h k).2⟩

theorem Floor.Quiet.steady {f f' : Floor} (h : f.Quiet f') : f.Steady f' :=
  fun k => ⟨h.inFlight k, h.attempts k⟩

namespace Flight

variable {task : Option EntryId} {a b : Agenda Job} {f f' : Floor} {i : EntryId} {k : TimerId} {n m : Nat}

theorem steady (h : Flight k n m a f) (hf : f.Steady f') (hunfinished : b.unfinished k = a.unfinished k)
    (hcalled : b.called k = a.called k) : Flight k n m b f' where
  inFlight := by rw [hunfinished, hcalled, (hf k).1, h.inFlight]
  attempts := by rw [hcalled, (hf k).2, h.attempts]
  balance := by rw [hunfinished, h.balance]

/-- A timer's task is no attempt. -/
theorem answers_of_task {k' : TimerId} {e : Entry Job} (ht : Tended task a f)
    (htask : (f.timer k').task = some i) (he : a.entries[i]? = some e) : e.job.answers k = false := by
  obtain ⟨e', c, he', hjob⟩ := ht.tasks k' i htask
  obtain rfl := Option.some.inj (he.symm.trans he')
  rw [hjob]
  rfl

theorem unfinished_release (ht : Tended task a f) (k' : TimerId) :
    (a.fulfil { cancels := (f.release k').2 }).unfinished k = a.unfinished k := by
  rw [Agenda.fulfil_cancels]
  exact Agenda.unfinished_foldl_cancel fun i hi e he => answers_of_task ht (Floor.task_of_mem_release hi) he

/-- The end of an attempt, once it is not counted any more. -/
theorem release {k' : TimerId} (hcount : b.unfinished k + b.called k + (k' == k).toNat = (f.timer k).inFlight.toNat)
    (hattempts : (f.timer k).attempts = n + b.called k) (hbalance : b.unfinished k + m = n) :
    Flight k n m b (f.release k').1 := by
  obtain ⟨hflight, hsame, -⟩ := Floor.timer_release f k' k
  refine ⟨?_, hsame.trans hattempts, hbalance⟩
  rw [hflight]
  by_cases hk : k' = k
  · have hle : (f.timer k).inFlight.toNat ≤ 1 := Bool.toNat_le _
    simp only [hk, beq_self_eq_true, Bool.toNat_true, if_true, Bool.toNat_false] at hcount ⊢
    omega
  · rw [if_neg hk, ← hcount, beq_false_of_ne hk]
    rfl

/-- A run that is neither the start of an attempt nor its end. -/
theorem run {job : Job} (h : Flight k n m a f) (ht : Tended task a f) (hjob : f.Able job)
    (hdial : ∀ k c number, job ≠ .dial k c number)
    (hanswer : ∀ k c number attempt, job ≠ .answer k c number attempt) (runs : List Run) (now : Int) :
    Flight k n m (a.fulfil (Floor.run job runs now f).2) (Floor.run job runs now f).1 := by
  cases hof : job.isOfTimer with
  | false =>
    obtain ⟨hquiet, hcancels, herrands, hwaits⟩ := Floor.quiet_run hof runs now f
    rw [Agenda.fulfil_nothing a hcancels herrands hwaits]
    exact h.steady hquiet.steady rfl rfl
  | true =>
    cases job with
    | check k' c =>
      change Flight k n m (a.fulfil (f.check now k' c).2) (f.check now k' c).1
      have hasked : Flight k n m a (f.asked c) := h.steady (Floor.quiet_asked f c).steady rfl rfl
      rcases Floor.check_cases hjob.1 hjob.2 now with
        ⟨-, heq⟩ | ⟨-, -, heq⟩ | ⟨-, -, ⟨-, heq⟩ | ⟨i, htask, heq⟩⟩ | ⟨hfree, -, heq⟩
      · rw [heq, Agenda.fulfil_nothing a rfl rfl rfl]
        exact h
      · rw [heq, Agenda.fulfil_nothing a rfl rfl rfl]
        exact hasked
      · rw [heq, Agenda.fulfil_nothing a rfl rfl rfl]
        exact hasked
      · rw [heq, Agenda.fulfil_cancels]
        refine hasked.steady (fun k'' => ?_) (Agenda.unfinished_cancel fun e => answers_of_task ht htask) rfl
        change (((f.asked c).modifyTimer k' _).timer k'').inFlight = _ ∧
          (((f.asked c).modifyTimer k' _).timer k'').attempts = _
        rw [Floor.timer_modifyTimer]
        split
        · exact ⟨rfl, rfl⟩
        · exact ⟨rfl, rfl⟩
      · rw [heq, Agenda.fulfil_errands_only]
        have hcalled : (a.errands ++ [Job.dial k' c ((f.timer k').attempts + 1)]).countP (Job.dials k) =
            a.called k + (k' == k).toNat := by
          rw [List.countP_append, List.countP_singleton]
          change _ + (if (k' == k) = true then 1 else 0) = _
          cases k' == k <;> rfl
        have hflight := h.inFlight
        have hattempts := h.attempts
        have hthere : k' < (f.asked c).timers.size := hjob.1
        refine ⟨?_, ?_, h.balance⟩
        · change a.unfinished k + _ = _
          rw [Agenda.called, hcalled, Floor.timer_modifyTimer]
          by_cases hk : k' = k
          · subst hk
            rw [hfree] at hflight
            simp only [hthere, and_self, if_true, beq_self_eq_true]
            simp only [Bool.toNat_false, Bool.toNat_true] at hflight ⊢
            omega
          · rw [if_neg fun hc => hk hc.1, beq_false_of_ne hk]
            exact hflight
        · rw [Agenda.called, hcalled, Floor.timer_modifyTimer]
          by_cases hk : k' = k
          · subst hk
            simp only [hthere, and_self, if_true, beq_self_eq_true, Bool.toNat_true]
            omega
          · rw [if_neg fun hc => hk hc.1, beq_false_of_ne hk]
            exact hattempts
    | dial k' c number => exact absurd rfl (hdial k' c number)
    | answer k' c number attempt => exact absurd rfl (hanswer k' c number attempt)
    | sweep | report | traffic | silence | probe | note => cases hof

/-- An attempt begins that had been called for, and may be over at once. -/
theorem dial (h : Flight k n m a f) (ht : Tended task b f) (hup : b.isShutdown = false) {k' : TimerId}
    (hunfinished : b.unfinished k = a.unfinished k) (hcalled : a.called k = b.called k + (k' == k).toNat)
    (c : ConnectorId) (number : Nat) (now : Int) :
    Flight k (n + (k' == k).toNat) (m + (k' == k && (f.dial now k' c number).2.waits.isEmpty).toNat)
      (b.fulfil (f.dial now k' c number).2) (f.dial now k' c number).1 := by
  have hflight := h.inFlight
  have hattempts := h.attempts
  have hbalance := h.balance
  rw [hcalled] at hflight hattempts
  obtain ⟨f', hquiet, ⟨delay, attempt, heq⟩ | heq⟩ := Floor.dial_cases f now k' c number
  · rw [heq, Agenda.fulfil_wait]
    have herrands : (b.wait (.answer k' c number attempt) delay).errands = b.errands :=
      (Agenda.grows_wait _ _ delay).errands
    have hunfinished' :
        (b.wait (.answer k' c number attempt) delay).unfinished k = a.unfinished k + (k' == k).toNat := by
      rw [Agenda.unfinished_wait hup, hunfinished]
      rfl
    refine ⟨?_, ?_, ?_⟩
    · rw [hunfinished', Agenda.called, herrands, hquiet.inFlight]
      change a.unfinished k + (k' == k).toNat + b.called k = _
      omega
    · rw [Agenda.called, herrands, hquiet.attempts]
      change _ = _ + b.called k
      omega
    · rw [hunfinished', List.isEmpty_cons, Bool.and_false, Bool.toNat_false]
      omega
  · rw [heq]
    have hsame : (b.fulfil { cancels := (f'.release k').2 }).called k = b.called k := by
      rw [Agenda.called, Agenda.errands_fulfil, List.append_nil]
      rfl
    have hunfinished' : (b.fulfil { cancels := (f'.release k').2 }).unfinished k = a.unfinished k := by
      rw [unfinished_release (ht.keeps hquiet.toKeeps), hunfinished]
    refine release ?_ ?_ ?_
    · rw [hunfinished', hsame, hquiet.inFlight]
      omega
    · rw [hsame, hquiet.attempts]
      omega
    · rw [hunfinished', List.isEmpty_nil, Bool.and_true]
      omega

/-- An attempt is over whose end was on the agenda. -/
theorem finish (h : Flight k n m a f) (ht : Tended task a f) {e : Entry Job} (he : a.entries[i]? = some e)
    (hlive : e.isLive) {k' : TimerId} {c : ConnectorId} {number : Nat} {attempt : Attempt}
    (hjob : e.job = .answer k' c number attempt) :
    Flight k n (m + (k' == k).toNat) ((a.fulfil { cancels := (f.release k').2 }).modify i (·.restage .ended))
      (f.release k').1 := by
  have hkept : i ∉ (f.release k').2 := by
    intro hi
    have hanswers : e.job.answers k' = false := answers_of_task ht (Floor.task_of_mem_release hi) he
    rw [hjob] at hanswers
    exact absurd hanswers (by simp [Job.answers])
  obtain ⟨e', he', -, hsame, -⟩ := Agenda.kept_fulfil { cancels := (f.release k').2 } he
  obtain rfl := hsame hkept
  have hcount := Agenda.unfinished_modify he' (·.restage .ended) k
  have hbefore : Agenda.isUnfinished k e' = (k' == k) := by
    rw [Agenda.isUnfinished, hlive, hjob]
    rfl
  have hafter : Agenda.isUnfinished k (e'.restage .ended) = false := by
    rw [Agenda.isUnfinished, Entry.isLive_restage_ended, Bool.false_and]
  have hcalled : ((a.fulfil { cancels := (f.release k').2 }).modify i (·.restage .ended)).called k =
      a.called k := by
    rw [Agenda.called, Agenda.modify, Agenda.errands_fulfil, List.append_nil]
    rfl
  rw [hbefore, hafter, unfinished_release ht, Bool.toNat_false] at hcount
  have hbalance := h.balance
  refine release ?_ ?_ ?_
  · rw [hcalled, ← h.inFlight]
    omega
  · rw [hcalled]
    exact h.attempts
  · omega

end Flight

namespace Timeline

variable {task : Option EntryId} {t : Timeline Job Floor} {k : TimerId} {n m : Nat}

/-- An attempt is over, and its timer is not in flight any more. -/
theorem flight_answer (h : Flight k n m t.agenda t.host) (ht : Tended task t.agenda t.host) {i : EntryId}
    {e : Entry Job} {due : Int} (he : t.agenda.entries[i]? = some e) (hdue : e.due? = some due)
    {k' : TimerId} {c : ConnectorId} {number : Nat} {attempt : Attempt}
    (hjob : e.job = .answer k' c number attempt) :
    Flight k n (m + (k' == k).toNat) (wake Floor.worker t i).agenda (wake Floor.worker t i).host ∧
      ((wake Floor.worker t i).host.timer k').inFlight = false ∧
      Floor.Counts 0 1 t.host (wake Floor.worker t i).host := by
  have hlive : e.isLive := Entry.isLive_of_due? hdue
  have hplan : e.plan due t.agenda.now = ([due], .ended) := by
    rw [Entry.plan, ((ht.entries i e he).once k' c number attempt hjob).1]
  have hable : t.host.Able e.job := (ht.entries i e he).able
  rw [hjob] at hable
  have hcounts := Floor.counts_answer hable.2 t.agenda.now k' number attempt
  obtain ⟨f', hquiet, heq⟩ := Floor.answer_eq t.host t.agenda.now k' c number attempt
  rw [heq] at hcounts
  have hrun : Floor.worker.run e.job e.runs t.agenda.now t.host =
      ((f'.release k').1, { cancels := (f'.release k').2 }) := by
    rw [hjob]
    exact heq
  have hran : (t.agenda.modify i fun e' => e'.ran due t.agenda.now false).entries[i]? =
      some (e.ran due t.agenda.now false) := by
    rw [Agenda.modify, Array.getElem?_modify, if_pos rfl, he]
    rfl
  have hunfinished : (t.agenda.modify i fun e' => e'.ran due t.agenda.now false).unfinished k =
      t.agenda.unfinished k := by
    have hcount := Agenda.unfinished_modify he (fun e' => e'.ran due t.agenda.now false) k
    exact Nat.add_right_cancel hcount
  have ht' := (ht.modify i (fun e' => e'.later_ran due t.agenda.now false) fun e' =>
    Entry.isLive_of_ran).keeps hquiet.toKeeps
  rw [wake_of_due Floor.worker he hdue, hplan, List.foldl_cons, List.foldl_nil,
    runOnce_of_live Floor.worker he hlive, hrun]
  refine ⟨(h.steady hquiet.steady hunfinished rfl).finish ht' hran hlive hjob, ?_, hcounts⟩
  rw [(Floor.timer_release f' k' k').1, if_pos rfl]

/-- A run of work that is no attempt. -/
theorem flight_runOnce (h : Flight k n m t.agenda t.host) (ht : Tended task t.agenda t.host) {i : EntryId}
    {e : Entry Job} (he : t.agenda.entries[i]? = some e)
    (hanswer : ∀ k c number attempt, e.job ≠ .answer k c number attempt) (due : Int) :
    Flight k n m (runOnce Floor.worker i t due).agenda (runOnce Floor.worker i t due).host := by
  by_cases hlive : e.isLive
  · rw [runOnce_of_live Floor.worker he hlive]
    have hfits := ht.entries i e he
    have hnot : ∀ e', t.agenda.entries[i]? = some e' → e'.job.answers k = false := by
      intro e' he'
      obtain rfl := Option.some.inj (he.symm.trans he')
      exact Job.answers_of_not hanswer
    have hran := ht.modify i (fun e' => e'.later_ran due t.agenda.now
      (Floor.worker.run e.job e.runs t.agenda.now t.host).2.panicked) fun e' => Entry.isLive_of_ran
    have hsame : Flight k n m (t.agenda.modify i fun e' => e'.ran due t.agenda.now
        (Floor.worker.run e.job e.runs t.agenda.now t.host).2.panicked) t.host :=
      h.steady (fun _ => ⟨rfl, rfl⟩) (Agenda.unfinished_modify_of_not hnot fun _ => rfl) rfl
    exact hsame.run hran hfits.able hfits.begun hanswer e.runs t.agenda.now
  · rwa [runOnce_of_not_live]
    intro e' he'
    obtain rfl := Option.some.inj (he.symm.trans he')
    exact Bool.eq_false_iff.mpr hlive

theorem flight_runs (h : Flight k n m t.agenda t.host) (ht : Tended task t.agenda t.host) {i : EntryId}
    {e : Entry Job} (he : t.agenda.entries[i]? = some e)
    (hanswer : ∀ k c number attempt, e.job ≠ .answer k c number attempt) (dues : List Int) :
    Flight k n m (dues.foldl (runOnce Floor.worker i) t).agenda (dues.foldl (runOnce Floor.worker i) t).host := by
  induction dues generalizing t e with
  | nil => exact h
  | cons due dues ih =>
    obtain ⟨e', he', hlater⟩ := (goes_runOnce Floor.orderly_worker t i due).old i e he
    exact ih (flight_runOnce h ht he hanswer due) (tended_runOnce ht i due) he' (hlater.job ▸ hanswer)

/-- A check neither begins an attempt nor ends one. -/
theorem counts_runs_check (ht : Tended task t.agenda t.host) {i : EntryId} {e : Entry Job} {c : ConnectorId}
    (he : t.agenda.entries[i]? = some e) (hjob : e.job = .check k c) (dues : List Int) :
    Floor.Counts 0 0 t.host (dues.foldl (runOnce Floor.worker i) t).host := by
  induction dues generalizing t e with
  | nil => exact Floor.counts_of_connectors rfl
  | cons due dues ih =>
    have hable : t.host.Able e.job := (ht.entries i e he).able
    rw [hjob] at hable
    have hrun : Floor.Counts 0 0 t.host (runOnce Floor.worker i t due).host := by
      by_cases hlive : e.isLive
      · rw [runOnce_of_live Floor.worker he hlive, hjob]
        exact Floor.counts_check hable.1 hable.2 t.agenda.now
      · rw [runOnce_of_not_live]
        · exact Floor.counts_of_connectors rfl
        · intro e' he'
          obtain rfl := Option.some.inj (he.symm.trans he')
          exact Bool.eq_false_iff.mpr hlive
    obtain ⟨e', he', hlater⟩ := (goes_runOnce Floor.orderly_worker t i due).old i e he
    exact hrun.trans (ih (tended_runOnce ht i due) he' (hlater.job.trans hjob))

/-- Work wakes up; what connectors count by the way is added if the work is the timer's. -/
theorem flight_wake (h : Flight k n m t.agenda t.host) (ht : Tended task t.agenda t.host) (i : EntryId) :
    let own := (t.agenda.entries[i]?).any (·.job.timer? == some k)
    Flight k (n + Floor.growth Floor.calls own t.host (wake Floor.worker t i).host)
      (m + Floor.growth Floor.finished own t.host (wake Floor.worker t i).host) (wake Floor.worker t i).agenda
      (wake Floor.worker t i).host ∧
      (0 < Floor.growth Floor.finished own t.host (wake Floor.worker t i).host →
        ((wake Floor.worker t i).host.timer k).inFlight = false) := by
  intro own
  by_cases hwaits : ∃ due, t.Waits i due
  · obtain ⟨due, e, he, hdue⟩ := hwaits
    have hown : own = (e.job.timer? == some k) := by simp only [own, he, Option.any_some]
    by_cases hanswer : ∃ k c number attempt, e.job = .answer k c number attempt
    · obtain ⟨k', c, number, attempt, hjob⟩ := hanswer
      obtain ⟨hflight, hfree, hcounts⟩ := flight_answer h ht he hdue hjob
      have hown' : own = (k' == k) := by rw [hown, hjob]; rfl
      rw [hown']
      cases hk : k' == k with
      | true =>
        rw [hk] at hflight
        rw [hcounts.growth_calls, hcounts.growth_finished]
        exact ⟨hflight, fun _ => eq_of_beq hk ▸ hfree⟩
      | false =>
        rw [hk] at hflight
        exact ⟨hflight, nofun⟩
    · have hnot : ∀ k c number attempt, e.job ≠ .answer k c number attempt :=
        fun k c number attempt hjob => hanswer ⟨k, c, number, attempt, hjob⟩
      have hnone : Floor.growth Floor.calls own t.host (wake Floor.worker t i).host = 0 ∧
          Floor.growth Floor.finished own t.host (wake Floor.worker t i).host = 0 := by
        cases hk : own with
        | false => exact ⟨rfl, rfl⟩
        | true =>
          rcases Job.check_or_answer (ht.entries i e he).begun (eq_of_beq (hown.symm.trans hk)) with
            ⟨c, hjob⟩ | ⟨c, number, attempt, hjob⟩
          · have hcounts := counts_runs_check ht he hjob (e.plan due t.agenda.now).1
            rw [wake_of_due Floor.worker he hdue]
            exact ⟨hcounts.growth_calls, hcounts.growth_finished⟩
          · exact absurd hjob (hnot k c number attempt)
      rw [hnone.1, hnone.2, wake_of_due Floor.worker he hdue]
      refine ⟨?_, nofun⟩
      refine (flight_runs h ht he hnot _).steady (fun _ => ⟨rfl, rfl⟩) ?_ rfl
      refine Agenda.unfinished_modify_of_not (fun e' he' => ?_) fun _ => rfl
      obtain ⟨e'', he'', hlater⟩ := (goes_runs Floor.orderly_worker t i (e.plan due t.agenda.now).1).old i e he
      obtain rfl := Option.some.inj (he'.symm.trans he'')
      exact Job.answers_of_not (hlater.job ▸ hnot)
  · rw [wake_of_not_waits Floor.worker (not_exists.mp hwaits), Floor.growth_self, Floor.growth_self]
    exact ⟨h, nofun⟩

/-- The errand that was asked for first is an attempt that begins. -/
theorem flight_beginNext (h : Flight k n m t.agenda t.host) (ht : Tended task t.agenda t.host) :
    let own := t.agenda.errands.head?.any (·.timer? == some k)
    Flight k (n + Floor.growth Floor.calls own t.host (beginNext Floor.worker t).host)
      (m + Floor.growth Floor.finished own t.host (beginNext Floor.worker t).host) (beginNext Floor.worker t).agenda
      (beginNext Floor.worker t).host ∧
      (0 < Floor.growth Floor.finished own t.host (beginNext Floor.worker t).host →
        ((beginNext Floor.worker t).host.timer k).inFlight = false) := by
  intro own
  cases hjobs : t.agenda.errands with
  | nil =>
    simp only [beginNext, hjobs, Floor.growth_self]
    exact ⟨h, fun hlt => absurd hlt (Nat.lt_irrefl 0)⟩
  | cons job rest =>
    have hup : t.agenda.isShutdown = false := by
      refine Bool.eq_false_iff.mpr fun hdown => ?_
      rw [(ht.ended hdown).1] at hjobs
      cases hjobs
    have herrands := ht.errands
    rw [hjobs] at herrands
    obtain ⟨⟨k', c, number, rfl⟩, hable⟩ := herrands job List.mem_cons_self
    have hrest : Tended task { t.agenda with errands := rest } t.host :=
      ht.withErrands hup fun job' hmem => herrands job' (List.mem_cons_of_mem _ hmem)
    have hcalled : t.agenda.called k = ({ t.agenda with errands := rest } : Agenda Job).called k + (k' == k).toNat := by
      rw [Agenda.called, hjobs, List.countP_cons]
      change _ + (if (k' == k) = true then 1 else 0) = _
      cases k' == k <;> rfl
    have hbegun := h.dial hrest hup rfl hcalled c number t.agenda.now
    have hcounts := Floor.counts_dial hable.2 t.agenda.now k' number
    have hown : own = (k' == k) := by
      simp only [own, hjobs]
      rfl
    simp only [beginNext, hjobs, hown]
    cases hk : k' == k with
    | true =>
      rw [hk] at hbegun
      change Flight k (n + Floor.growth Floor.calls true t.host (t.host.dial t.agenda.now k' c number).1)
        (m + Floor.growth Floor.finished true t.host (t.host.dial t.agenda.now k' c number).1) _ _ ∧
        (0 < Floor.growth Floor.finished true t.host (t.host.dial t.agenda.now k' c number).1 →
          ((t.host.dial t.agenda.now k' c number).1.timer k).inFlight = false)
      rw [hcounts.growth_calls, hcounts.growth_finished]
      refine ⟨hbegun, fun hfinished => eq_of_beq hk ▸ Floor.inFlight_dial ?_⟩
      exact (Bool.eq_false_or_eq_true _).resolve_right fun hnot => by simp [hnot] at hfinished
    | false =>
      rw [hk] at hbegun
      exact ⟨hbegun, fun hlt => absurd hlt (Nat.lt_irrefl 0)⟩

/-- A shutdown that takes work away ends the attempts of its timers. -/
theorem timer_abandon (job : Job) (now : Int) (f : Floor) (k : TimerId) :
    ((Floor.abandon job now f).timer k).inFlight = ((f.timer k).inFlight && !job.answers k) ∧
      ((Floor.abandon job now f).timer k).attempts = (f.timer k).attempts := by
  obtain ⟨f', hquiet, ⟨heq, hnot⟩ | ⟨k', c, number, attempt, rfl, heq⟩⟩ := Floor.abandon_cases job now f
  · rw [heq, hquiet.inFlight, hquiet.attempts, Job.answers_of_not hnot, Bool.not_false, Bool.and_true]
    exact ⟨rfl, rfl⟩
  · obtain ⟨hflight, hattempts, -⟩ := Floor.timer_release f' k' k
    rw [heq, hflight, hattempts, hquiet.inFlight, hquiet.attempts]
    by_cases hk : k' = k
    · simp [hk, Job.answers]
    · simp [hk, Job.answers]

theorem timer_abandons (es : List (Entry Job)) (now : Int) (f : Floor) (k : TimerId) :
    ((es.foldl (fun f e => Floor.abandon e.job now f) f).timer k).inFlight =
        ((f.timer k).inFlight && !es.any fun e => e.job.answers k) ∧
      ((es.foldl (fun f e => Floor.abandon e.job now f) f).timer k).attempts = (f.timer k).attempts := by
  induction es generalizing f with
  | nil => simp
  | cons e es ih =>
    obtain ⟨hflight, hattempts⟩ := timer_abandon e.job now f k
    rw [List.foldl_cons, (ih _).1, (ih _).2, hflight, hattempts, List.any_cons, Bool.not_or, Bool.and_assoc]
    exact ⟨rfl, rfl⟩

theorem fits_of_mem (ht : Tended task t.agenda t.host) {e : Entry Job} (he : e ∈ t.agenda.entries.toList) :
    t.host.Fits e := by
  obtain ⟨i, hi, rfl⟩ := Array.getElem_of_mem (Array.mem_toList_iff.mp he)
  exact ht.entries i _ (Array.getElem?_eq_getElem hi)

/-- Of the attempts that a shutdown takes away, each is given up by its own connector. -/
theorem dropped_shutdown (ht : Tended task t.agenda t.host) (k : TimerId) :
    let taken := t.agenda.entries.toList.filter fun e => e.errand && e.isLive
    Floor.dropped Floor.calls k t.agenda.now t.host taken = 0 ∧
      Floor.dropped Floor.finished k t.agenda.now t.host taken = taken.countP (·.job.answers k) :=
  Floor.dropped_eq (fun _ he => (fits_of_mem ht (List.mem_filter.mp he).1).able) k t.agenda.now

/-- After a shutdown no timer is in flight, and the attempts that it took away are over. -/
theorem flight_shutdown (h : Flight k n m t.agenda t.host) (ht : Tended task t.agenda t.host)
    (herrands : t.agenda.errands = []) :
    let taken := t.agenda.entries.toList.filter fun e => e.errand && e.isLive
    Flight k (n + Floor.dropped Floor.calls k t.agenda.now t.host taken)
      (m + Floor.dropped Floor.finished k t.agenda.now t.host taken) (shutdown Floor.worker t).agenda
      (shutdown Floor.worker t).host ∧
      ((shutdown Floor.worker t).host.timer k).inFlight = false := by
  intro taken
  obtain ⟨hflight, hattempts⟩ := timer_abandons taken t.agenda.now t.host k
  have hcalled : t.agenda.called k = 0 := by rw [Agenda.called, herrands]; rfl
  have hcalled' : (shutdown Floor.worker t).agenda.called k = 0 := hcalled
  have hnone : (shutdown Floor.worker t).agenda.unfinished k = 0 := by
    refine Array.countP_eq_zero.mpr fun e he => ?_
    obtain ⟨e₀, -, rfl⟩ := Array.mem_map.mp he
    simp [Agenda.isUnfinished, Entry.isLive]
  -- an attempt that is unfinished is an errand, and is taken away
  have htaken : taken.countP (·.job.answers k) = t.agenda.unfinished k := by
    rw [Agenda.unfinished, ← Array.countP_toList, List.countP_filter]
    refine List.countP_congr fun e he => ?_
    have hfits := fits_of_mem ht he
    cases hjob : e.job with
    | answer k' c number attempt =>
      rw [Agenda.isUnfinished, hjob, (hfits.once k' c number attempt hjob).2, Bool.true_and, Bool.and_comm]
    | sweep | report | traffic | silence | check | dial | probe | note =>
      simp [Agenda.isUnfinished, hjob, Job.answers]
  obtain ⟨hdropped, hdropped'⟩ : Floor.dropped Floor.calls k t.agenda.now t.host taken = 0 ∧ _ := dropped_shutdown ht k
  rw [hdropped, hdropped', htaken]
  have hcount := h.inFlight
  rw [hcalled, Nat.add_zero] at hcount
  have hreleased : ((shutdown Floor.worker t).host.timer k).inFlight = false := by
    refine hflight.trans ?_
    cases hbefore : (t.host.timer k).inFlight with
    | false => rfl
    | true =>
      rw [hbefore, ← htaken] at hcount
      have hpos : 0 < taken.countP (·.job.answers k) := Nat.lt_of_lt_of_eq Nat.one_pos hcount.symm
      rw [Bool.true_and, Bool.not_eq_false', List.any_eq_true]
      exact List.countP_pos_iff.mp hpos
  refine ⟨⟨?_, ?_, ?_⟩, hreleased⟩
  · rw [hnone, hcalled', hreleased]
    rfl
  · rw [hcalled']
    exact hattempts.trans (h.attempts.trans (by rw [hcalled]))
  · rw [hnone, Nat.zero_add, Nat.add_comm m]
    exact h.balance

end Timeline

namespace Station

variable {s : Station} {k : TimerId} {n m : Nat}

/-! ## Deeds -/

theorem steady_modifyTimer (s : Station) (k : TimerId) {g : Timer → Timer}
    (hg : ∀ t, (g t).inFlight = t.inFlight ∧ (g t).attempts = t.attempts) :
    s.floor.Steady (s.modifyTimer k g).floor := by
  intro k'
  change ((s.floor.modifyTimer k g).timer k').inFlight = _ ∧ ((s.floor.modifyTimer k g).timer k').attempts = _
  rw [Floor.timer_modifyTimer]
  split
  · exact hg _
  · exact ⟨rfl, rfl⟩

theorem steady_stopTimer (s : Station) (k : TimerId) : s.floor.Steady (s.stopTimer k).2.floor := by
  unfold stopTimer
  split
  · exact fun _ => ⟨rfl, rfl⟩
  · exact steady_modifyTimer (s.cancel _) k fun _ => ⟨rfl, rfl⟩

/-- No deed changes what timers say of their attempts. -/
theorem steady_perform (s : Station) (d : Deed) : s.floor.Steady (s.perform d).floor := by
  cases d with
  | startSweeper =>
    simp only [perform, startSweeper, every_eq]
    split
    · exact fun _ => ⟨rfl, rfl⟩
    · split <;> exact fun _ => ⟨rfl, rfl⟩
  | stopSweeper =>
    simp only [perform, stopSweeper]
    split
    · exact fun _ => ⟨rfl, rfl⟩
    · split <;> exact fun _ => ⟨rfl, rfl⟩
  | setSweeper settings =>
    simp only [perform, setSweeper]
    cases settings.validate with
    | error e => exact fun _ => ⟨rfl, rfl⟩
    | ok u => cases s.isSweeping <;> exact fun _ => ⟨rfl, rfl⟩
  | every name touches panicsAt delay period =>
    simp only [perform, every_eq]
    exact fun _ => ⟨rfl, rfl⟩
  | cancel i =>
    simp only [perform]
    split <;> exact fun _ => ⟨rfl, rfl⟩
  | startReporter interval loads =>
    simp only [perform, startReporter, every_eq]
    exact fun _ => ⟨rfl, rfl⟩
  | startSimulation plan =>
    obtain ⟨hub, sim, -, -, heq⟩ := s.startSimulation_eq plan
    simp only [perform, heq]
    exact fun _ => ⟨rfl, rfl⟩
  | stopSimulation i =>
    simp only [perform, stopSimulation]
    split <;> exact fun _ => ⟨rfl, rfl⟩
  | addTimer settings =>
    simp only [perform]
    cases settings with
    | none => exact (Floor.quiet_addTimer s.floor rfl rfl rfl).steady
    | some settings => exact (Floor.quiet_addTimer s.floor rfl rfl rfl).steady
  | startTimer k c =>
    simp only [perform, startTimer, every_eq]
    split
    · split
      · exact fun _ => ⟨rfl, rfl⟩
      · split
        · exact fun _ => ⟨rfl, rfl⟩
        · exact steady_modifyTimer s k fun _ => ⟨rfl, rfl⟩
    · exact fun _ => ⟨rfl, rfl⟩
  | stopTimer k => exact steady_stopTimer s k
  | setAutoConnect k on =>
    simp only [perform, setAutoConnect]
    split
    · exact fun _ => ⟨rfl, rfl⟩
    · split
      · exact steady_modifyTimer s k fun _ => ⟨rfl, rfl⟩
      · refine Floor.Steady.trans ?_ (steady_stopTimer _ k)
        exact steady_modifyTimer s k fun _ => ⟨rfl, rfl⟩
  | setTimerPeriod k period =>
    simp only [perform, setTimerPeriod]
    split
    · exact fun _ => ⟨rfl, rfl⟩
    · exact steady_modifyTimer s k fun _ => ⟨rfl, rfl⟩
  | holdTimer k => exact steady_modifyTimer s k fun _ => ⟨rfl, rfl⟩
  | dropTimer k =>
    simp only [perform, dropTimer]
    split
    · refine Floor.Steady.trans ?_ (steady_stopTimer _ k)
      exact steady_modifyTimer s k fun _ => ⟨rfl, rfl⟩
    · exact steady_modifyTimer s k fun _ => ⟨rfl, rfl⟩
  | onHub | sweepNow | once | note | addConnector | setConnected => exact fun _ => ⟨rfl, rfl⟩

theorem answers_of_takes {d : Deed} {job : Job} (h : d.Takes job) : job.answers k = false := by
  refine Job.answers_of_not ?_
  rintro k' c number attempt rfl
  cases d with
  | startSweeper => exact nomatch h
  | every => exact nomatch h
  | once => exact nomatch h
  | startReporter => exact nomatch h
  | startSimulation => exact nomatch h
  | _ => cases h

/-- No deed cancels an attempt. -/
theorem answers_of_drops (h : s.IsTended) {d : Deed} {i : EntryId} {e : Entry Job} (hd : d.Drops s i)
    (he : s.agenda.entries[i]? = some e) : e.job.answers k = false := by
  cases d with
  | stopSweeper =>
    obtain ⟨e', limit, he', hjob⟩ := h.sweeper i hd
    obtain rfl := Option.some.inj (he.symm.trans he')
    rw [hjob]
    rfl
  | cancel j =>
    obtain ⟨rfl, hfree⟩ := hd
    refine Job.answers_of_not fun k' c number attempt hjob => ?_
    simp only [isFree, he, hjob] at hfree
    cases hfree
  | stopSimulation n =>
    obtain ⟨sim, hsim, hi⟩ := hd
    obtain ⟨⟨e₁, he₁, hjob₁⟩, e₂, he₂, hjob₂⟩ := h.simulations n sim hsim
    rcases hi with rfl | rfl
    · obtain rfl := Option.some.inj (he.symm.trans he₁)
      rw [hjob₁]
      rfl
    · obtain rfl := Option.some.inj (he.symm.trans he₂)
      rw [hjob₂]
      rfl
  | stopTimer k' => exact Flight.answers_of_task h hd he
  | setAutoConnect k' => exact Flight.answers_of_task h hd he
  | dropTimer k' => exact Flight.answers_of_task h hd he
  | _ => cases hd

theorem flight_perform (h : Flight k n m s.agenda s.floor) (ht : s.IsTended) (d : Deed) :
    Flight k n m (s.perform d).agenda (s.perform d).floor := by
  have hgrows := grows_perform s d
  refine h.steady (steady_perform s d) ?_ (by rw [Agenda.called, hgrows.errands]; rfl)
  exact hgrows.unfinished (fun job => answers_of_takes) fun i e => answers_of_drops ht

end Station

end Liveness
