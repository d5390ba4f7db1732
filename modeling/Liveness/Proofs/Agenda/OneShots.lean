import Liveness.Proofs.Agenda.Tasks
import Mathlib.Data.List.Nodup

/-!
# Tasks that are done once

When due work is done depends on the calls alone: at once where they settle, and after
every millisecond on the way of an advance (`TaskCall.rounds`).  A task that is to
be done once runs in the first of these rounds that is not before its due instant, or
never if it is cancelled before: `Timeline.shot_calls`.
-/

namespace Liveness

variable {Job σ : Type}

/-! ## Rounds -/

namespace TaskCall

/-- The instant at which the clock stands after a call. -/
def stop (now : Int) : TaskCall Job σ → Int
  | .advance amount => Instant.arrive (Cadence.stop amount now) now
  | .jump amount => amount.after now
  | _ => now

/-- The instants at which due work is done in a call. -/
def rounds (now : Int) : TaskCall Job σ → List Int
  | .settle | .shutdown => [now]
  | .advance amount =>
    now :: (List.range (Timeline.ticks now (Cadence.stop amount now))).map fun (k : Nat) =>
      now + ((k + 1 : Nat) : Int) * 1000000
  | .jump amount => [now, amount.after now]
  | _ => []

/-- The instants at which due work is done in the course of some calls. -/
def allRounds : Int → List (TaskCall Job σ) → List Int
  | _, [] => []
  | now, c :: cs => c.rounds now ++ allRounds (c.stop now) cs

/-- A call, or its beginning. -/
inductive Within : TaskCall Job σ → TaskCall Job σ → Prop
  | whole (c : TaskCall Job σ) : Within c c
  | settle_advance (amount : Span) : Within .settle (.advance amount)
  | advance {part amount : Span} (h : part.nanos ≤ amount.nanos) : Within (.advance part) (.advance amount)
  | settle_jump (amount : Span) : Within .settle (.jump amount)

/-- Some calls without the rest that comes after them, of which the last one may be cut short too. -/
inductive Cut : List (TaskCall Job σ) → List (TaskCall Job σ) → Prop
  | cut (before : List (TaskCall Job σ)) {part c : TaskCall Job σ} (h : part.Within c) (after : List (TaskCall Job σ)) :
    Cut (before ++ [part]) (before ++ c :: after)

end TaskCall

namespace Timeline

variable {w : Worker Job σ} {passed : Timeline Job σ → Prop} {start t t' : Timeline Job σ} {i : EntryId}
  {e : Entry Job} {due : Int} {past : List Int}

/-! ## One task -/

/-- A task has been left alone, but that it may have been cancelled. -/
def KeepsAt (i : EntryId) (t t' : Timeline Job σ) : Prop :=
  ∀ e, t.agenda.entries[i]? = some e → ∃ e', t'.agenda.entries[i]? = some e' ∧ e.Kept e'

theorem KeepsAt.refl (i : EntryId) (t : Timeline Job σ) : KeepsAt i t t := fun e he => ⟨e, he, .refl e⟩

theorem KeepsAt.trans {t₁ t₂ t₃ : Timeline Job σ} (h : KeepsAt i t₁ t₂) (h' : KeepsAt i t₂ t₃) : KeepsAt i t₁ t₃ := by
  intro e he
  obtain ⟨e₁, he₁, hkept₁⟩ := h e he
  obtain ⟨e₂, he₂, hkept₂⟩ := h' e₁ he₁
  exact ⟨e₂, he₂, hkept₁.trans hkept₂⟩

/-- A task that is to be done once, after rounds at some instants: it waits, it was cancelled before it could run, or
it ran in the first round that was not before its due instant. -/
inductive Shot (passed : Timeline Job σ → Prop) (i : EntryId) (due : Int) (past : List Int) (t : Timeline Job σ) : Prop
  | waits {e : Entry Job} (entry : t.agenda.entries[i]? = some e) (period : e.period = none)
    (due_eq : e.due? = some due) (runs : e.runs = []) (early : ∀ m ∈ past, Cadence.isReady due m = false)
  /-- On the way it had been cancelled when the clock stood no later than in the rounds in which it would have run. -/
  | dropped {t₁ : Timeline Job σ} (passed : passed t₁) (clock : t₁.agenda.now ≤ t.agenda.now)
    (first : ∀ m ∈ past, Cadence.isReady due m → t₁.agenda.now ≤ m) (before : t₁.Dropped i []) (now : t.Dropped i [])
  | ran {m : Int} (ended : t.Over i [⟨due, m⟩]) (first : past.find? (Cadence.isReady due) = some m)

namespace Shot

/-- Nothing happens to it, but that it may be cancelled. -/
theorem kept (h : Shot passed i due past t) (hpassed : passed t') (hbeats : Beats w t t')
    (hclock : t.agenda.now ≤ t'.agenda.now) (hkept : KeepsAt i t t') : Shot passed i due past t' := by
  cases h with
  | waits entry period due_eq runs early =>
    obtain ⟨e', he', rfl | rfl⟩ := hkept _ entry
    · exact .waits he' period due_eq runs early
    · refine .dropped hpassed (Int.le_refl _) (fun m hm hready => ?_) ⟨_, he', rfl, runs⟩ ⟨_, he', rfl, runs⟩
      rw [early m hm] at hready
      cases hready
  | dropped passed clock first before now =>
    exact .dropped passed (Int.le_trans clock hclock) first before (dropped_of_beats now hbeats)
  | ran ended first => exact .ran (over_of_beats ended hbeats) first

/-- A round for which it does not wait. -/
theorem pass (h : Shot passed i due past t)
    (hearly : ∀ due, t.Waits i due → Cadence.isReady due t.agenda.now = false) :
    Shot passed i due (past ++ [t.agenda.now]) t := by
  cases h with
  | waits entry period due_eq runs early =>
    refine .waits entry period due_eq runs fun m hm => ?_
    rcases List.mem_append.mp hm with hm | hm
    · exact early m hm
    · rw [List.mem_singleton.mp hm]
      exact hearly due ⟨_, entry, due_eq⟩
  | dropped passed clock first before now =>
    refine .dropped passed clock (fun m hm hready => ?_) before now
    rcases List.mem_append.mp hm with hm | hm
    · exact first m hm hready
    · rw [List.mem_singleton.mp hm]
      exact clock
  | ran ended first => exact .ran ended (by rw [List.find?_append, first]; rfl)

/-- It is cancelled in a round before its turn comes. -/
theorem miss (hpassed : passed t) (hdropped : t.Dropped i []) (hearly : ∀ m ∈ past, Cadence.isReady due m = false) :
    Shot passed i due (past ++ [t.agenda.now]) t := by
  refine .dropped hpassed (Int.le_refl _) (fun m hm hready => ?_) hdropped hdropped
  rcases List.mem_append.mp hm with hm | hm
  · rw [hearly m hm] at hready
    cases hready
  · exact Int.le_of_eq (List.mem_singleton.mp hm).symm

/-- The clock moves on. -/
theorem setNow (h : Shot passed i due past t) {now : Int} (hnow : t.agenda.now ≤ now) :
    Shot passed i due past (t.setNow now) := by
  cases h with
  | waits entry period due_eq runs early => exact .waits entry period due_eq runs early
  | dropped passed clock first before dropped => exact .dropped passed (Int.le_trans clock hnow) first before dropped
  | ran ended first => exact .ran ended first

/-- What is known of its runs. -/
theorem spec (h : Shot passed i due past t) :
    (∃ e, t.agenda.entries[i]? = some e ∧ e.runs = ((past.find? (Cadence.isReady due)).map (Run.mk due)).toList) ∨
      t.Dropped i [] ∧
        ∃ t₁, passed t₁ ∧ t₁.Dropped i [] ∧ ∀ m ∈ past, Cadence.isReady due m → t₁.agenda.now ≤ m := by
  cases h with
  | waits entry period due_eq runs early =>
    have hnone : past.find? (Cadence.isReady due) = none :=
      List.find?_eq_none.mpr fun m hm => by rw [early m hm]; exact Bool.false_ne_true
    exact .inl ⟨_, entry, by rw [runs, hnone]; rfl⟩
  | dropped passed clock first before now => exact .inr ⟨now, _, passed, before, first⟩
  | ran ended first =>
    obtain ⟨e, he, -, hruns⟩ := ended
    exact .inl ⟨e, he, by rw [hruns, first]; rfl⟩

end Shot

/-! ## Rounds on a timeline -/

theorem keepsAt_wakes {is : List EntryId} (hi : i ∉ is) : KeepsAt i t (is.foldl (wake w) t) :=
  is.foldlRecOn (wake w) (motive := KeepsAt i t) (.refl i t) fun _ h _ hj =>
    h.trans fun _ he => kept_wake he fun heq => hi (heq ▸ hj)

theorem keepsAt_beginErrands : KeepsAt i t (beginErrands w t) := by
  refine List.foldlRecOn (motive := KeepsAt i t) _ (begin w) (fun e he => ⟨e, he, .refl e⟩) fun t₁ h job _ => ?_
  refine h.trans fun e he => ?_
  obtain ⟨e', he', hkept, -⟩ := Agenda.kept_fulfil (w.run job [] t₁.agenda.now t₁.host).2 he
  exact ⟨e', he', hkept⟩

theorem now_wakes (is : List EntryId) (t : Timeline Job σ) : (is.foldl (wake w) t).agenda.now = t.agenda.now :=
  is.foldlRecOn (wake w) (motive := fun t' => t'.agenda.now = t.agenda.now) rfl fun _ h _ _ =>
    wake_induction w (P := fun t' => t'.agenda.now = t.agenda.now) (fun _ due h => (now_runOnce due).trans h)
      (fun _ _ h => h) h

/-- A task that is done once has had its run when it has woken up. -/
theorem wake_once (he : t.agenda.entries[i]? = some e) (hperiod : e.period = none) (hdue : e.due? = some due) :
    ∃ e', (wake w t i).agenda.entries[i]? = some e' ∧ e'.isLive = false ∧ e'.runs = ⟨due, t.agenda.now⟩ :: e.runs := by
  have hplan : e.plan due t.agenda.now = ([due], .ended) := by rw [Entry.plan, hperiod]
  obtain ⟨e', he', hkept⟩ := kept_runOnce_of_live (w := w) he (Entry.isLive_of_due? hdue) due
  rw [wake_of_due w he hdue, hplan]
  refine ⟨e'.restage .ended, ?_, e'.isLive_restage_ended, hkept.still.runs⟩
  simp only [List.foldl_cons, List.foldl_nil, Agenda.modify, Array.getElem?_modify, if_true, he', Option.map_some]

theorem now_beginErrands (t : Timeline Job σ) : (beginErrands w t).agenda.now = t.agenda.now := by
  refine List.foldlRecOn (motive := fun t' => t'.agenda.now = t.agenda.now) _ (begin w) ?_ fun _ h _ _ => ?_
  · rfl
  · exact (Agenda.now_fulfil _ _).trans h

theorem now_settle (t : Timeline Job σ) : (settle w t).agenda.now = t.agenda.now :=
  (now_beginErrands _).trans (now_wakes _ t)

/-- A round. -/
theorem shot_settle (h : Shot passed i due past t) (hpassed : passed (settle w t)) :
    Shot passed i due (past ++ [t.agenda.now]) (settle w t) := by
  by_cases hi : i ∈ t.agenda.ready
  · obtain ⟨e, due', he, hdue, hready⟩ := Agenda.mem_ready.mp hi
    cases h with
    | waits entry period due_eq runs early =>
      obtain rfl := Option.some.inj (entry.symm.trans he)
      obtain rfl : due = due' := Option.some.inj (due_eq.symm.trans hdue)
      obtain ⟨pre, post, hsplit⟩ := List.append_of_mem hi
      have hpre : i ∉ pre := by
        have hnodup := t.agenda.nodup_ready
        rw [hsplit, List.nodup_middle, List.nodup_cons, List.mem_append, not_or] at hnodup
        exact hnodup.1.1
      have hrest : Beats w (wake w (pre.foldl (wake w) t) i) (settle w t) := by
        rw [settle, hsplit, List.foldl_append, List.foldl_cons]
        exact (beats_foldl w (beats_wake w) post _).trans (beats_beginErrands w _)
      -- others may cancel it before its turn comes
      obtain ⟨e₁, he₁, rfl | rfl⟩ := keepsAt_wakes (w := w) hpre _ he
      · obtain ⟨e₂, he₂, hover, hruns⟩ := wake_once (w := w) he₁ period hdue
        rw [runs, now_wakes] at hruns
        refine .ran (over_of_beats ⟨e₂, he₂, hover, hruns⟩ hrest) ?_
        rw [List.find?_append, List.find?_eq_none.mpr fun m hm => by rw [early m hm]; exact Bool.false_ne_true,
          Option.none_or, List.find?_cons_of_pos hready]
      · rw [← now_settle (w := w) t]
        exact .miss hpassed (dropped_of_beats ⟨_, he₁, rfl, runs⟩ ((beats_wake w _ i).trans hrest)) early
    | dropped passed clock first before now =>
      obtain ⟨e', he', hcancelled, -⟩ := now
      obtain rfl := Option.some.inj (he'.symm.trans he)
      simp [(Entry.due?_eq_some.mp hdue).1] at hcancelled
    | ran ended first =>
      obtain ⟨e', he', hover, -⟩ := ended
      obtain rfl := Option.some.inj (he'.symm.trans he)
      exact absurd (Entry.isLive_of_due? hdue) (Bool.eq_false_iff.mp hover)
  · have hnow : t.agenda.now ≤ (settle w t).agenda.now := Int.le_of_eq (now_settle t).symm
    have hkept : KeepsAt i t (settle w t) := (keepsAt_wakes hi).trans keepsAt_beginErrands
    refine (h.pass fun due' hdue' => ?_).kept hpassed (beats_settle w t) hnow hkept
    obtain ⟨e', he', hdue'⟩ := hdue'
    rw [← Bool.not_eq_true]
    exact fun hready => hi (Agenda.mem_ready.mpr ⟨e', due', he', hdue', hready⟩)

theorem now_iterate_tick (n : Nat) (t : Timeline Job σ) :
    ((tick w)^[n] t).agenda.now = t.agenda.now + (n : Int) * 1000000 := by
  induction n with
  | zero => simp
  | succ n ih =>
    rw [Function.iterate_succ_apply', tick, now_settle]
    change ((tick w)^[n] t).agenda.now + 1000000 = _
    rw [ih]
    omega

theorem shot_ticks (n : Nat) (h : Shot passed i due past t) (hpassed : ∀ k < n, passed ((tick w)^[k + 1] t)) :
    Shot passed i due (past ++ (List.range n).map fun (k : Nat) =>
      t.agenda.now + ((k + 1 : Nat) : Int) * 1000000) ((tick w)^[n] t) := by
  induction n with
  | zero => simpa using h
  | succ n ih =>
    have hn : Shot passed i due _ ((tick w)^[n] t) := ih fun k hk => hpassed k (Nat.lt_succ_of_lt hk)
    have hnow : ((tick w)^[n] t).agenda.now + 1000000 = t.agenda.now + ((n + 1 : Nat) : Int) * 1000000 := by
      rw [now_iterate_tick]
      omega
    have hmoved : Shot passed i due _ (((tick w)^[n] t).setNow (((tick w)^[n] t).agenda.now + 1000000)) :=
      hn.setNow (by omega)
    have htick := hpassed n (Nat.lt_succ_self n)
    rw [Function.iterate_succ_apply', tick] at htick ⊢
    have hsettled := shot_settle hmoved htick
    rw [List.range_succ, List.map_append, ← List.append_assoc]
    rw [hnow] at hsettled ⊢
    exact hsettled

/-! ## Calls -/

variable (hw : w.Orderly)
include hw

theorem now_call (ht : t.Rests) (c : TaskCall Job σ) : (call w t c).agenda.now = c.stop t.agenda.now := by
  cases c with
  | advance amount => exact (advance_spec hw ht amount).2.2.2
  | jump amount =>
    change (settle w ((settle w t).setNow _)).agenda.now = _
    rw [now_settle]
    change amount.after (settle w t).agenda.now = _
    rw [now_settle]
    rfl
  | settle => exact now_settle t
  | shutdown => exact now_settle _
  | every | once | cancel | meanwhile => rfl

/-- An advance, or its beginning, to a tick on the way. -/
theorem advance_to_tick (ht : t.Rests) (amount : Span) {k : Nat}
    (hk : k < ticks t.agenda.now (Cadence.stop amount t.agenda.now)) :
    ∃ part, (TaskCall.advance part : TaskCall Job σ).Within (.advance amount) ∧
      advance w part t = (tick w)^[k + 1] (settle w t) := by
  rcases Nat.lt_or_eq_of_le (Nat.succ_le_of_lt hk) with hbefore | hlast
  · let part := Span.between t.agenda.now (Instant.floorMilli t.agenda.now + ((k + 1 : Nat) : Int) * 1000000)
    have hpart : part.after t.agenda.now = Instant.floorMilli t.agenda.now + ((k + 1 : Nat) : Int) * 1000000 := by
      simp only [part, Span.after, Span.nanos_between]
      unfold Instant.floorMilli
      omega
    have hreach : part.after t.agenda.now < Cadence.within t.agenda.now (amount.after t.agenda.now) := by
      rw [hpart]
      unfold ticks Cadence.stop Instant.ceilMilli Instant.floorMilli at *
      omega
    obtain ⟨hamount, hlongest⟩ := Int.lt_min.mp hreach
    have hticks : ticks t.agenda.now (Cadence.stop part t.agenda.now) = k + 1 := by
      rw [Cadence.stop, Cadence.within, Int.min_eq_left (Int.le_of_lt hlongest), hpart]
      unfold ticks Instant.ceilMilli Instant.floorMilli
      omega
    refine ⟨part, .advance ?_, by rw [advance_eq_ticks hw ht, hticks]⟩
    simp only [Span.after] at hamount
    omega
  · exact ⟨amount, .whole _, by rw [advance_eq_ticks hw ht, ← hlast]⟩

theorem shot_advance (ht : t.Rests) (h : Shot passed i due past t) (amount : Span)
    (hpassed : ∀ part, TaskCall.Within part (.advance amount) → passed (call w t part)) :
    Shot passed i due (past ++ (TaskCall.advance amount : TaskCall Job σ).rounds t.agenda.now)
      (advance w amount t) := by
  have hsettled : Shot passed i due (past ++ [t.agenda.now]) (settle w t) :=
    shot_settle h (hpassed _ (.settle_advance amount))
  have hticks := shot_ticks (ticks t.agenda.now (Cadence.stop amount t.agenda.now)) hsettled fun k hk => by
    obtain ⟨part, hwithin, hpart⟩ := advance_to_tick hw ht amount hk
    have hthere : passed (advance w part t) := hpassed _ hwithin
    rwa [hpart] at hthere
  rw [now_settle, List.append_assoc] at hticks
  rw [advance_eq_ticks hw ht]
  exact hticks

theorem shot_call (ht : t.Rests) (h : Shot passed i due past t) (c : TaskCall Job σ)
    (hpassed : ∀ part, part.Within c → passed (call w t part)) :
    Shot passed i due (past ++ c.rounds t.agenda.now) (call w t c) := by
  have hbeats : Beats w t (call w t c) := beats_call w t c
  have hwhole : passed (call w t c) := hpassed c (.whole c)
  cases c with
  | every name job delay period =>
    simp only [TaskCall.rounds, List.append_nil]
    exact h.kept hwhole hbeats (Int.le_refl _) fun e he => ⟨e, Agenda.getElem?_add_of_lt _ he, .refl e⟩
  | once name job delay =>
    simp only [TaskCall.rounds, List.append_nil]
    exact h.kept hwhole hbeats (Int.le_refl _) fun e he => ⟨e, Agenda.getElem?_add_of_lt _ he, .refl e⟩
  | cancel j =>
    simp only [TaskCall.rounds, List.append_nil]
    refine h.kept hwhole hbeats (Int.le_refl _) fun e he => ?_
    refine ⟨_, (Agenda.getElem?_cancel t.agenda j i).trans (congrArg _ he), ?_⟩
    split
    · exact .inr rfl
    · exact .refl e
  | meanwhile f =>
    simp only [TaskCall.rounds, List.append_nil]
    exact h.kept hwhole hbeats (Int.le_refl _) (.refl i t)
  | settle => exact shot_settle h hwhole
  | advance amount => exact shot_advance hw ht h amount hpassed
  | jump amount =>
    have hmoved : Shot passed i due (past ++ [t.agenda.now])
        ((settle w t).setNow (amount.after (settle w t).agenda.now)) :=
      (shot_settle h (hpassed _ (.settle_jump amount))).setNow (by simp only [Span.after]; omega)
    have hrounds : (TaskCall.jump amount : TaskCall Job σ).rounds t.agenda.now =
        [t.agenda.now] ++ [amount.after (settle w t).agenda.now] := by
      rw [now_settle]
      rfl
    rw [hrounds, ← List.append_assoc]
    exact shot_settle hmoved hwhole
  | shutdown =>
    cases h with
    | @waits e entry period due_eq runs early =>
      have hstopped : (shutdown w t).agenda.entries[i]? = some { e with cancelled := true, stage := .ended } := by
        simp only [shutdown, Array.getElem?_map, entry, Option.map_some]
      have hmiss : Shot passed i due (past ++ [(call w t .shutdown).agenda.now]) (call w t .shutdown) :=
        .miss hwhole (dropped_of_beats ⟨_, hstopped, rfl, runs⟩ (beats_settle w _)) early
      rwa [show (call w t .shutdown).agenda.now = t.agenda.now from now_settle _] at hmiss
    | dropped passed clock first before now =>
      have hstopped : (shutdown w t).Dropped i [] := dropped_of_beats now (.single .shutdown)
      exact shot_settle (t := shutdown w t) (.dropped passed clock first before hstopped) hwhole
    | ran ended first =>
      exact shot_settle (t := shutdown w t) (.ran (over_of_beats ended (.single .shutdown)) first) hwhole

theorem shot_calls {all : List (TaskCall Job σ)} {start : Timeline Job σ}
    (hpassed : ∀ part, TaskCall.Cut part all → passed (calls w start part)) (done cs : List (TaskCall Job σ))
    (hall : done ++ cs = all) (ht : (calls w start done).Rests) (h : Shot passed i due past (calls w start done)) :
    Shot passed i due (past ++ TaskCall.allRounds (calls w start done).agenda.now cs) (calls w start all) := by
  induction cs generalizing done past with
  | nil =>
    rw [List.append_nil] at hall
    subst hall
    simpa [TaskCall.allRounds] using h
  | cons c cs ih =>
    have hdone : calls w start (done ++ [c]) = call w (calls w start done) c := calls_append w start done [c]
    have hc := shot_call hw ht h c fun part hpart => by
      subst hall
      have hcut := hpassed _ (.cut done hpart cs)
      rwa [calls_append] at hcut
    have hcs := ih (done ++ [c]) (by rw [List.append_assoc, List.singleton_append, hall])
      (hdone ▸ rests_call hw ht c) (hdone ▸ hc)
    rwa [hdone, now_call hw ht c, List.append_assoc] at hcs

end Timeline

end Liveness
