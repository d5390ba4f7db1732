import Liveness.Agenda.Run

/-!
# The entries of an agenda

What is waiting, what is ready and what wakes up next, by the entries; and how
the entries look after the requests of a run.  A run may cancel the entries of
others (`Entry.Kept`) and adds entries of its own at the end
(`Agenda.toList_fulfil`), and it does nothing else to them.
-/

namespace Liveness

/-! ## Due instants -/

namespace Cadence

theorem not_isReady_iff {due now : Int} : isReady due now = false ↔ Instant.floorMilli now < due := by
  simp [isReady]

theorem floorMilli_lt_within {now due : Int} (h : Instant.floorMilli now < due) :
    Instant.floorMilli now < within now due := by
  refine Int.lt_min.mpr ⟨h, ?_⟩
  refine Int.lt_of_le_of_lt (Instant.floorMilli_le now) ?_
  simp only [longestWait, Span.after, Span.nanos_ofMillis]
  omega

theorem dvd_stop (amount : Span) (now : Int) : 1000000 ∣ stop amount now := Instant.dvd_ceilMilli _

theorem floorMilli_le_stop (amount : Span) (now : Int) : Instant.floorMilli now ≤ stop amount now := by
  have hle : now ≤ within now (amount.after now) := by
    simp only [within, Span.after]
    omega
  exact Int.le_trans (Instant.floorMilli_le _) (Int.le_trans hle (Instant.le_ceilMilli _))

theorem stop_sub_lt (amount : Span) (now : Int) :
    stop amount now - Instant.floorMilli now < (amount.nanos / 1000000 + 3 : Nat) * 1000000 := by
  have hle : within now (amount.after now) ≤ now + amount.nanos := Int.min_le_left _ _
  unfold stop Instant.ceilMilli Instant.floorMilli
  omega

/-- Recurring work that has run is next due later than now. -/
theorem floorMilli_lt_next {due now next : Int} {period : Span} (hperiod : 0 < period.nanos)
    (hnext : next? due period now = some next) : Instant.floorMilli now < next := by
  have hpos : (0 : Int) < period.nanos := by omega
  by_cases hlate : now ≤ tolerance.after due
  · rw [next?, if_pos hlate, Option.some.injEq] at hnext
    subst hnext
    refine floorMilli_lt_within ?_
    have hlt : Instant.floorMilli now - due <
        ((Instant.floorMilli now - due) / period.nanos + 1) * period.nanos :=
      Int.lt_ediv_add_one_mul_self _ hpos
    have hle : (Instant.floorMilli now - due) / period.nanos + 1 ≤
        ((((Instant.floorMilli now - due) / period.nanos).toNat + 1 : Nat) : Int) := by omega
    have hmul := Int.mul_le_mul_of_nonneg_right hle (Int.le_of_lt hpos)
    omega
  · have hfloor : Instant.floorMilli now ≤ now := Instant.floorMilli_le now
    have hmod : (now - due) % period.nanos < period.nanos := Int.emod_lt_of_pos _ hpos
    rw [next?, if_neg hlate, Option.ite_none_right_eq_some, Option.some.injEq] at hnext
    obtain ⟨-, rfl⟩ := hnext
    exact floorMilli_lt_within (by simp only [Span.after]; omega)

end Cadence

variable {Job σ : Type}

namespace Entry

theorem due?_eq_some {e : Entry Job} {due : Int} :
    e.due? = some due ↔ e.cancelled = false ∧ e.stage = .waiting due := by
  unfold due?
  split
  · rename_i hc hs
    simp [hc, hs]
  · rename_i hne
    constructor
    · intro h
      cases h
    · rintro ⟨hc, hs⟩
      exact absurd hs (hne due hc)

theorem isLive_of_due? {e : Entry Job} {due : Int} (h : e.due? = some due) : e.isLive := by
  obtain ⟨hc, hs⟩ := due?_eq_some.mp h
  simp [isLive, hc, hs]

theorem isLive_iff {e : Entry Job} : e.isLive ↔ e.cancelled = false ∧ e.stage ≠ .ended := by
  simp [isLive]

/-- The stage that work is planned to reach is later than now. -/
theorem floorMilli_lt_of_plan {e : Entry Job} {due now next : Int}
    (hperiod : ∀ p, e.period = some p → 0 < p.nanos) (h : (e.plan due now).2 = .waiting next) :
    Instant.floorMilli now < next := by
  unfold plan at h
  split at h
  · cases h
  · rename_i p hp
    split at h
    · rename_i next' hnext
      rw [Stage.waiting.injEq] at h
      exact Cadence.floorMilli_lt_next (hperiod p hp) (h ▸ hnext)
    · cases h

/-- An entry that has been left alone, but for being cancelled. -/
def Kept (e e' : Entry Job) : Prop := e' = e ∨ e' = { e with cancelled := true }

namespace Kept

variable {e e₁ e₂ e₃ : Entry Job}

theorem refl (e : Entry Job) : Kept e e := .inl rfl

theorem trans (h : Kept e₁ e₂) (h' : Kept e₂ e₃) : Kept e₁ e₃ := by
  rcases h with rfl | rfl <;> rcases h' with rfl | rfl
  · exact .inl rfl
  · exact .inr rfl
  · exact .inr rfl
  · exact .inr rfl

theorem due? {due : Int} (h : Kept e₁ e₂) (hdue : e₂.due? = some due) : e₁.due? = some due := by
  rcases h with rfl | rfl
  · exact hdue
  · simp [Entry.due?] at hdue

theorem isLive (h : Kept e₁ e₂) (hlive : e₂.isLive) : e₁.isLive := by
  rcases h with rfl | rfl
  · exact hlive
  · simp [Entry.isLive] at hlive

theorem job (h : Kept e₁ e₂) : e₂.job = e₁.job := by rcases h with rfl | rfl <;> rfl

theorem period (h : Kept e₁ e₂) : e₂.period = e₁.period := by rcases h with rfl | rfl <;> rfl

end Kept

end Entry

namespace Agenda

variable {a : Agenda Job} {i j : EntryId} {e : Entry Job} {due : Int}

/-! ## What is waiting -/

theorem mem_waiting : (due, i) ∈ a.waiting ↔ ∃ e, a.entries[i]? = some e ∧ e.due? = some due := by
  simp only [waiting, List.mem_filterMap, Prod.exists, List.mem_zipIdx_iff_getElem?,
    Array.getElem?_toList, Option.map_eq_some_iff, Prod.mk.injEq]
  constructor
  · rintro ⟨e, j, hj, due', hdue, rfl, rfl⟩
    exact ⟨e, hj, hdue⟩
  · rintro ⟨e, he, hdue⟩
    exact ⟨e, i, he, due, hdue, rfl, rfl⟩

theorem mem_ready : i ∈ a.ready ↔ ∃ e due, a.entries[i]? = some e ∧ e.due? = some due ∧
    Cadence.isReady due a.now := by
  simp only [ready, List.mem_map, List.mem_mergeSort, List.mem_filter, Prod.exists]
  constructor
  · rintro ⟨due, j, ⟨hmem, hready⟩, rfl⟩
    obtain ⟨e, he, hdue⟩ := mem_waiting.mp hmem
    exact ⟨e, due, he, hdue, hready⟩
  · rintro ⟨e, due, he, hdue, hready⟩
    exact ⟨due, i, ⟨mem_waiting.mpr ⟨e, he, hdue⟩, hready⟩, rfl⟩

theorem nodup_map_snd_waiting (a : Agenda Job) : (a.waiting.map Prod.snd).Nodup := by
  suffices ∀ (es : List (Entry Job)) (k : Nat),
      (((es.zipIdx k).filterMap fun x => x.1.due?.map (·, x.2)).map Prod.snd).Nodup ∧
      ∀ i ∈ ((es.zipIdx k).filterMap fun x => x.1.due?.map (·, x.2)).map Prod.snd, k ≤ i from
    (this a.entries.toList 0).1
  intro es
  induction es with
  | nil => simp
  | cons e es ih =>
    intro k
    obtain ⟨hnodup, hle⟩ := ih (k + 1)
    rw [List.zipIdx_cons, List.filterMap_cons]
    cases hdue : e.due? with
    | none =>
      simp only [Option.map_none]
      exact ⟨hnodup, fun i hi => Nat.le_of_succ_le (hle i hi)⟩
    | some due =>
      simp only [Option.map_some, List.map_cons]
      refine ⟨List.nodup_cons.mpr ⟨fun hk => ?_, hnodup⟩, fun i hi => ?_⟩
      · exact absurd (hle k hk) (Nat.not_succ_le_self k)
      · rcases List.mem_cons.mp hi with rfl | hi
        · exact Nat.le_refl _
        · exact Nat.le_of_succ_le (hle i hi)

/-- Nothing is ready twice. -/
theorem nodup_ready (a : Agenda Job) : a.ready.Nodup := by
  unfold ready
  refine ((List.mergeSort_perm _ _).map Prod.snd).nodup_iff.mpr ?_
  exact (nodup_map_snd_waiting a).sublist (List.filter_sublist.map _)

theorem nextWake_eq_none (h : a.nextWake = none) (he : a.entries[i]? = some e) :
    e.due? ≠ some due := by
  intro hdue
  rw [nextWake, List.min?_eq_none_iff, List.map_eq_nil_iff] at h
  have hmem : (due, i) ∈ a.waiting := mem_waiting.mpr ⟨e, he, hdue⟩
  rw [h] at hmem
  cases hmem

theorem nextWake_eq_some {wake : Int} (h : a.nextWake = some wake) :
    (∃ (i : EntryId) (e : Entry Job) (due : Int), a.entries[i]? = some e ∧ e.due? = some due ∧
      wake = Instant.ceilMilli due) ∧
    ∀ (i : EntryId) (e : Entry Job) (due : Int), a.entries[i]? = some e → e.due? = some due →
      wake ≤ Instant.ceilMilli due := by
  obtain ⟨hmem, hle⟩ := List.min?_eq_some_iff.mp h
  constructor
  · obtain ⟨⟨due, i⟩, hw, rfl⟩ := List.mem_map.mp hmem
    obtain ⟨e, he, hdue⟩ := mem_waiting.mp hw
    exact ⟨i, e, due, he, hdue, rfl⟩
  · intro i e due he hdue
    exact hle _ (List.mem_map.mpr ⟨(due, i), mem_waiting.mpr ⟨e, he, hdue⟩, rfl⟩)

/-! ## What a run asks for -/

/-- The entry of an errand that goes on after a wait, or never. -/
def errandEntry (a : Agenda Job) (delay : Option Span) (job : Job) : Entry Job where
  name := ""
  job
  stage := match delay with
    | some d => a.waitFor d
    | none => .stuck
  errand := true

theorem wait_eq (a : Agenda Job) (job : Job) (delay : Option Span) :
    a.wait job delay =
      if a.isShutdown then a else { a with entries := a.entries.push (a.errandEntry delay job) } := by
  unfold wait
  split
  · rfl
  · rename_i hs
    have hadd : ∀ e : Entry Job, (a.add e).2 = { a with entries := a.entries.push e } := fun e => by
      rw [add, if_neg hs]
    exact hadd _

/-- Takes on errands that go on after waits. -/
def waits (a : Agenda Job) (ws : List (Option Span × Job)) : Agenda Job :=
  ws.foldl (fun a (delay, job) => a.wait job delay) a

theorem waits_eq (a : Agenda Job) (ws : List (Option Span × Job)) :
    a.waits ws = { a with entries := (a.waits ws).entries } := by
  unfold waits
  induction ws generalizing a with
  | nil => rfl
  | cons x ws ih =>
    rw [List.foldl_cons, ih]
    simp only [wait_eq]
    split <;> rfl

theorem toList_waits (a : Agenda Job) (ws : List (Option Span × Job)) :
    (a.waits ws).entries.toList = a.entries.toList ++
      if a.isShutdown then [] else ws.map fun x => a.errandEntry x.1 x.2 := by
  unfold waits
  induction ws generalizing a with
  | nil => simp
  | cons x ws ih =>
    rw [List.foldl_cons, ih]
    simp only [wait_eq]
    cases hs : a.isShutdown with
    | true => simp [hs]
    | false =>
      simp only [Bool.false_eq_true, if_false, Array.toList_push, List.append_assoc,
        List.singleton_append, List.map_cons]
      rfl

theorem foldl_cancel (a : Agenda Job) (is : List EntryId) :
    is.foldl cancel a = { a with entries := (is.foldl cancel a).entries } := by
  induction is generalizing a with
  | nil => rfl
  | cons i is ih => rw [List.foldl_cons, ih]; rfl

theorem getElem?_foldl_cancel (a : Agenda Job) (is : List EntryId) (j : EntryId) :
    (is.foldl cancel a).entries[j]? =
      (a.entries[j]?).map fun e => if j ∈ is then { e with cancelled := true } else e := by
  induction is generalizing a with
  | nil => simp
  | cons i is ih =>
    rw [List.foldl_cons, ih, cancel, modify, Array.getElem?_modify]
    by_cases hj : i = j
    · subst hj
      cases a.entries[i]? <;> simp
    · cases a.entries[j]? <;> simp [hj, Ne.symm hj]

theorem fulfil_eq (a : Agenda Job) (r : Request Job) :
    a.fulfil r =
      { a with entries := (a.fulfil r).entries, errands := a.errands ++ r.errands } := by
  have hnow : ((r.cancels.foldl cancel a).waits r.waits).now = a.now := by
    rw [waits_eq, foldl_cancel]
  have hshutdown : ((r.cancels.foldl cancel a).waits r.waits).isShutdown = a.isShutdown := by
    rw [waits_eq, foldl_cancel]
  have herrands : ((r.cancels.foldl cancel a).waits r.waits).errands = a.errands := by
    rw [waits_eq, foldl_cancel]
  rw [← hnow, ← hshutdown, ← herrands]
  rfl

/-- After what a run asks for, some entries are cancelled and others are added at the end. -/
theorem toList_fulfil (a : Agenda Job) (r : Request Job) :
    (a.fulfil r).entries.toList = (r.cancels.foldl cancel a).entries.toList ++
      if a.isShutdown then [] else r.waits.map fun x => a.errandEntry x.1 x.2 := by
  change ((r.cancels.foldl cancel a).waits r.waits).entries.toList = _
  rw [toList_waits, foldl_cancel]
  rfl

@[simp] theorem now_fulfil (a : Agenda Job) (r : Request Job) : (a.fulfil r).now = a.now := by
  rw [fulfil_eq]

@[simp] theorem isShutdown_fulfil (a : Agenda Job) (r : Request Job) :
    (a.fulfil r).isShutdown = a.isShutdown := by
  rw [fulfil_eq]

@[simp] theorem errands_fulfil (a : Agenda Job) (r : Request Job) :
    (a.fulfil r).errands = a.errands ++ r.errands := by
  rw [fulfil_eq]

theorem fulfil_nothing (a : Agenda Job) {r : Request Job} (hcancels : r.cancels = [])
    (herrands : r.errands = []) (hwaits : r.waits = []) : a.fulfil r = a := by
  simp [fulfil, hcancels, herrands, hwaits]

theorem fulfil_cancels (a : Agenda Job) (is : List EntryId) :
    a.fulfil { cancels := is } = is.foldl cancel a := by
  simp [fulfil]

theorem fulfil_wait (a : Agenda Job) (delay : Option Span) (job : Job) :
    a.fulfil { waits := [(delay, job)] } = a.wait job delay := by
  simp [fulfil]

theorem fulfil_errands_only (a : Agenda Job) (jobs : List Job) :
    a.fulfil { errands := jobs } = { a with errands := a.errands ++ jobs } := rfl

theorem size_foldl_cancel (a : Agenda Job) (is : List EntryId) :
    (is.foldl cancel a).entries.size = a.entries.size := by
  induction is generalizing a with
  | nil => rfl
  | cons i is ih => rw [List.foldl_cons, ih, cancel, modify, Array.size_modify]

/-- An entry after what a run asks for. -/
theorem kept_fulfil (r : Request Job) (he : a.entries[i]? = some e) :
    ∃ e', (a.fulfil r).entries[i]? = some e' ∧ e.Kept e' ∧
      (i ∉ r.cancels → e' = e) ∧ (i ∈ r.cancels → e'.cancelled = true) := by
  have hcancel := getElem?_foldl_cancel a r.cancels i
  have hlt : i < (r.cancels.foldl cancel a).entries.toList.length := by
    rw [Array.length_toList, size_foldl_cancel]
    exact (Array.getElem?_eq_some_iff.mp he).1
  rw [he, Option.map_some] at hcancel
  refine ⟨if i ∈ r.cancels then { e with cancelled := true } else e, ?_, ?_, fun hi => if_neg hi,
    fun hi => by rw [if_pos hi]⟩
  · rw [← Array.getElem?_toList, toList_fulfil, List.getElem?_append_left hlt, Array.getElem?_toList,
      hcancel]
  · split
    · exact .inr rfl
    · exact .inl rfl

/-- An entry after what a run asks for was there before or is an errand of that run. -/
theorem of_getElem?_fulfil {r : Request Job} (he : (a.fulfil r).entries[i]? = some e) :
    (∃ e₀, a.entries[i]? = some e₀ ∧ e₀.Kept e) ∨
      a.entries[i]? = none ∧ a.isShutdown = false ∧ ∃ x ∈ r.waits, e = a.errandEntry x.1 x.2 := by
  cases h₀ : a.entries[i]? with
  | some e₀ =>
    obtain ⟨e', he', hkept, -⟩ := kept_fulfil r h₀
    rw [he, Option.some.injEq] at he'
    exact .inl ⟨e₀, rfl, he' ▸ hkept⟩
  | none =>
    have hge : (r.cancels.foldl cancel a).entries.toList.length ≤ i := by
      rw [Array.length_toList, size_foldl_cancel]
      exact Array.getElem?_eq_none_iff.mp h₀
    rw [← Array.getElem?_toList, toList_fulfil, List.getElem?_append_right hge] at he
    cases hs : a.isShutdown with
    | true => simp [hs] at he
    | false =>
      rw [hs, if_neg Bool.false_ne_true] at he
      obtain ⟨x, hx, rfl⟩ := List.mem_map.mp (List.mem_of_getElem? he)
      exact .inr ⟨rfl, rfl, x, hx, rfl⟩

end Agenda

end Liveness
