import Liveness.Proofs.Agenda.Growth
import Mathlib.Data.List.Basic

/-!
# Agendas that differ in one task

Two agendas hold the same work, but for one task that may be cancelled in one of them,
or be due at other times (`Agenda.Alike`).  They stay alike when the same happens to
both, and whatever happens to the task; and the rest of their work is ready at the same
times and in the same order (`Agenda.Alike.ready`).
-/

namespace Liveness

/-- A list is cut in one place only so that all items before it fail a test and all after it pass. -/
theorem append_cut {α : Type} {p : α → Bool} {l l' m m' : List α} (hl : ∀ b ∈ l, p b = false) (hl' : ∀ b ∈ l', p b)
    (hm : ∀ b ∈ m, p b = false) (hm' : ∀ b ∈ m', p b) (heq : l ++ l' = m ++ m') : l = m ∧ l' = m' := by
  have htake : ∀ {l l' : List α}, (∀ b ∈ l, p b = false) → (∀ b ∈ l', p b) →
      (l ++ l').takeWhile (fun b => !p b) = l := by
    intro l l' hl hl'
    rw [List.takeWhile_append_of_pos fun b hb => by simp [hl b hb]]
    cases l' with
    | nil => simp
    | cons b l' => simp [hl' b List.mem_cons_self]
  obtain rfl : l = m := (htake hl hl').symm.trans ((congrArg _ heq).trans (htake hm hm'))
  exact ⟨rfl, List.append_cancel_left heq⟩

/-- To sort what passes a test is to sort and then to test, as equal items keep their order. -/
theorem mergeSort_filter {α : Type} {le : α → α → Bool} (htrans : ∀ a b c, le a b → le b c → le a c)
    (htotal : ∀ a b, le a b || le b a) (p : α → Bool) (l : List α) :
    (l.filter p).mergeSort le = (l.mergeSort le).filter p := by
  have hlater : ∀ {a : α} {l l' : List α} {xs : List α}, xs.mergeSort le = l ++ a :: l' → ∀ b ∈ l', le a b := by
    intro a l l' xs heq b hb
    have hsorted := List.pairwise_mergeSort htrans htotal xs
    rw [heq, List.pairwise_append, List.pairwise_cons] at hsorted
    exact hsorted.2.1.1 b hb
  induction l with
  | nil => simp
  | cons a l ih =>
    obtain ⟨l₁, l₂, hsort, hrest, hbefore⟩ := List.mergeSort_cons htrans htotal a l
    rw [hrest] at ih
    cases hp : p a with
    | false => rw [List.filter_cons_of_neg (by simp [hp]), ih, hsort]; simp [hp]
    | true =>
      obtain ⟨m₁, m₂, hsort', hrest', hbefore'⟩ := List.mergeSort_cons htrans htotal a (l.filter p)
      rw [ih, List.filter_append] at hrest'
      -- both are cut where the item comes in: behind all that have to come before it
      obtain ⟨hfirst, hsecond⟩ := append_cut (p := le a)
        (fun b hb => by simpa using hbefore b (List.mem_of_mem_filter hb))
        (fun b hb => hlater hsort b (List.mem_of_mem_filter hb))
        (fun b hb => by simpa using hbefore' b hb) (hlater hsort') hrest'
      rw [List.filter_cons_of_pos hp, hsort', hsort, List.filter_append, List.filter_cons_of_pos hp, hfirst, hsecond]

variable {Job : Type}

/-! ## Two agendas -/

namespace Agenda

/-- A task holds a place among the entries. -/
def Holds (a : Agenda Job) (k : EntryId) (job : Job) : Prop :=
  ∃ e, a.entries[k]? = some e ∧ e.job = job ∧ e.errand = false

/-- Two agendas that differ in one task only, while all other work is of some kind. -/
structure Alike (P : Job → Prop) (k : EntryId) (job : Job) (a a' : Agenda Job) : Prop where
  now : a'.now = a.now
  isShutdown : a'.isShutdown = a.isShutdown
  errands : a'.errands = a.errands
  size : a'.entries.size = a.entries.size
  others : ∀ i, i ≠ k → a'.entries[i]? = a.entries[i]?
  task : a.Holds k job
  task' : a'.Holds k job
  jobs : ∀ (i : EntryId) e, i ≠ k → a.entries[i]? = some e → P e.job
  asked : ∀ job' ∈ a.errands, P job'

variable {P : Job → Prop} {k : EntryId} {job : Job} {a a' a'' : Agenda Job}

theorem Holds.modify (h : a.Holds k job) (i : EntryId) {f : Entry Job → Entry Job}
    (hf : ∀ e : Entry Job, e.Later (f e)) :
    (a.modify i f).Holds k job := by
  obtain ⟨e, he, hjob, herrand⟩ := h
  rw [Holds, Agenda.modify, Array.getElem?_modify, he]
  split
  · exact ⟨f e, rfl, (hf e).job.trans hjob, (hf e).errand.trans herrand⟩
  · exact ⟨e, rfl, hjob, herrand⟩

theorem Holds.stopped (h : a.Holds k job) : a.stopped.Holds k job := by
  obtain ⟨e, he, hjob, herrand⟩ := h
  rw [Holds, Agenda.stopped, Array.getElem?_map, he]
  exact ⟨_, rfl, hjob, herrand⟩

namespace Alike

/-- A task among work of some kind. -/
theorem of_task {e : Entry Job} (he : a.entries[k]? = some e) (herrand : e.errand = false)
    (hjobs : ∀ (i : EntryId) e', i ≠ k → a.entries[i]? = some e' → P e'.job) (hasked : ∀ job ∈ a.errands, P job) :
    Alike P k e.job a a :=
  ⟨rfl, rfl, rfl, rfl, fun _ _ => rfl, ⟨e, he, rfl, herrand⟩, ⟨e, he, rfl, herrand⟩, hjobs, hasked⟩

theorem symm (h : Alike P k job a a') : Alike P k job a' a where
  now := h.now.symm
  isShutdown := h.isShutdown.symm
  errands := h.errands.symm
  size := h.size.symm
  others i hi := (h.others i hi).symm
  task := h.task'
  task' := h.task
  jobs i e hi he := h.jobs i e hi (h.others i hi ▸ he)
  asked job' hjob' := h.asked job' (h.errands ▸ hjob')

theorem trans (h : Alike P k job a a') (h' : Alike P k job a' a'') : Alike P k job a a'' where
  now := h'.now.trans h.now
  isShutdown := h'.isShutdown.trans h.isShutdown
  errands := h'.errands.trans h.errands
  size := h'.size.trans h.size
  others i hi := (h'.others i hi).trans (h.others i hi)
  task := h.task
  task' := h'.task'
  jobs := h.jobs
  asked := h.asked

/-- An entry changes in both. -/
theorem modify (h : Alike P k job a a') (i : EntryId) {f : Entry Job → Entry Job}
    (hf : ∀ e : Entry Job, e.Later (f e)) :
    Alike P k job (a.modify i f) (a'.modify i f) where
  now := h.now
  isShutdown := h.isShutdown
  errands := h.errands
  size := by
    simp only [Agenda.modify, Array.size_modify]
    exact h.size
  others j hj := by simp only [Agenda.modify, Array.getElem?_modify, h.others j hj]
  task := h.task.modify i hf
  task' := h.task'.modify i hf
  jobs j e hj he := by
    rw [Agenda.modify, Array.getElem?_modify] at he
    split at he
    · obtain ⟨e₀, he₀, rfl⟩ := Option.map_eq_some_iff.mp he
      rw [(hf e₀).job]
      exact h.jobs j e₀ hj he₀
    · exact h.jobs j e hj he
  asked := h.asked

/-- The task changes in one of them. -/
theorem modify_task (h : Alike P k job a a') {f : Entry Job → Entry Job} (hf : ∀ e : Entry Job, e.Later (f e)) :
    Alike P k job a (a'.modify k f) where
  now := h.now
  isShutdown := h.isShutdown
  errands := h.errands
  size := by
    rw [Agenda.modify, Array.size_modify]
    exact h.size
  others j hj := by rw [Agenda.modify, Array.getElem?_modify, if_neg (Ne.symm hj), h.others j hj]
  task := h.task
  task' := h.task'.modify k hf
  jobs := h.jobs
  asked := h.asked

theorem cancel (h : Alike P k job a a') (i : EntryId) : Alike P k job (a.cancel i) (a'.cancel i) :=
  h.modify i fun _ => ⟨rfl, rfl, rfl, fun _ => rfl⟩

theorem cancel_task (h : Alike P k job a a') : Alike P k job a (a'.cancel k) :=
  h.modify_task fun _ => ⟨rfl, rfl, rfl, fun _ => rfl⟩

/-- Both take on some work. -/
theorem add (h : Alike P k job a a') {e : Entry Job} (he : P e.job) : Alike P k job (a.add e).2 (a'.add e).2 where
  now := h.now
  isShutdown := h.isShutdown
  errands := h.errands
  size := by rw [size_add, size_add, h.size]
  others i hi := by
    have henrol : a'.enrol e = a.enrol e := by rw [enrol, enrol, h.isShutdown]
    simp only [add_eq, Array.getElem?_push, h.size, henrol, h.others i hi]
  task := by
    obtain ⟨e₀, he₀, hjob⟩ := h.task
    exact ⟨e₀, getElem?_add_of_lt e he₀, hjob⟩
  task' := by
    obtain ⟨e₀, he₀, hjob⟩ := h.task'
    exact ⟨e₀, getElem?_add_of_lt e he₀, hjob⟩
  jobs i e₁ hi he₁ := by
    rw [add_eq, Array.getElem?_push] at he₁
    split at he₁
    · obtain rfl := Option.some.inj he₁
      rwa [job_enrol]
    · exact h.jobs i e₁ hi he₁
  asked := h.asked

theorem wait (h : Alike P k job a a') {job' : Job} (hjob' : P job') (delay : Option Span) :
    Alike P k job (a.wait job' delay) (a'.wait job' delay) := by
  unfold Agenda.wait
  rw [h.isShutdown]
  split
  · exact h
  · have hstage : ∀ d, a'.waitFor d = a.waitFor d := fun d => by rw [waitFor, waitFor, h.now]
    simp only [hstage]
    exact h.add hjob'

/-- Both fulfil a request. -/
theorem fulfil (h : Alike P k job a a') {r : Request Job} (herrands : ∀ job' ∈ r.errands, P job')
    (hwaits : ∀ x ∈ r.waits, P x.2) : Alike P k job (a.fulfil r) (a'.fulfil r) := by
  have hcancelled : Alike P k job (r.cancels.foldl Agenda.cancel a) (r.cancels.foldl Agenda.cancel a') :=
    List.foldl_rel h fun i _ _ _ h => h.cancel i
  have hwaiting : Alike P k job (Agenda.waits _ r.waits) (Agenda.waits _ r.waits) :=
    List.foldl_rel hcancelled fun x hx _ _ h => h.wait (hwaits x hx) x.1
  exact {
    now := hwaiting.now
    isShutdown := hwaiting.isShutdown
    errands := congrArg (· ++ r.errands) hwaiting.errands
    size := hwaiting.size
    others := hwaiting.others
    task := hwaiting.task
    task' := hwaiting.task'
    jobs := hwaiting.jobs
    asked := fun job' hjob' => (List.mem_append.mp hjob').elim (hwaiting.asked job') (herrands job') }

/-- The entries before and after the task are the same. -/
theorem split (h : Alike P k job a a') : ∃ pre e e' post, a.entries.toList = pre ++ e :: post ∧
    a'.entries.toList = pre ++ e' :: post ∧ pre.length = k ∧ e.errand = false ∧ e'.errand = false := by
  obtain ⟨e, he, -, herrand⟩ := h.task
  obtain ⟨e', he', -, herrand'⟩ := h.task'
  obtain ⟨hk, hget⟩ := List.getElem?_eq_some_iff.mp (Array.getElem?_toList ▸ he)
  obtain ⟨hk', hget'⟩ := List.getElem?_eq_some_iff.mp (Array.getElem?_toList ▸ he')
  refine ⟨a.entries.toList.take k, e, e', a.entries.toList.drop (k + 1), ?_, ?_, ?_, herrand, herrand'⟩
  · rw [← hget, ← List.drop_eq_getElem_cons hk, List.take_append_drop]
  · have hpre : a.entries.toList.take k = a'.entries.toList.take k := by
      refine List.ext_getElem? fun i => ?_
      rw [List.getElem?_take, List.getElem?_take]
      split
      · rename_i hi
        rw [Array.getElem?_toList, Array.getElem?_toList, h.others i (Nat.ne_of_lt hi)]
      · rfl
    have hpost : a.entries.toList.drop (k + 1) = a'.entries.toList.drop (k + 1) := by
      refine List.ext_getElem? fun i => ?_
      have hne : k + 1 + i ≠ k := Nat.ne_of_gt (Nat.lt_add_right i (Nat.lt_succ_self k))
      rw [List.getElem?_drop, List.getElem?_drop, Array.getElem?_toList, Array.getElem?_toList, h.others _ hne]
    rw [hpre, hpost, ← hget', ← List.drop_eq_getElem_cons hk', List.take_append_drop]
  · exact List.length_take_of_le (Nat.le_of_lt hk)

/-- The same errands are under way in both, as the task is none. -/
theorem underWay (h : Alike P k job a a') :
    a'.entries.toList.filter (fun e => e.errand && e.isLive) = a.entries.toList.filter (fun e => e.errand && e.isLive) ∧
      ∀ e ∈ a.entries.toList.filter (fun e => e.errand && e.isLive), P e.job := by
  constructor
  · obtain ⟨pre, e, e', post, hsplit, hsplit', -, herrand, herrand'⟩ := h.split
    rw [hsplit, hsplit', List.filter_append, List.filter_append, List.filter_cons_of_neg (by simp [herrand']),
      List.filter_cons_of_neg (by simp [herrand])]
  · intro e hmem
    obtain ⟨hmem, htest⟩ := List.mem_filter.mp hmem
    obtain ⟨i, hi⟩ := List.getElem?_of_mem hmem
    rw [Array.getElem?_toList] at hi
    refine h.jobs i e ?_ hi
    rintro rfl
    obtain ⟨e₀, he₀, -, herrand⟩ := h.task
    obtain rfl := Option.some.inj (hi.symm.trans he₀)
    simp [herrand] at htest

theorem stopped (h : Alike P k job a a') : Alike P k job a.stopped a'.stopped where
  now := h.now
  isShutdown := h.isShutdown
  errands := h.errands
  size := by simp only [Agenda.stopped, Array.size_map, h.size]
  others i hi := by simp only [Agenda.stopped, Array.getElem?_map, h.others i hi]
  task := h.task.stopped
  task' := h.task'.stopped
  jobs i e hi he := by
    rw [Agenda.stopped, Array.getElem?_map] at he
    obtain ⟨e₀, he₀, rfl⟩ := Option.map_eq_some_iff.mp he
    exact h.jobs i e₀ hi he₀
  asked := h.asked

/-- Apart from the task the same work is ready in both, in the same order. -/
theorem ready (h : Alike P k job a a') : a'.ready.filter (· ≠ k) = a.ready.filter (· ≠ k) := by
  have hwaiting : a'.waiting.filter (·.2 ≠ k) = a.waiting.filter (·.2 ≠ k) := by
    obtain ⟨pre, e, e', post, hsplit, hsplit', hlength, -⟩ := h.split
    rw [waiting, waiting, hsplit, hsplit']
    simp only [List.zipIdx_append, List.zipIdx_cons, List.filterMap_append, List.filterMap_cons, List.filter_append,
      hlength, Nat.zero_add]
    cases e.due? <;> cases e'.due? <;> simp
  have hsort : ∀ {a : Agenda Job}, a.ready.filter (· ≠ k) =
      (((a.waiting.filter (·.2 ≠ k)).filter fun x => Cadence.isReady x.1 a.now).mergeSort
        (fun x y => Instant.ceilMilli x.1 ≤ Instant.ceilMilli y.1)).map (·.2) := by
    intro a
    have htrans : ∀ x y z : Int × EntryId, decide (Instant.ceilMilli x.1 ≤ Instant.ceilMilli y.1) →
        decide (Instant.ceilMilli y.1 ≤ Instant.ceilMilli z.1) →
          decide (Instant.ceilMilli x.1 ≤ Instant.ceilMilli z.1) := by
      simp only [decide_eq_true_eq]
      exact fun x y z => Int.le_trans
    have htotal : ∀ x y : Int × EntryId, (decide (Instant.ceilMilli x.1 ≤ Instant.ceilMilli y.1) ||
        decide (Instant.ceilMilli y.1 ≤ Instant.ceilMilli x.1)) := by
      simp only [Bool.or_eq_true, decide_eq_true_eq]
      exact fun x y => Int.le_total _ _
    rw [Agenda.ready, List.filter_map, ← mergeSort_filter htrans htotal, List.filter_comm]
    rfl
  rw [hsort, hsort, hwaiting, h.now]

end Alike

end Agenda

end Liveness
