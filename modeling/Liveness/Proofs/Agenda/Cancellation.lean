import Liveness.Proofs.Agenda.Isolation

/-!
# Cancelling tasks

A task that was cancelled never runs again, a task that is to be done once runs no more
than once and in time if it is not cancelled before, and tasks that do not know of a
task do not feel that it is cancelled: `Timeline.cancel_final_isolated`.
-/

namespace Liveness

variable {Job σ : Type}

namespace Timeline

variable {w : Worker Job σ}

/-- In the course of some calls a task that waits for a due instant is done in the first round that is not before it.
Or it never is, and when the calls had come no further than to this round, it was cancelled. -/
def DoneInTime (w : Worker Job σ) (t : Timeline Job σ) (cs : List (TaskCall Job σ)) (i : EntryId) (due : Int) : Prop :=
  let rounds := TaskCall.allRounds t.agenda.now cs
  (∃ e, (calls w t cs).agenda.entries[i]? = some e ∧
      e.runs = ((rounds.find? (Cadence.isReady due)).map (Run.mk due)).toList) ∨
    (calls w t cs).Dropped i [] ∧ ∃ part, TaskCall.Cut part cs ∧ (calls w t part).Dropped i [] ∧
      ∀ m ∈ rounds, Cadence.isReady due m → (calls w t part).agenda.now ≤ m

theorem rests_new (x : σ) : (⟨{}, x⟩ : Timeline Job σ).Rests := ⟨fun i e p he _ => by simp at he, rfl⟩

theorem doneInTime_once (hw : w.Orderly) {t : Timeline Job σ} (ht : t.Rests) (hopen : t.agenda.isShutdown = false)
    (name : String) (job : Job) (delay : Span) (cs : List (TaskCall Job σ)) :
    DoneInTime w (call w t (.once name job delay)) cs t.agenda.entries.size
      (Cadence.within t.agenda.now (delay.after t.agenda.now)) := by
  have henrol : t.agenda.enrol { name, job, stage := t.agenda.waitFor delay } =
      { name, job, stage := t.agenda.waitFor delay } := by
    rw [Agenda.enrol, hopen, if_neg Bool.false_ne_true]
  have hentry : (call w t (.once name job delay)).agenda.entries[t.agenda.entries.size]? =
      some { name, job, stage := t.agenda.waitFor delay } :=
    (t.agenda.getElem?_add_size _).trans (congrArg some henrol)
  have hrests : (call w t (.once name job delay)).Rests := rests_call hw ht _
  generalize call w t (.once name job delay) = start at hentry hrests ⊢
  have hwaits : Shot (fun t₁ => ∃ part, TaskCall.Cut part cs ∧ calls w start part = t₁) t.agenda.entries.size
      (Cadence.within t.agenda.now (delay.after t.agenda.now)) [] start :=
    .waits hentry rfl rfl rfl fun m hm => absurd hm List.not_mem_nil
  have hcalls := shot_calls hw (fun part hpart => ⟨part, hpart, rfl⟩) [] cs rfl hrests hwaits
  rcases hcalls.spec with hran | ⟨hdropped, _, ⟨part, hpart, rfl⟩, hbefore, hfirst⟩
  · exact .inl hran
  · exact .inr ⟨hdropped, part, hpart, hbefore, hfirst⟩

/-- A task that is cancelled, by callers or by a body, never runs again; a task that is to be done once is done in
time; and the others do not feel whether a task is cancelled that does nothing in their view. -/
theorem cancel_final_isolated (hw : w.Orderly) :
    (∀ (t : Timeline Job σ) cs, Beats w t (calls w t cs)) ∧
    (∀ (x : σ) cs, (calls w ⟨{}, x⟩ cs).Rests) ∧
    (∀ (t t' : Timeline Job σ) (i : EntryId) e, t.agenda.entries[i]? = some e → Beats w (call w t (.cancel i)) t' →
      t'.Dropped i e.runs) ∧
    (∀ (t t' : Timeline Job σ) (i j : EntryId) e e' due, t.agenda.entries[i]? = some e →
      t.agenda.entries[j]? = some e' → e'.isLive → i ∈ (w.run e'.job e'.runs t.agenda.now t.host).2.cancels →
      Beats w (runOnce w j t due) t' → t'.Dropped i (if i = j then ⟨due, t.agenda.now⟩ :: e.runs else e.runs)) ∧
    (∀ t : Timeline Job σ, t.Rests → t.agenda.isShutdown = false → ∀ name job delay cs,
      DoneInTime w (call w t (.once name job delay)) cs t.agenda.entries.size
        (Cadence.within t.agenda.now (delay.after t.agenda.now))) ∧
    ∀ (View : Type) (view : σ → View) (P : Job → Prop), w.Sees view P →
      ∀ (t : Timeline Job σ) (k : EntryId) e, t.Rests → t.agenda.entries[k]? = some e → e.errand = false →
        w.Hides view k e.job → (∀ (i : EntryId) e', i ≠ k → t.agenda.entries[i]? = some e' → P e'.job) →
        ∀ (x : σ) (cs cs' : List (TaskCall Job σ)), view x = view t.host → (∀ c ∈ cs, c.Fits view P) →
          cs'.filter (!·.cancels k) = cs.filter (!·.cancels k) →
          ∀ i, i ≠ k → (calls w { t with host := x } cs').agenda.entries[i]? = (calls w t cs).agenda.entries[i]? := by
  refine ⟨beats_calls w, fun x cs => ?_, fun t t' i e he hbeats => ?_,
    fun t t' i j e e' due he he' hlive hi hbeats => ?_,
    fun t ht hopen name job delay cs => ?_,
    fun View view P hsees t k e ht he herrand hhides hjobs x cs cs' hx hcs hsame i hi => ?_⟩
  · exact rests_calls hw (rests_new x) cs
  · exact dropped_of_beats (dropped_of_cancel he) hbeats
  · exact dropped_of_beats (dropped_of_request he' hlive hi he) hbeats
  · exact doneInTime_once hw ht hopen name job delay cs
  · have hstart : Alike view P k e.job t { t with host := x } :=
      ⟨.of_task he herrand hjobs (ht.errands ▸ fun _ hmem => absurd hmem List.not_mem_nil), hx⟩
    have ht' : Rests { t with host := x } := ⟨ht.paced, ht.errands⟩
    exact (hstart.calls hsees hw hhides ht ht' hcs hsame).agenda.others i hi

end Timeline

/-! ## Bodies with a flag -/

/-- Bodies that share a flag. -/
inductive FlagBody where
  | idle
  /-- It cancels its own task, which is the first one, when it finds the flag raised. -/
  | heeds
  | raises
deriving DecidableEq

/-- What the bodies do with their flag. -/
def flagWorker : Worker FlagBody Bool where
  run body _ _ raised :=
    match body with
    | .idle => (raised, {})
    | .heeds => (raised, { cancels := if raised then [0] else [] })
    | .raises => (true, {})
  abandon _ _ raised := raised

namespace Timeline

/-- A task that heeds the flag, and one that is done once and does nothing. -/
def flagAgenda : Agenda FlagBody :=
  ((({} : Agenda FlagBody).every "heeds" .heeds (.ofMillis 1) (.ofMillis 2)).2.once "idle" .idle (.ofMillis 2)).2

theorem flagAgenda_eq (raised : Bool) :
    calls flagWorker ⟨{}, raised⟩
        [.every "heeds" .heeds (.ofMillis 1) (.ofMillis 2), .once "idle" .idle (.ofMillis 2)] =
      ⟨flagAgenda, raised⟩ := by
  simp only [calls, List.foldl_cons, List.foldl_nil, call, flagAgenda]

theorem orderly_flagWorker : flagWorker.Orderly where
  patient body _ _ raised d body' h := by cases body <;> simp [flagWorker] at h
  terse body _ _ raised body' h := by cases body <;> simp [flagWorker] at h

theorem sees_flagWorker : flagWorker.Sees (fun _ => ()) (· = .idle) where
  request := by
    rintro _ runs now x x' rfl -
    rfl
  host _ _ _ _ _ _ _ := rfl
  abandon _ _ _ _ _ _ := rfl
  errands := by
    rintro _ runs now x rfl body h
    cases h
  waits := by
    rintro _ runs now x rfl body h
    cases h

theorem hides_flagWorker : flagWorker.Hides (fun _ => ()) 0 .heeds where
  host _ _ _ := rfl
  cancels runs now raised i hi := by cases raised <;> simp_all [flagWorker]
  errands _ _ _ := rfl
  waits _ _ _ := rfl

/-- The task that heeds the flag is cancelled after one run, or before, or finds the flag raised and cancels itself.
The other task is done in time all the same. -/
theorem cancel_final_isolated_flag :
    (calls flagWorker ⟨flagAgenda, false⟩ [.advance (.ofMillis 1), .cancel 0, .advance (.ofMillis 2)]).Dropped 0
        [⟨1000000, 1000000⟩] ∧
      DoneInTime flagWorker ⟨flagAgenda, false⟩ [.cancel 0, .advance (.ofMillis 3)] 1 2000000 ∧
      (calls flagWorker ⟨flagAgenda, true⟩ [.advance (.ofMillis 3)]).agenda.entries[1]? =
        (calls flagWorker ⟨flagAgenda, false⟩ [.cancel 0, .advance (.ofMillis 3)]).agenda.entries[1]? := by
  obtain ⟨hbeats, hrests, hcancel, -, honce, hapart⟩ := cancel_final_isolated orderly_flagWorker
  have ht : (⟨flagAgenda, false⟩ : Timeline FlagBody Bool).Rests := flagAgenda_eq false ▸ hrests false _
  refine ⟨?_, ?_, ?_⟩
  · have hruns : (calls flagWorker ⟨flagAgenda, false⟩ [.advance (.ofMillis 1)]).agenda.entries[0]?.map (·.runs) =
        some [⟨1000000, 1000000⟩] := by decide +kernel
    obtain ⟨e, he, hruns⟩ := Option.map_eq_some_iff.mp hruns
    exact hruns ▸ hcancel _ _ 0 e he (hbeats _ [.advance (.ofMillis 2)])
  · let first := calls flagWorker ⟨{}, false⟩ [.every "heeds" .heeds (.ofMillis 1) (.ofMillis 2)]
    have hdue : Cadence.within first.agenda.now ((Span.ofMillis 2).after first.agenda.now) = 2000000 := by
      decide +kernel
    have hstart : call flagWorker first (.once "idle" .idle (.ofMillis 2)) = ⟨flagAgenda, false⟩ := flagAgenda_eq false
    have hdone := honce first (hrests false _) rfl "idle" .idle (.ofMillis 2) [.cancel 0, .advance (.ofMillis 3)]
    rw [hdue, hstart] at hdone
    exact hdone
  · have hfits : ∀ c ∈ [TaskCall.cancel 0, .advance (.ofMillis 3)],
        c.Fits (fun _ : Bool => ()) (· = FlagBody.idle) := by simp [TaskCall.Fits]
    have htask : flagAgenda.entries[0]?.map (fun e => (e.errand, e.job)) = some (false, .heeds) := by
      decide +kernel
    obtain ⟨e, he, htask⟩ := Option.map_eq_some_iff.mp htask
    obtain ⟨herrand, hjob⟩ := Prod.mk.injEq .. ▸ htask
    have hrest : ∀ e' ∈ flagAgenda.entries.toList.drop 1, e'.job = .idle := by decide +kernel
    have hidle : ∀ (i : EntryId) e', i ≠ 0 → flagAgenda.entries[i]? = some e' → e'.job = .idle := by
      intro i e' hi he'
      obtain ⟨j, rfl⟩ := Nat.exists_eq_succ_of_ne_zero hi
      refine hrest e' (List.mem_of_getElem? (i := j) ?_)
      rwa [List.getElem?_drop, Array.getElem?_toList, Nat.add_comm]
    have hhides : flagWorker.Hides (fun _ => ()) 0 e.job := hjob ▸ hides_flagWorker
    have hsame := hapart Unit (fun _ => ()) (· = .idle) sees_flagWorker ⟨flagAgenda, false⟩ 0 e ht he herrand hhides
      hidle true [.cancel 0, .advance (.ofMillis 3)] [.advance (.ofMillis 3)] rfl hfits rfl
    exact hsame 1 (by decide)

/-- Where a task that is done once is done early or late, and where a task feels that another one is cancelled: no wait
is longer than thirty years, tasks wake up at whole milliseconds, and bodies may act by what others have done. -/
theorem cancel_felt_and_once_off_time :
    let runs (t : Timeline FlagBody Bool) := t.agenda.entries[0]?.map fun e => e.runs.reverse.map Run.time
    -- it runs after thirty of the forty years that it was to wait
    (let t := calls flagWorker ⟨{}, false⟩
       [.once "idle" .idle (.ofMillis 1261440000000), .advance (.ofMillis 946080000000)]
     t.agenda.now < (Span.ofMillis 1261440000000).after 0 ∧ runs t = some [t.agenda.now]) ∧
    -- it has not run though due work was done at its due instant, which lies between two milliseconds
    (let t := calls flagWorker ⟨{}, false⟩ [.jump ⟨1⟩, .once "idle" .idle (.ofMillis 1), .jump (.ofMillis 1)]
     t.agenda.now = (Span.ofMillis 1).after 1 ∧ runs t = some []) ∧
    -- it goes on only if the task is cancelled that would have raised the flag
    (let tasks := [.every "heeds" .heeds (.ofMillis 1) (.ofMillis 2), .once "raises" .raises (.ofMillis 2)]
     runs (calls flagWorker ⟨{}, false⟩ (tasks ++ [.advance (.ofMillis 5)])) = some [1000000, 3000000] ∧
       runs (calls flagWorker ⟨{}, false⟩ (tasks ++ [.cancel 1, .advance (.ofMillis 5)])) =
         some [1000000, 3000000, 5000000]) := by
  refine ⟨?_, ?_, ?_⟩ <;> decide +kernel

end Timeline

end Liveness
