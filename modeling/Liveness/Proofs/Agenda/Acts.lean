import Liveness.Proofs.Agenda.Entries

/-!
# The acts of a timeline

Settling the work of an agenda and moving its clock come down to *acts*: a piece
of work wakes up, an errand begins, the clock moves.  `settleActs`, `advanceActs`
and `jumpActs` list the acts, and playing them is settling, advancing and jumping.
Each act comes in its turn (`Timeline.InTurn`): work wakes up only when it is
ready, and the clock moves by whole milliseconds and to none past which work should have
woken up.
After an advance nothing is ready (`Timeline.Idle`), since the number of whole
milliseconds on the way bounds the instants at which work wakes up.
-/

namespace Liveness

variable {Job σ : Type}

/-- A worker whose errands do not stop the clock: what goes on later takes some time, and an errand
asks for no errands. -/
structure Worker.Orderly (w : Worker Job σ) : Prop where
  patient : ∀ job runs now x d job', (some d, job') ∈ (w.run job runs now x).2.waits → 0 < d.nanos
  terse : ∀ job runs now x, ∀ job' ∈ (w.run job runs now x).2.errands,
    ∀ runs' now' x', (w.run job' runs' now' x').2.errands = []

namespace Timeline

/-- One thing that happens as time goes by. -/
inductive Act where
  | wake (i : EntryId)
  /-- The errand begins that was asked for first. -/
  | errand
  /-- The clock moves by whole milliseconds, but to none past which work wakes up. -/
  | clock (now : Int)
  /-- The clock moves in one go. -/
  | leap (now : Int)
deriving DecidableEq

variable (w : Worker Job σ)

/-- The errand begins that was asked for first. -/
def beginNext (t : Timeline Job σ) : Timeline Job σ :=
  match t.agenda.errands with
  | [] => t
  | job :: rest => begin w { t with agenda := { t.agenda with errands := rest } } job

def act (t : Timeline Job σ) : Act → Timeline Job σ
  | .wake i => wake w t i
  | .errand => beginNext w t
  | .clock now | .leap now => t.setNow now

/-- Acts one after the other. -/
def play (t : Timeline Job σ) (acts : List Act) : Timeline Job σ := acts.foldl (act w) t

theorem play_append (t : Timeline Job σ) (as bs : List Act) :
    play w t (as ++ bs) = play w (play w t as) bs := List.foldl_append

/-- Some work waits for an instant. -/
def Waits (t : Timeline Job σ) (i : EntryId) (due : Int) : Prop :=
  ∃ e, t.agenda.entries[i]? = some e ∧ e.due? = some due

/-- An act that is in place. -/
def May (t : Timeline Job σ) : Act → Prop
  | .wake i => ∀ due, t.Waits i due → Cadence.isReady due t.agenda.now
  | .errand => True
  | .clock now => t.agenda.now ≤ now ∧ 1000000 ∣ now - t.agenda.now ∧ t.agenda.errands = [] ∧
      ∀ i due, t.Waits i due → Instant.floorMilli now ≤ Instant.ceilMilli due
  | .leap now => t.agenda.now ≤ now ∧ t.agenda.errands = []

/-- Acts each of which is in place when its turn comes. -/
def InTurn : Timeline Job σ → List Act → Prop
  | _, [] => True
  | t, a :: as => t.May a ∧ InTurn (act w t a) as

theorem inTurn_append (t : Timeline Job σ) (as bs : List Act) :
    InTurn w t (as ++ bs) ↔ InTurn w t as ∧ InTurn w (play w t as) bs := by
  induction as generalizing t with
  | nil => exact ⟨fun h => ⟨trivial, h⟩, fun h => h.2⟩
  | cons a as ih =>
    rw [List.cons_append]
    exact ⟨fun h => ⟨⟨h.1, ((ih _).mp h.2).1⟩, ((ih _).mp h.2).2⟩,
      fun h => ⟨h.1.1, (ih _).mpr ⟨h.1.2, h.2⟩⟩⟩

/-! ## The lists of acts -/

def settleActs (t : Timeline Job σ) : List Act :=
  t.agenda.ready.map .wake ++ (t.agenda.ready.foldl (wake w) t).agenda.errands.map fun _ => .errand

/-- The clock comes to a whole millisecond. -/
def comeAct (t : Timeline Job σ) (milli : Int) : Act := .clock (Instant.arrive milli t.agenda.now)

def advanceActs (stop : Int) : Nat → Timeline Job σ → List Act
  | 0, t => [t.comeAct stop]
  | n + 1, t =>
    settleActs w t ++
      match (settle w t).agenda.nextWake with
      | some wake =>
        if wake ≤ stop then (settle w t).comeAct wake :: advanceActs stop n ((settle w t).comeTo wake)
        else [(settle w t).comeAct stop]
      | none => [(settle w t).comeAct stop]

def jumpActs (amount : Span) (t : Timeline Job σ) : List Act :=
  let now := amount.after (settle w t).agenda.now
  settleActs w t ++ .leap now :: settleActs w ((settle w t).setNow now)

/-- The clock leaps only in a jump. -/
theorem leap_not_mem_settleActs (t : Timeline Job σ) (now : Int) : .leap now ∉ settleActs w t := by
  intro hmem
  rcases List.mem_append.mp hmem with hmem | hmem
  · obtain ⟨i, -, heq⟩ := List.mem_map.mp hmem
    cases heq
  · obtain ⟨job, -, heq⟩ := List.mem_map.mp hmem
    cases heq

theorem leap_not_mem_advanceActs (stop : Int) (n : Nat) (t : Timeline Job σ) (now : Int) :
    .leap now ∉ advanceActs w stop n t := by
  induction n generalizing t with
  | zero =>
    intro hmem
    cases List.mem_singleton.mp hmem
  | succ n ih =>
    intro hmem
    rcases List.mem_append.mp hmem with hmem | hmem
    · exact leap_not_mem_settleActs w t now hmem
    · split at hmem
      · split at hmem
        · rcases List.mem_cons.mp hmem with heq | hmem
          · cases heq
          · exact ih _ hmem
        · cases List.mem_singleton.mp hmem
      · cases List.mem_singleton.mp hmem

/-- The errands that are to begin, in front of those that were asked for since. -/
def withErrands (t : Timeline Job σ) (jobs : List Job) : Timeline Job σ :=
  { t with agenda := { t.agenda with errands := jobs ++ t.agenda.errands } }

theorem foldl_cancel_errands (a : Agenda Job) (jobs : List Job) (is : List EntryId) :
    is.foldl Agenda.cancel { a with errands := jobs } =
      { is.foldl Agenda.cancel a with errands := jobs } := by
  induction is generalizing a with
  | nil => rfl
  | cons i is ih => exact ih (a.cancel i)

theorem fulfil_errands (a : Agenda Job) (jobs : List Job) (r : Request Job) :
    Agenda.fulfil { a with errands := jobs } r = { a.fulfil r with errands := jobs ++ r.errands } := by
  have hentries : (Agenda.fulfil { a with errands := jobs } r).entries = (a.fulfil r).entries := by
    refine Array.toList_inj.mp ?_
    rw [Agenda.toList_fulfil, Agenda.toList_fulfil, foldl_cancel_errands]
    rfl
  rw [Agenda.fulfil_eq, hentries, Agenda.fulfil_eq a]

theorem begin_withErrands (t : Timeline Job σ) (jobs : List Job) (job : Job) :
    begin w (t.withErrands jobs) job = (begin w t job).withErrands jobs := by
  simp only [begin, withErrands, fulfil_errands, Agenda.errands_fulfil, List.append_assoc]

/-- The errands begin one after the other, each asked for before it began. -/
theorem play_withErrands (t : Timeline Job σ) (jobs : List Job) :
    play w (t.withErrands jobs) (jobs.map fun _ => .errand) = jobs.foldl (begin w) t := by
  induction jobs generalizing t with
  | nil => rfl
  | cons job jobs ih =>
    have hfirst : act w (t.withErrands (job :: jobs)) .errand = (begin w t job).withErrands jobs := by
      rw [← begin_withErrands]
      rfl
    change play w (act w (t.withErrands (job :: jobs)) .errand) _ = _
    rw [hfirst]
    exact ih _

theorem play_errands (t : Timeline Job σ) :
    play w t (t.agenda.errands.map fun _ => .errand) = beginErrands w t := by
  have hsame : { t with agenda := { t.agenda with errands := [] } }.withErrands t.agenda.errands = t := by
    simp [withErrands]
  rw [beginErrands, ← play_withErrands, hsame]

theorem play_settleActs (t : Timeline Job σ) : play w t (settleActs w t) = settle w t := by
  unfold settleActs settle
  rw [play_append]
  have hwakes : play w t (t.agenda.ready.map .wake) = t.agenda.ready.foldl (wake w) t := List.foldl_map
  rw [hwakes, play_errands]

theorem play_advanceActs (stop : Int) (n : Nat) (t : Timeline Job σ) :
    play w t (advanceActs w stop n t) = advanceTo w stop n t := by
  induction n generalizing t with
  | zero => rfl
  | succ n ih =>
    rw [advanceActs, advanceTo, play_append, play_settleActs]
    cases (settle w t).agenda.nextWake with
    | none => rfl
    | some wake =>
      by_cases hwake : wake ≤ stop
      · simp only [hwake, if_true]
        exact ih _
      · simp only [hwake, if_false]
        rfl

theorem play_jumpActs (amount : Span) (t : Timeline Job σ) :
    play w t (jumpActs w amount t) = jump w amount t := by
  unfold jumpActs jump
  rw [play_append, play_settleActs]
  exact play_settleActs w _

end Timeline

end Liveness
