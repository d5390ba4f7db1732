import Liveness.Proofs.Station.Poison

/-!
# Creations that fail

A creation fails if its maker fails or panics, or if the registry was set up without
a maker.  The *transcript* of a run says of everything that was asked what it
answered and how the station stood before and after.  Whichever failed creations are
left out of a run, the transcript of what is left is the transcript of the run
without them (`Station.failures_leave_no_trace`).

Makers run under the lock of those who change the registry, and one that panics
leaves the lock poisoned.  That is all that a failure leaves behind, and no one heeds
it: what is asked of a station with its lock poisoned or not is answered alike and
leaves the same station, but for the lock again (`Station.unaffected_heed`).
-/

namespace Liveness

/-- Neither a device that was there nor a new one came of it. -/
def Creation.isFailure : Creation → Bool
  | .found _ | .made _ => false
  | .failed _ | .panicked _ => true

/-- The maker makes no device. -/
def Recipe.isFailure : Recipe → Bool
  | .make _ | .makeOnNewLink .. => false
  | .fail _ | .panic _ => true

namespace Hub

variable {h : Hub} {id : DeviceId} {d : Device}

theorem getOrCreateFrom_of_some (hd : h.registry.get? id = some d) (now : Int) (recipe : Recipe) :
    h.getOrCreateFrom now id (some recipe) = (some (.found d), h) := by
  rw [getOrCreateFrom, getOrCreate_of_some h recipe hd]

/-- A creation fails exactly if there is no device and the maker makes none. -/
theorem isFailure_getOrCreate (h : Hub) (now : Int) (id : DeviceId) (recipe : Recipe) :
    (h.getOrCreate now id recipe).1.isFailure = (!h.registry.contains id && recipe.isFailure) := by
  rw [Registry.contains_eq_isSome]
  cases hd : h.registry.get? id with
  | some d =>
    rw [getOrCreate_of_some h recipe hd]
    rfl
  | none =>
    rw [getOrCreate_of_none h recipe hd]
    cases recipe <;> rfl

/-- A creation that fails leaves everything as it is, but may leave the lock poisoned. -/
theorem getOrCreate_of_isFailure {now : Int} {recipe : Recipe} (hf : (h.getOrCreate now id recipe).1.isFailure) :
    ∃ b, (h.getOrCreate now id recipe).2 = h.withPoison b := by
  cases hd : h.registry.get? id with
  | some d =>
    rw [getOrCreate_of_some h recipe hd]
    exact ⟨h.poisoned, rfl⟩
  | none =>
    rw [isFailure_getOrCreate, Bool.and_eq_true] at hf
    rw [getOrCreate_of_none h recipe hd]
    cases recipe with
    | make p => exact absurd hf.2 Bool.false_ne_true
    | makeOnNewLink own attributes => exact absurd hf.2 Bool.false_ne_true
    | fail reason => exact ⟨h.poisoned, rfl⟩
    | panic message => exact ⟨true, rfl⟩

/-- A maker that panics leaves the lock poisoned. -/
theorem lock_of_panic (hd : h.registry.get? id = none) (now : Int) (message : String) :
    (h.getOrCreate now id (.panic message)).2.lock = .error (h.withPoison true) := by
  rw [getOrCreate_of_none h _ hd]
  rfl

end Hub

namespace Station

/-! ## Questions and answers -/

/-- What is asked of a station: an order, or a device that the registry makes in its own way. -/
inductive Ask where
  | order (o : Order)
  /-- The recipe is what the maker that the registry was set up with comes to when it is asked. -/
  | createFrom (id : DeviceId) (recipe? : Option Recipe)

/-- What is answered. -/
inductive Outcome where
  | done
  | reply (r : Hub.Reply)
  | creation (c : Option Creation)
  | swept (r : SweepReport)
  | settings (refusal : Option SettingsRefusal)
  | flag (b : Bool)
  | task (i : EntryId) (isCancelled : Bool)
  | simulation (i : SimulationId) (talking : Nat)
  | connect (r : ConnectResult)

/-- No factory, or a creation that failed. -/
def Outcome.isFailure : Outcome → Bool
  | .reply (.creation c) => c.isFailure
  | .creation c => c.all Creation.isFailure
  | _ => false

/-- The answer about work that was taken on. -/
def taken (r : EntryId × Station) : Outcome := .task r.1 (r.2.agenda.isCancelled r.1)

/-- The answer to a deed. -/
def answerDeed (s : Station) : Deed → Outcome
  | .onHub op => .reply (s.hub.reply s.now op)
  | .sweepNow => .swept s.sweepNow.1
  | .startSweeper => .flag s.startSweeper.1
  | .stopSweeper => .flag s.stopSweeper.1
  | .setSweeper settings =>
    match s.setSweeper settings with
    | .ok _ => .settings none
    | .error r => .settings (some r)
  | .every name touches panicsAt delay period =>
    taken (s.every name (.probe touches panicsAt) delay period)
  | .once name touches panicsAt delay => taken (s.once name (.probe touches panicsAt) delay)
  | .startReporter interval loads => taken (s.startReporter interval loads)
  | .startSimulation plan =>
    let (i, s) := s.startSimulation plan
    .simulation i (s.talking i)
  | .startTimer i c => .flag (c < s.floor.connectors.size && (s.startTimer i c).1)
  | .stopTimer i => .flag (s.stopTimer i).1
  | .cancel _ | .note .. | .stopSimulation _ | .addTimer _ | .setAutoConnect .. | .setTimerPeriod ..
  | .holdTimer _ | .dropTimer _ | .addConnector _ | .setConnected .. => .done

/-- The answer to what is asked. -/
def answer (s : Station) : Ask → Outcome
  | .order (.deed d) => s.answerDeed d
  | .order (.connect c) => .connect (s.connect c).1
  | .order _ => .done
  | .createFrom id recipe? => .creation (s.hub.getOrCreateFrom s.now id recipe?).1

/-- The station after what is asked. -/
def heed (s : Station) : Ask → Station
  | .order o => s.obey o
  | .createFrom id recipe? => (s.onHub (·.getOrCreateFrom s.now id recipe?)).2

/-- The station after all that is asked. -/
def heedAll (s : Station) (asks : List Ask) : Station := asks.foldl heed s

/-- Something that was asked, what it answered, and the station before and after. -/
structure Exchange where
  before : Station
  ask : Ask
  answer : Outcome
  after : Station

/-- The exchanges of a run. -/
def transcript : Station → List Ask → List Exchange
  | _, [] => []
  | s, a :: as => ⟨s, a, s.answer a, s.heed a⟩ :: transcript (s.heed a) as

/-- The exchanges without those failures whose places are marked. -/
def unfailing : (Nat → Bool) → List Exchange → List Exchange
  | _, [] => []
  | marked, x :: xs =>
    let rest := unfailing (fun k => marked (k + 1)) xs
    if marked 0 && x.answer.isFailure then rest else x :: rest

/-! ## The lock does not matter -/

variable {s : Station} {b : Bool}

/-- What is asked of a station with its lock poisoned or not: the answers are the same, and so are the stations after
it but for their locks. -/
structure Unaffected (s s' : Station) (a : Ask) : Prop where
  answer : s'.answer a = s.answer a
  after : ∃ b, s'.heed a = (s.heed a).withPoison b

/-- What a deed comes to on both, and the answer read off it. -/
theorem Unaffected.of_eq {α : Type} {s s' : Station} {a : Ask} {r r' : α × Station} {b : Bool}
    (hr : r' = (r.1, r.2.withPoison b)) (f : α × Station → Outcome) (hf : ∀ x s b, f (x, s.withPoison b) = f (x, s))
    (hanswer : s.answer a = f r) (hanswer' : s'.answer a = f r') (hafter : s.heed a = r.2)
    (hafter' : s'.heed a = r'.2) : Unaffected s s' a where
  answer := by rw [hanswer', hr, hf, hanswer]
  after := ⟨b, by rw [hafter', hr, hafter]⟩

theorem unaffected_deed (s : Station) (b : Bool) (d : Deed) : Unaffected s (s.withPoison b) (.order (.deed d)) := by
  cases d with
  | onHub op =>
    obtain ⟨hanswer, b', hhub⟩ := Hub.unaffected_step s.hub b s.now op
    refine ⟨congrArg Outcome.reply hanswer, b', ?_⟩
    change { s with floor := { s.floor with hub := (s.hub.withPoison b).step s.now op } } = _
    rw [show (s.hub.withPoison b).step s.now op = (s.hub.step s.now op).withPoison b' from hhub]
    rfl
  | sweepNow => exact .of_eq (sweepNow_withPoison s) (fun r => .swept r.1) (fun _ _ _ => rfl) rfl rfl rfl rfl
  | startSweeper => exact .of_eq (startSweeper_withPoison s) (fun r => .flag r.1) (fun _ _ _ => rfl) rfl rfl rfl rfl
  | stopSweeper => exact .of_eq (stopSweeper_withPoison s) (fun r => .flag r.1) (fun _ _ _ => rfl) rfl rfl rfl rfl
  | setSweeper settings =>
    have hset := setSweeper_withPoison (b := b) s settings
    constructor
    · simp only [answer, answerDeed, hset]
      cases s.setSweeper settings <;> rfl
    · refine ⟨b, ?_⟩
      simp only [heed, obey, perform, hset]
      cases s.setSweeper settings <;> rfl
  | every name touches panicsAt delay period =>
    exact .of_eq (every_withPoison s name (.probe touches panicsAt) delay period) taken (fun _ _ _ => rfl) rfl rfl rfl rfl
  | startReporter interval loads =>
    exact .of_eq (startReporter_withPoison s interval loads) taken (fun _ _ _ => rfl) rfl rfl rfl rfl
  | startSimulation plan =>
    exact .of_eq (startSimulation_withPoison s plan) (fun r => .simulation r.1 (r.2.talking r.1)) (fun _ _ _ => rfl)
      rfl rfl rfl rfl
  | startTimer i c =>
    have hstart := startTimer_withPoison (b := b) s i c
    constructor
    · simp only [answer, answerDeed, hstart]
      rfl
    · refine ⟨b, ?_⟩
      simp only [heed, obey, perform, hstart]
      rw [show (s.withPoison b).floor.connectors = s.floor.connectors from rfl]
      split <;> rfl
  | stopTimer i => exact .of_eq (stopTimer_withPoison s i) (fun r => .flag r.1) (fun _ _ _ => rfl) rfl rfl rfl rfl
  | cancel i =>
    refine ⟨rfl, b, ?_⟩
    simp only [heed, obey, perform]
    rw [show (s.withPoison b).isFree i = s.isFree i from rfl]
    split <;> rfl
  | setAutoConnect i on => exact ⟨rfl, b, setAutoConnect_withPoison s i on⟩
  | setTimerPeriod i period =>
    refine ⟨rfl, b, ?_⟩
    simp only [heed, obey, perform, setTimerPeriod]
    rw [show (s.withPoison b).timer i = s.timer i from rfl]
    split <;> rfl
  | dropTimer i => exact ⟨rfl, b, dropTimer_withPoison s i⟩
  | stopSimulation i =>
    refine ⟨rfl, b, ?_⟩
    simp only [heed, obey, perform, stopSimulation]
    rw [show (s.withPoison b).floor.simulations = s.floor.simulations from rfl]
    cases s.floor.simulations[i]? <;> rfl
  | once | note | addTimer | holdTimer | addConnector | setConnected => exact ⟨rfl, b, rfl⟩

theorem unaffected_heed (s : Station) (b : Bool) (a : Ask) : Unaffected s (s.withPoison b) a := by
  cases a with
  | createFrom id recipe? =>
    cases recipe? with
    | none => exact ⟨rfl, b, rfl⟩
    | some recipe =>
      obtain ⟨hanswer, b', hhub⟩ := Hub.unaffected_getOrCreate s.hub b s.now id recipe
      refine ⟨congrArg (fun c => Outcome.creation (some c)) hanswer, b', ?_⟩
      exact congrArg (fun h => { s with floor := { s.floor with hub := h } }) hhub
  | order o =>
    cases o with
    | deed d => exact unaffected_deed s b d
    | settle => exact ⟨rfl, b, settle_withPoison s⟩
    | advance amount => exact ⟨rfl, b, advance_withPoison s amount⟩
    | jump amount => exact ⟨rfl, b, jump_withPoison s amount⟩
    | shutdown => exact ⟨rfl, b, shutdown_withPoison s⟩
    | connect c => exact .of_eq (connect_withPoison s c) (fun r => .connect r.1) (fun _ _ _ => rfl) rfl rfl rfl rfl

/-! ## Failures -/

/-- The only deeds that fail are creations. -/
theorem perform_of_isFailure {d : Deed} (hf : (s.answerDeed d).isFailure) : ∃ b, s.perform d = s.withPoison b := by
  cases d with
  | onHub op =>
    cases op with
    | getOrCreate id recipe =>
      obtain ⟨b, hhub⟩ := Hub.getOrCreate_of_isFailure (h := s.hub) hf
      exact ⟨b, congrArg (fun h => { s with floor := { s.floor with hub := h } }) hhub⟩
    | _ => exact absurd hf Bool.false_ne_true
  | setSweeper settings =>
    refine absurd hf ?_
    simp only [answerDeed]
    split <;> exact Bool.false_ne_true
  | _ => exact absurd hf Bool.false_ne_true

/-- What fails leaves the station as it is, but for the lock. -/
theorem heed_of_isFailure {a : Ask} (hf : (s.answer a).isFailure) : ∃ b, s.heed a = s.withPoison b := by
  cases a with
  | order o =>
    cases o with
    | deed d => exact perform_of_isFailure hf
    | _ => exact absurd hf Bool.false_ne_true
  | createFrom id recipe? =>
    cases recipe? with
    | none => exact ⟨s.hub.poisoned, rfl⟩
    | some recipe =>
      obtain ⟨b, hhub⟩ := Hub.getOrCreate_of_isFailure (h := s.hub) hf
      exact ⟨b, congrArg (fun h => { s with floor := { s.floor with hub := h } }) hhub⟩

/-- An exchange, the lock apart. -/
def Exchange.unlocked (e : Exchange) : Exchange :=
  { e with before := e.before.withPoison false, after := e.after.withPoison false }

/-- Two runs of the same from stations that differ in their locks only. -/
theorem transcript_withPoison (s : Station) (b : Bool) (asks : List Ask) :
    ((s.withPoison b).transcript asks).map Exchange.unlocked = (s.transcript asks).map Exchange.unlocked ∧
      ((s.withPoison b).heedAll asks).withPoison false = (s.heedAll asks).withPoison false := by
  induction asks generalizing s b with
  | nil => exact ⟨rfl, rfl⟩
  | cons a as ih =>
    obtain ⟨hanswer, b', hafter⟩ := unaffected_heed s b a
    obtain ⟨htranscript, hend⟩ := ih (s.heed a) b'
    constructor
    · simp only [transcript, List.map_cons, hafter, hanswer, htranscript]
      rfl
    · change (((s.withPoison b).heed a).heedAll as).withPoison false = _
      rw [hafter]
      exact hend

/-- Without marked failures, a transcript is that of a run of its own, with the same end, the lock apart. -/
theorem transcript_unfailing (s : Station) (asks : List Ask) (marked : Nat → Bool) :
    let kept := unfailing marked (s.transcript asks)
    (s.transcript (kept.map (·.ask))).map Exchange.unlocked = kept.map Exchange.unlocked ∧
      (s.heedAll (kept.map (·.ask))).withPoison false = (s.heedAll asks).withPoison false := by
  induction asks generalizing s marked with
  | nil => exact ⟨rfl, rfl⟩
  | cons a as ih =>
    obtain ⟨htranscript, hend⟩ := ih (s.heed a) fun k => marked (k + 1)
    simp only [transcript, unfailing]
    split
    · rename_i hf
      -- the run goes on where the failure left it, which is where it was before but for the lock
      obtain ⟨b, hafter⟩ : ∃ b, s.heed a = s.withPoison b := heed_of_isFailure (Bool.and_eq_true_iff.mp hf).2
      obtain ⟨hsame, hsame'⟩ := transcript_withPoison s b
        ((unfailing (fun k => marked (k + 1)) ((s.heed a).transcript as)).map (·.ask))
      rw [← hafter] at hsame hsame'
      exact ⟨hsame.symm.trans htranscript, hsame'.symm.trans hend⟩
    · rw [List.map_cons]
      refine ⟨?_, hend⟩
      rw [transcript, List.map_cons, List.map_cons, htranscript]

/-- Creations that fail leave no trace but a lock that may be poisoned, and no one heeds it.  Whichever of them are
left out of a run, everything else that was asked is answered alike and finds and leaves the very same station, but for
the lock: its registry with all clocks, the notices, events and logs so far, and all work that is to come.  An id that
is there is found whatever its maker would come to, so that its creation cannot fail.  A maker that panics does
leave the lock poisoned, and every other call finds it so. -/
theorem failures_leave_no_trace (s : Station) (asks : List Ask) :
    (∀ marked : Nat → Bool,
      let kept := unfailing marked (s.transcript asks)
      (s.transcript (kept.map (·.ask))).map Exchange.unlocked = kept.map Exchange.unlocked ∧
        (s.heedAll (kept.map (·.ask))).withPoison false = (s.heedAll asks).withPoison false) ∧
    (∀ (h : Hub) (now : Int) (id : DeviceId) (d : Device) (recipe : Recipe), h.registry.get? id = some d →
      h.getOrCreate now id recipe = (.found d, h) ∧
        h.getOrCreateFrom now id (some recipe) = (some (.found d), h)) ∧
    ∀ (h : Hub) (now : Int) (id : DeviceId) (message : String), h.registry.get? id = none →
      (h.getOrCreate now id (.panic message)).2.lock = .error (h.withPoison true) :=
  ⟨transcript_unfailing s asks, fun h now _ _ recipe hd =>
    ⟨Hub.getOrCreate_of_some h recipe hd, Hub.getOrCreateFrom_of_some hd now recipe⟩,
    fun _ now _ message hd => Hub.lock_of_panic hd now message⟩

/-- A maker panics while a device is there already.  Another device comes all the same and the first one goes, and both
are answered as they are without the failure. -/
theorem failures_leave_no_trace_of_panic :
    let s := (opened {}).heed (.order (.deed (.onHub (.put { id := "a", link := 0 }))))
    let asks : List Ask := [.createFrom "b" (some (.panic "no driver")), .order (.advance (.ofMillis 5)),
      .createFrom "b" (some (.make { id := "b", link := 1 })), .order (.deed (.onHub (.remove "a" .expired)))]
    let kept := unfailing (fun _ => true) (s.transcript asks)
    s.hub.registry.get? "b" = none ∧
      (s.hub.getOrCreate s.now "b" (.panic "no driver")).2.lock = .error (s.hub.withPoison true) ∧
      (s.heedAll asks).hub.poisoned = true ∧ (s.heedAll asks).hub.registry.ids = ["b"] ∧ kept.length = 3 ∧
      (s.transcript (kept.map (·.ask))).map Exchange.unlocked = kept.map Exchange.unlocked := by
  intro s asks kept
  have hnone : s.hub.registry.get? "b" = none := by decide +kernel
  obtain ⟨hsame, -, hpanic⟩ := failures_leave_no_trace s asks
  exact ⟨hnone, hpanic s.hub s.now "b" "no driver" hnone, by decide +kernel, by decide +kernel, by decide +kernel,
    (hsame fun _ => true).1⟩

end Station

end Liveness
