import Liveness.Proofs.Agenda.Twins
import Liveness.Proofs.Hub.Poison
import Liveness.Proofs.Station.Run

/-!
# Stations whose lock is poisoned

The work of a station does to a hub with a poisoned lock what it does to any other
(`Floor.keeps_withPoison`), so time goes by in the same way for both, and deeds come to
the same (`Station.perform_withPoison`).
-/

namespace Liveness

namespace Floor

/-- The floor with the lock of its hub poisoned or not. -/
def withPoison (f : Floor) (b : Bool) : Floor := { f with hub := f.hub.withPoison b }

variable {b : Bool}

theorem deliver_withPoison (now : Int) (h : Hub) (p : Peer) :
    deliver now (h.withPoison b) p = ((deliver now h p).1, (deliver now h p).2.withPoison b) := by
  unfold deliver
  rw [show (h.withPoison b).registry = h.registry from rfl]
  cases h.registry.get? p.id with
  | none =>
    dsimp only
    rw [show (h.withPoison b).isActive p.link = h.isActive p.link from rfl]
    split
    · rw [Hub.closeLink, Hub.callLink_withPoison, Hub.onInactive_withPoison]
      rfl
    · rfl
  | some d =>
    dsimp only
    split
    · rfl
    · rw [show (h.withPoison b).touch now p.id = ((h.touch now p.id).1, (h.touch now p.id).2.withPoison b) from rfl]
      generalize h.touch now p.id = r
      unfold Hub.recordSequence
      dsimp only
      rw [show (r.2.withPoison b).registry = r.2.registry from rfl]
      cases r.2.registry.get? p.id <;> rfl

theorem traffic_withPoison (f : Floor) (now : Int) (i : SimulationId) :
    (f.withPoison b).traffic now i = (f.traffic now i).withPoison b := by
  unfold traffic
  rw [show (f.withPoison b).simulations = f.simulations from rfl]
  cases f.simulations[i]? with
  | none => rfl
  | some sim =>
    simp only [← Array.foldl_toList]
    rw [show (f.withPoison b).hub = f.hub.withPoison b from rfl, Hub.foldl_snd_withPoison]
    · rfl
    · intro peers h p
      dsimp only
      rw [deliver_withPoison]

theorem silence_withPoison (f : Floor) (now : Int) (i : SimulationId) :
    (f.withPoison b).silence now i = (f.silence now i).withPoison b := by
  unfold silence
  rw [show (f.withPoison b).simulations = f.simulations from rfl]
  cases f.simulations[i]? with
  | none => rfl
  | some sim =>
    dsimp only
    rw [show (f.withPoison b).hub = f.hub.withPoison b from rfl, Hub.foldl_withPoison fun h p => rfl]
    rfl

theorem release_withPoison (f : Floor) (i : TimerId) :
    (f.withPoison b).release i = ((f.release i).1.withPoison b, (f.release i).2) := by
  unfold release
  rw [show (f.withPoison b).timers = f.timers from rfl]
  cases f.timers[i]? with
  | none => rfl
  | some t =>
    dsimp only
    split <;> rfl

theorem conclude_withPoison (f : Floor) (now : Int) (c : ConnectorId) (attempt : Attempt) :
    (f.withPoison b).conclude now c attempt =
      ((f.conclude now c attempt).1, (f.conclude now c attempt).2.withPoison b) := by
  unfold conclude
  rw [show (f.withPoison b).connectors = f.connectors from rfl]
  cases f.connectors[c]? with
  | none => rfl
  | some k =>
    dsimp only
    cases (k.finish attempt).1 <;> cases attempt <;> rfl

theorem startAttempt_withPoison (f : Floor) (now : Int) (c : ConnectorId) :
    (f.withPoison b).startAttempt now c = ((f.startAttempt now c).1, (f.startAttempt now c).2.1,
      (f.startAttempt now c).2.2.withPoison b) := by
  unfold startAttempt
  rw [show (f.withPoison b).connectors = f.connectors from rfl]
  cases f.connectors[c]? <;> rfl

theorem answer_withPoison (f : Floor) (now : Int) (i : TimerId) (c : ConnectorId) (number : Nat) (attempt : Attempt) :
    (f.withPoison b).answer now i c number attempt =
      ((f.answer now i c number attempt).1.withPoison b, (f.answer now i c number attempt).2) := by
  unfold answer
  rw [conclude_withPoison]
  generalize f.conclude now c attempt = r
  obtain ⟨result, f₁⟩ := r
  dsimp only
  cases result.error? with
  | none =>
    dsimp only
    rw [release_withPoison]
  | some text =>
    dsimp only
    rw [show (f₁.withPoison b).log now (.attemptFailed number text) =
      (f₁.log now (.attemptFailed number text)).withPoison b from rfl, release_withPoison]

theorem check_withPoison (f : Floor) (now : Int) (i : TimerId) (c : ConnectorId) :
    (f.withPoison b).check now i c = ((f.check now i c).1.withPoison b, (f.check now i c).2) := by
  unfold check
  rw [show (f.withPoison b).timers = f.timers from rfl, show (f.withPoison b).connectors = f.connectors from rfl]
  cases f.timers[i]? with
  | none => rfl
  | some t =>
    cases f.connectors[c]? with
    | none => rfl
    | some k =>
      dsimp only
      split
      · rfl
      · cases k.ask.1 with
        | none => rfl
        | some up =>
          cases up with
          | false => rfl
          | true => cases t.task <;> rfl

theorem dial_withPoison (f : Floor) (now : Int) (i : TimerId) (c : ConnectorId) (number : Nat) :
    (f.withPoison b).dial now i c number = ((f.dial now i c number).1.withPoison b, (f.dial now i c number).2) := by
  unfold dial
  rw [startAttempt_withPoison]
  dsimp only
  split
  · rfl
  · split
    · exact answer_withPoison _ now i c number _
    · rfl

theorem run_withPoison (job : Job) (runs : List Run) (now : Int) (f : Floor) :
    run job runs now (f.withPoison b) = ((run job runs now f).1.withPoison b, (run job runs now f).2) := by
  cases job with
  | sweep limit =>
    simp only [run]
    rw [show (f.withPoison b).hub = f.hub.withPoison b from rfl, Hub.sweep_withPoison]
    rfl
  | report tally loads =>
    simp only [run, report, Hub.writeReport_eq]
    rfl
  | traffic i => exact Prod.ext (traffic_withPoison f now i) rfl
  | silence i => exact Prod.ext (silence_withPoison f now i) rfl
  | check i c => exact check_withPoison f now i c
  | dial i c number => exact dial_withPoison f now i c number
  | answer i c number attempt => exact answer_withPoison f now i c number attempt
  | probe touches panicsAt => cases touches <;> rfl
  | note name => rfl

theorem abandon_withPoison (job : Job) (now : Int) (f : Floor) :
    abandon job now (f.withPoison b) = (abandon job now f).withPoison b := by
  cases job with
  | answer i c number attempt =>
    simp only [abandon]
    exact (Prod.ext_iff.mp
      (release_withPoison { f with connectors := f.connectors.modify c Connector.giveUp } i)).1
  | _ => rfl

/-- No work heeds the lock. -/
theorem keeps_withPoison (b : Bool) : worker.Keeps (fun _ => True) fun f f' => f' = f.withPoison b where
  request := by
    rintro job runs now f _ - rfl
    exact (Prod.ext_iff.mp (run_withPoison job runs now f)).2
  errands := fun _ _ _ _ _ _ _ => trivial
  waits := fun _ _ _ _ _ _ _ => trivial
  host := by
    rintro job runs now f _ - rfl
    exact (Prod.ext_iff.mp (run_withPoison job runs now f)).1
  abandon := by
    rintro job now f _ - rfl
    exact abandon_withPoison job now f

end Floor

namespace Station

/-- The station with the lock of its registry poisoned or not. -/
def withPoison (s : Station) (b : Bool) : Station := { s with floor := s.floor.withPoison b }

variable {b : Bool}

/-- Time goes by as it would under another lock. -/
theorem onTimeline_withPoison {g : Timeline Job Floor → Timeline Job Floor}
    (hg : ∀ R, Floor.worker.Keeps (fun _ => True) R →
      ∀ t t', Timeline.Twins (fun _ => True) R t t' → Timeline.Twins (fun _ => True) R (g t) (g t')) (s : Station) :
    (s.withPoison b).onTimeline g = (s.onTimeline g).withPoison b := by
  have hstart : Timeline.Twins (fun _ => True) (fun f f' => f' = f.withPoison b) s.timeline
      (s.withPoison b).timeline := ⟨rfl, fun _ _ _ => trivial, fun _ _ => trivial, rfl⟩
  obtain ⟨hagenda, -, -, hhost⟩ := hg _ (Floor.keeps_withPoison b) _ _ hstart
  change Station.mk (g (s.withPoison b).timeline).agenda (g (s.withPoison b).timeline).host s.sweeper = _
  rw [hagenda, hhost]
  rfl

theorem settle_withPoison (s : Station) : (s.withPoison b).settle = s.settle.withPoison b :=
  onTimeline_withPoison (fun _ hR _ _ ht => ht.settle hR) s

theorem advance_withPoison (s : Station) (amount : Span) :
    (s.withPoison b).advance amount = (s.advance amount).withPoison b :=
  onTimeline_withPoison (fun _ hR _ _ ht => ht.advance hR amount) s

theorem jump_withPoison (s : Station) (amount : Span) :
    (s.withPoison b).jump amount = (s.jump amount).withPoison b :=
  onTimeline_withPoison (fun _ hR _ _ ht => ht.jump hR amount) s

theorem shutdown_withPoison (s : Station) : (s.withPoison b).shutdown = s.shutdown.withPoison b := by
  unfold shutdown
  rw [onTimeline_withPoison (fun _ hR _ _ ht => ht.shutdown hR) s, settle_withPoison]

theorem connect_withPoison (s : Station) (c : ConnectorId) :
    (s.withPoison b).connect c = ((s.connect c).1, (s.connect c).2.withPoison b) := by
  unfold connect
  rw [show (s.withPoison b).floor = s.floor.withPoison b from rfl, show (s.withPoison b).now = s.now from rfl,
    Floor.startAttempt_withPoison]
  generalize s.floor.startAttempt s.now c = r
  obtain ⟨attempt, latency, f⟩ := r
  dsimp only
  have hwaited : (if latency.isZero then { s.withPoison b with floor := f.withPoison b }
      else { s.withPoison b with floor := f.withPoison b }.advance latency) =
        (if latency.isZero then { s with floor := f } else { s with floor := f }.advance latency).withPoison b := by
    split
    · rfl
    · exact advance_withPoison { s with floor := f } latency
  rw [hwaited]
  generalize (if latency.isZero then { s with floor := f } else { s with floor := f }.advance latency) = s₁
  rw [show (s₁.withPoison b).floor = s₁.floor.withPoison b from rfl, show (s₁.withPoison b).now = s₁.now from rfl,
    Floor.conclude_withPoison]
  rfl

/-! ## Deeds -/

theorem every_withPoison (s : Station) (name : String) (job : Job) (delay period : Span) :
    (s.withPoison b).every name job delay period =
      ((s.every name job delay period).1, (s.every name job delay period).2.withPoison b) := by
  unfold every
  split <;> rfl

theorem sweepNow_withPoison (s : Station) :
    (s.withPoison b).sweepNow = (s.sweepNow.1, s.sweepNow.2.withPoison b) := by
  unfold sweepNow sweepAsOf onHub Floor.onHub
  simp only [show (s.withPoison b).floor.hub = s.floor.hub.withPoison b from rfl, Hub.sweep_withPoison]
  rfl

theorem startSweeper_withPoison (s : Station) :
    (s.withPoison b).startSweeper = (s.startSweeper.1, s.startSweeper.2.withPoison b) := by
  unfold startSweeper
  rw [show (s.withPoison b).isSweeping = s.isSweeping from rfl]
  split
  · rfl
  · dsimp only
    rw [show (s.withPoison b).sweeper = s.sweeper from rfl, every_withPoison]
    generalize s.every "liveness-sweep" _ _ _ = r
    dsimp only
    rw [show (r.2.withPoison b).agenda = r.2.agenda from rfl]
    split <;> rfl

theorem stopSweeper_withPoison (s : Station) :
    (s.withPoison b).stopSweeper = (s.stopSweeper.1, s.stopSweeper.2.withPoison b) := by
  unfold stopSweeper
  rw [show (s.withPoison b).sweeper = s.sweeper from rfl, show (s.withPoison b).agenda = s.agenda from rfl]
  cases s.sweeper.task with
  | none => rfl
  | some task =>
    dsimp only
    split <;> rfl

theorem setSweeper_withPoison (s : Station) (settings : SweepSettings) :
    (s.withPoison b).setSweeper settings = (s.setSweeper settings).map (·.withPoison b) := by
  unfold setSweeper
  rw [show (s.withPoison b).isSweeping = s.isSweeping from rfl]
  cases settings.validate with
  | error e => rfl
  | ok u =>
    dsimp only
    split <;> rfl

theorem stopTimer_withPoison (s : Station) (i : TimerId) :
    (s.withPoison b).stopTimer i = ((s.stopTimer i).1, (s.stopTimer i).2.withPoison b) := by
  unfold stopTimer
  rw [show (s.withPoison b).timer i = s.timer i from rfl]
  cases (s.timer i).task <;> rfl

theorem startTimer_withPoison (s : Station) (i : TimerId) (c : ConnectorId) :
    (s.withPoison b).startTimer i c = ((s.startTimer i c).1, (s.startTimer i c).2.withPoison b) := by
  unfold startTimer
  rw [show (s.withPoison b).timer i = s.timer i from rfl,
    show (s.withPoison b).isTimerScheduled i = s.isTimerScheduled i from rfl]
  dsimp only
  split
  · rfl
  · rw [every_withPoison]
    generalize s.every "reconnect" _ _ _ = r
    dsimp only
    rw [show (r.2.withPoison b).agenda = r.2.agenda from rfl]
    split <;> rfl

theorem setAutoConnect_withPoison (s : Station) (i : TimerId) (on : Bool) :
    (s.withPoison b).setAutoConnect i on = (s.setAutoConnect i on).withPoison b := by
  unfold setAutoConnect
  rw [show (s.withPoison b).timer i = s.timer i from rfl]
  split
  · rfl
  · dsimp only
    split
    · rfl
    · exact (Prod.ext_iff.mp (stopTimer_withPoison (s.modifyTimer i _) i)).2

theorem dropTimer_withPoison (s : Station) (i : TimerId) :
    (s.withPoison b).dropTimer i = (s.dropTimer i).withPoison b := by
  unfold dropTimer
  rw [show (s.withPoison b).modifyTimer i (fun t => { t with handles := t.handles - 1 }) =
    (s.modifyTimer i fun t => { t with handles := t.handles - 1 }).withPoison b from rfl]
  generalize s.modifyTimer i _ = s₁
  dsimp only
  rw [show (s₁.withPoison b).timer i = s₁.timer i from rfl]
  split
  · exact (Prod.ext_iff.mp (stopTimer_withPoison s₁ i)).2
  · rfl

theorem openPeers_withPoison (h : Hub) (now : Int) (count : Nat) :
    openPeers (h.withPoison b) now count = ((openPeers h now count).1, (openPeers h now count).2.withPoison b) := by
  unfold openPeers
  rw [Hub.foldl_snd_withPoison fun _ _ _ => rfl]
  dsimp only
  simp only [← Array.foldl_toList]
  rw [Hub.foldl_withPoison fun h p => (Prod.ext_iff.mp (Hub.onActive_withPoison h now p.id p.link)).2]

theorem startSimulation_withPoison (s : Station) (plan : SimulationPlan) :
    (s.withPoison b).startSimulation plan = ((s.startSimulation plan).1, (s.startSimulation plan).2.withPoison b) := by
  have hopened : (s.withPoison b).onHub (openPeers · s.now plan.devices) =
      ((s.onHub (openPeers · s.now plan.devices)).1, (s.onHub (openPeers · s.now plan.devices)).2.withPoison b) := by
    simp only [onHub, Floor.onHub]
    rw [show (s.withPoison b).floor.hub = s.hub.withPoison b from rfl, openPeers_withPoison]
    rfl
  unfold startSimulation
  rw [show (s.withPoison b).now = s.now from rfl, hopened]
  generalize s.onHub (openPeers · s.now plan.devices) = r
  dsimp only
  rw [show (s.withPoison b).floor.simulations = s.floor.simulations from rfl, every_withPoison]
  rfl

theorem startReporter_withPoison (s : Station) (interval : Span) (loads : Nat → Load) :
    (s.withPoison b).startReporter interval loads =
      ((s.startReporter interval loads).1, (s.startReporter interval loads).2.withPoison b) := by
  unfold startReporter
  rw [show (s.withPoison b).onHub Hub.addTally =
    ((s.onHub Hub.addTally).1, (s.onHub Hub.addTally).2.withPoison b) from rfl]
  generalize s.onHub Hub.addTally = r
  dsimp only
  rw [show (r.2.withPoison b).log (.reporterStarted interval) =
    (r.2.log (.reporterStarted interval)).withPoison b from rfl, every_withPoison]

end Station

end Liveness
