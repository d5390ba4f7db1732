import Liveness.Proofs.Station.Turns

/-!
# Who calls the hub of a station

All that happens to the hub of a station in an act is calls, made at the time of
the act: by a caller, by a sweep that a caller commands, by the sweeper's schedule,
or by the other services, which mostly write to the log.  `Act.visits` lists
them, and `Station.hub_play` says that making the calls of a history is all that
a run does to the hub.
-/

namespace Liveness

namespace Hub

/-- The lines that went to the log between two hubs. -/
def linesSince (h h' : Hub) : List LogLine :=
  (h'.trace.toList.drop h.trace.size).filterMap fun s =>
    match s.what with
    | .logged line => some line
    | _ => none

/-- Nothing happens but that lines go to the log. -/
def Logs (now : Int) (h h' : Hub) : Prop :=
  ∃ lines : List LogLine, h' = lines.foldl (fun h line => h.log now line) h

variable {now : Int} {h h₁ h₂ h₃ : Hub}

theorem Logs.refl (h : Hub) : Logs now h h := ⟨[], rfl⟩

theorem logs_log (h : Hub) (line : LogLine) : Logs now h (h.log now line) := ⟨[line], rfl⟩

theorem Logs.trans (h : Logs now h₁ h₂) (h' : Logs now h₂ h₃) : Logs now h₁ h₃ := by
  obtain ⟨lines, rfl⟩ := h
  obtain ⟨lines', rfl⟩ := h'
  exact ⟨lines ++ lines', List.foldl_append.symm⟩

theorem logs_foldl {α : Type} {f : Hub → α → Hub} (hf : ∀ h x, Logs now h (f h x)) (xs : List α) (h : Hub) :
    Logs now h (xs.foldl f h) := by
  induction xs generalizing h with
  | nil => exact .refl h
  | cons x xs ih => exact (hf h x).trans (ih _)

theorem toList_trace_foldl_log (lines : List LogLine) (h : Hub) :
    (lines.foldl (fun h line => h.log now line) h).trace.toList =
      h.trace.toList ++ lines.map fun line => ⟨now, .logged line⟩ := by
  induction lines generalizing h with
  | nil => simp
  | cons line lines ih =>
    rw [List.foldl_cons, ih]
    simp [log, emit]

/-- The lines that went to the log are all that happened, if nothing else did. -/
theorem run_linesSince (hlogs : Logs now h h₁) :
    h.run ((h.linesSince h₁).map fun line => (now, .log line)) = h₁ := by
  obtain ⟨lines, rfl⟩ := hlogs
  have hlines : h.linesSince (lines.foldl (fun h line => h.log now line) h) = lines := by
    rw [linesSince, toList_trace_foldl_log, List.drop_left' (by simp), List.filterMap_map]
    exact List.filterMap_some
  rw [hlines, run, List.foldl_map]
  rfl

end Hub

/-- Who calls the hub of a station. -/
inductive Source where
  | caller
  /-- A sweep at a caller's command. -/
  | command
  /-- A sweep of the sweeper's schedule. -/
  | schedule
  | service
deriving DecidableEq

/-- A call on the hub, and who makes it. -/
abbrev Visit := Source × Hub.Op

/-- Lines that a service writes to the log. -/
def Hub.lines (h h' : Hub) : List Visit := (h.linesSince h').map fun line => (.service, .log line)

namespace Floor

/-- What a round of traffic calls for one synthetic device. -/
def talk (h : Hub) (p : Peer) : List Hub.Op :=
  match h.registry.get? p.id with
  | none => if p.talking || h.isActive p.link then [.close p.link, .reportInactive p.link] else []
  | some d => if p.talking then [.touch p.id, .recordSequence p.id p.next, .send d.link 8] else []

/-- What a round of traffic calls. -/
def talks (now : Int) : Hub → List Peer → List Hub.Op
  | _, [] => []
  | h, p :: ps => talk h p ++ talks now (deliver now h p).2 ps

/-- The calls of a run of a job, after its earlier runs. -/
def visits (f : Floor) (runs : List Run) (now : Int) : Job → List Visit
  | .sweep limit => [(.schedule, .sweep now limit)]
  | .report tally loads => [(.service, .report tally (loads runs.length))]
  | .traffic i =>
    match f.simulations[i]? with
    | none => []
    | some sim => (talks now f.hub sim.peers.toList).map (.service, ·)
  | .probe touches _ =>
    match touches with
    | none => []
    | some id => [(.service, .touch id)]
  | job => f.hub.lines (run job runs now f).1.hub

end Floor

namespace Station

/-- The deeds by which callers start and stop the sweeper and set it up. -/
def Deed.isOfSweeper : Deed → Bool
  | .startSweeper | .stopSweeper | .setSweeper _ => true
  | _ => false

/-- The calls of a deed. -/
def Deed.visits (s : Station) : Deed → List Visit
  | .onHub op => [(.caller, op)]
  | .sweepNow => [(.command, .sweep s.now s.sweeper.settings.expireAfter)]
  | .startReporter interval loads =>
    (.service, .addTally) :: s.hub.addTally.2.lines (s.perform (.startReporter interval loads)).hub
  | .startSimulation plan =>
    let (peers, hub) := openPeers s.hub s.now plan.devices
    (List.range plan.devices).map (fun k =>
        (.service, .openLink (.counting { peer := peerAddress k, endpoint := simulationEndpoint }))) ++
      peers.toList.map (fun p => (.service, .reportActive p.id p.link)) ++
      hub.lines (s.perform (.startSimulation plan)).hub
  | d => s.hub.lines (s.perform d).hub

/-- The calls of a run of an entry. -/
def runVisits (s : Station) (i : EntryId) : List Visit :=
  match s.agenda.entries[i]? with
  | none => []
  | some e => if e.isLive then s.floor.visits e.runs s.now e.job else []

/-- The calls of an act. -/
def visits (s : Station) : Act → List Visit
  | .deed d => d.visits s
  | .time (.wake i) => (s.runs i).flatMap fun x => x.1.runVisits i
  | .time .errand =>
    match s.agenda.errands with
    | [] => []
    | job :: _ => s.floor.visits [] s.now job
  | .conclude c attempt => s.hub.lines (s.act (.conclude c attempt)).hub
  | .time (.clock _) | .time (.leap _) | .shutdown | .startAttempt _ => []

/-- All calls of a list of acts in order, each with its time. -/
def history : Station → List Act → List (Source × Hub.Call)
  | _, [] => []
  | s, a :: as => (s.visits a).map (fun v => (v.1, s.now, v.2)) ++ history (s.act a) as

theorem history_append (s : Station) (as bs : List Act) :
    s.history (as ++ bs) = s.history as ++ (s.play as).history bs := by
  induction as generalizing s with
  | nil => rfl
  | cons a as ih => rw [List.cons_append, history, history, ih, List.append_assoc, play_cons]

end Station

/-! ## Work -/

namespace Hub

variable {now : Int} {h h₁ h₂ h₃ : Hub} {vs ws : List Visit}

/-- Making some calls is all that happens. -/
abbrev Receives (now : Int) (h : Hub) (visits : List Visit) (h' : Hub) : Prop :=
  h.run (visits.map fun v => (now, v.2)) = h'

theorem Receives.append (h : Receives now h₁ vs h₂) (h' : Receives now h₂ ws h₃) :
    Receives now h₁ (vs ++ ws) h₃ := by
  rw [Receives, List.map_append, run_append, h, h']

theorem receives_lines (hlogs : Logs now h h₁) : Receives now h (h.lines h₁) h₁ := by
  rw [Receives, lines, List.map_map]
  exact run_linesSince hlogs

end Hub

namespace Floor

variable {now : Int}

theorem logs_conclude (f : Floor) (c : ConnectorId) (attempt : Attempt) :
    Hub.Logs now f.hub (f.conclude now c attempt).2.hub := by
  unfold conclude
  split
  · exact .refl _
  · dsimp only
    split
    · exact Hub.logs_log _ _
    · exact .refl _

theorem hub_release (f : Floor) (k : TimerId) : (f.release k).1.hub = f.hub := by
  unfold release
  split
  · rfl
  · split <;> rfl

theorem logs_answer (f : Floor) (k : TimerId) (c : ConnectorId) (number : Nat) (attempt : Attempt) :
    Hub.Logs now f.hub (f.answer now k c number attempt).1.hub := by
  have hconclude : Hub.Logs now f.hub (f.conclude now c attempt).2.hub := logs_conclude f c attempt
  unfold answer
  dsimp only
  rw [hub_release]
  split
  · exact hconclude.trans (Hub.logs_log _ _)
  · exact hconclude

theorem hub_startAttempt (f : Floor) (c : ConnectorId) : (f.startAttempt now c).2.2.hub = f.hub := by
  unfold startAttempt
  split <;> rfl

theorem logs_dial (f : Floor) (k : TimerId) (c : ConnectorId) (number : Nat) :
    Hub.Logs now f.hub (f.dial now k c number).1.hub := by
  have hstart : (f.startAttempt now c).2.2.hub = f.hub := hub_startAttempt f c
  unfold dial
  dsimp only
  split
  · rw [hstart]
    exact .refl _
  · split
    · rw [← hstart]
      exact logs_answer _ k c number _
    · rw [hstart]
      exact .refl _

theorem logs_check (f : Floor) (k : TimerId) (c : ConnectorId) :
    Hub.Logs now f.hub (f.check now k c).1.hub := by
  unfold check
  split
  · split
    · exact .refl _
    · dsimp only
      split
      · exact .refl _
      · split
        · exact Hub.logs_log _ _
        · exact .refl _
      · exact .refl _
  · exact .refl _

theorem logs_silence (f : Floor) (i : SimulationId) : Hub.Logs now f.hub (f.silence now i).hub := by
  unfold silence
  split
  · exact .refl _
  · exact Hub.logs_foldl (fun h p => Hub.logs_log h _) _ _

theorem receives_talk (h : Hub) (p : Peer) :
    Hub.Receives now h ((talk h p).map (.service, ·)) (deliver now h p).2 := by
  unfold talk deliver
  cases h.registry.get? p.id with
  | none =>
    dsimp only
    split <;> rfl
  | some d =>
    dsimp only
    cases p.talking <;> rfl

theorem receives_talks (ps : List Peer) (peers : Array Peer) (h : Hub) :
    Hub.Receives now h ((talks now h ps).map (.service, ·))
      (ps.foldl (fun (peers, h) p => let (p, h) := deliver now h p; (peers.push p, h)) (peers, h)).2 := by
  induction ps generalizing peers h with
  | nil => rfl
  | cons p ps ih =>
    rw [talks, List.map_append]
    exact (receives_talk h p).append (ih _ _)

theorem receives_run (f : Floor) (job : Job) (runs : List Run) :
    Hub.Receives now f.hub (f.visits runs now job) (run job runs now f).1.hub := by
  cases job with
  | sweep | report => rfl
  | traffic i =>
    change Hub.Receives now f.hub _ (f.traffic now i).hub
    simp only [visits, traffic]
    cases f.simulations[i]? with
    | none => rfl
    | some sim =>
      dsimp only
      rw [← Array.foldl_toList]
      exact receives_talks sim.peers.toList #[] f.hub
  | silence i => exact Hub.receives_lines (logs_silence f i)
  | check k c => exact Hub.receives_lines (logs_check f k c)
  | dial k c number => exact Hub.receives_lines (logs_dial f k c number)
  | answer k c number attempt => exact Hub.receives_lines (logs_answer f k c number attempt)
  | probe touches panicsAt => cases touches <;> rfl
  | note name => exact Hub.receives_lines (.refl f.hub)

end Floor

/-! ## Deeds -/

namespace Station

variable {s : Station}

theorem logs_mention (s : Station) (name : String) (period : Span) : Hub.Logs s.now s.hub (s.mention name period) := by
  unfold mention
  split
  · exact .refl _
  · exact Hub.logs_log _ _

theorem logs_every (s : Station) (name : String) (job : Job) (delay period : Span) :
    Hub.Logs s.now s.hub (s.every name job delay period).2.hub := by
  rw [every_eq]
  exact logs_mention s name period

/-- Recurring work is taken on, and then a line goes to the log. -/
theorem logs_every_log (s : Station) (name : String) (job : Job) (delay period : Span) (line : LogLine) :
    Hub.Logs s.now s.hub ((s.every name job delay period).2.log line).hub := by
  rw [every_eq]
  exact (logs_mention s name period).trans (Hub.logs_log _ line)

theorem hub_stopTimer (s : Station) (k : TimerId) : (s.stopTimer k).2.hub = s.hub := by
  unfold stopTimer
  split <;> rfl

theorem logs_startSweeper (s : Station) : Hub.Logs s.now s.hub s.startSweeper.2.hub := by
  unfold startSweeper
  split
  · exact .refl _
  · dsimp only
    split
    · exact logs_every_log s _ _ _ _ _
    · exact logs_every_log s _ _ _ _ _

theorem logs_stopSweeper (s : Station) : Hub.Logs s.now s.hub s.stopSweeper.2.hub := by
  unfold stopSweeper
  split
  · exact .refl _
  · dsimp only
    split
    · exact Hub.logs_log _ _
    · exact .refl _

theorem logs_startTimer (s : Station) (k : TimerId) (c : ConnectorId) :
    Hub.Logs s.now s.hub (s.startTimer k c).2.hub := by
  have hevery := logs_every_log s "reconnect" (.check k c) (s.timer k).settings.initialDelay
    (s.timer k).settings.period
  unfold startTimer
  dsimp only
  split
  · exact .refl _
  · split
    · exact hevery .timerRefused
    · exact hevery (.timerStarted (s.timer k).settings.period (s.timer k).settings.fireImmediately)

theorem receives_openPeers (h : Hub) (now : Int) (count : Nat) :
    Hub.Receives now h
      ((List.range count).map (fun k =>
          (.service, .openLink (.counting { peer := peerAddress k, endpoint := simulationEndpoint }))) ++
        (openPeers h now count).1.toList.map fun p => (.service, .reportActive p.id p.link))
      (openPeers h now count).2 := by
  have hopen : ∀ (ks : List Nat) (peers : Array Peer) (h : Hub),
      Hub.Receives now h (ks.map fun k =>
          (.service, .openLink (.counting { peer := peerAddress k, endpoint := simulationEndpoint })))
        (ks.foldl (fun (peers, h) k => let (p, h) := openPeer h k; (peers.push p, h)) (peers, h)).2 := by
    intro ks
    induction ks with
    | nil => exact fun _ _ => rfl
    | cons k ks ih => exact fun peers h => ih _ _
  refine (hopen (List.range count) #[] h).append ?_
  rw [Hub.Receives, List.map_map, Hub.run, List.foldl_map]
  exact Array.foldl_toList _

/-- Making the calls of a deed is all that it does to the hub. -/
theorem receives_perform (s : Station) (d : Deed) : Hub.Receives s.now s.hub (d.visits s) (s.perform d).hub := by
  cases d with
  | onHub op => rfl
  | sweepNow => rfl
  | startSweeper => exact Hub.receives_lines (logs_startSweeper s)
  | stopSweeper => exact Hub.receives_lines (logs_stopSweeper s)
  | setSweeper settings =>
    refine Hub.receives_lines ?_
    simp only [perform, setSweeper]
    cases settings.validate with
    | error e => exact .refl _
    | ok u => cases s.isSweeping <;> exact .refl _
  | every name touches panicsAt delay period => exact Hub.receives_lines (logs_every s name _ delay period)
  | cancel i =>
    refine Hub.receives_lines ?_
    simp only [perform]
    split <;> exact .refl _
  | startReporter interval loads =>
    have hlogs : Hub.Logs s.now s.hub.addTally.2 (s.perform (.startReporter interval loads)).hub :=
      (Hub.logs_log _ _).trans (logs_every ((s.onHub Hub.addTally).2.log (.reporterStarted interval)) _ _ _ _)
    have hfirst : Hub.Receives s.now s.hub [(.service, .addTally)] s.hub.addTally.2 := rfl
    exact hfirst.append (Hub.receives_lines hlogs)
  | startSimulation plan =>
    have hlogs : Hub.Logs s.now (openPeers s.hub s.now plan.devices).2
        (s.perform (.startSimulation plan)).hub :=
      logs_every_log (s.onHub (openPeers · s.now plan.devices)).2 "sim-traffic"
        (.traffic s.floor.simulations.size) plan.interval plan.interval _
    exact (receives_openPeers s.hub s.now plan.devices).append (Hub.receives_lines hlogs)
  | stopSimulation i =>
    refine Hub.receives_lines ?_
    simp only [perform, stopSimulation]
    split <;> exact .refl _
  | startTimer k c =>
    refine Hub.receives_lines ?_
    simp only [perform]
    split
    · exact logs_startTimer s k c
    · exact .refl _
  | stopTimer k =>
    refine Hub.receives_lines ?_
    simp only [perform, hub_stopTimer]
    exact .refl _
  | setAutoConnect k on =>
    refine Hub.receives_lines ?_
    simp only [perform, setAutoConnect]
    split
    · exact .refl _
    · split
      · exact .refl _
      · rw [hub_stopTimer]
        exact .refl _
  | setTimerPeriod k period =>
    refine Hub.receives_lines ?_
    simp only [perform, setTimerPeriod]
    split <;> exact .refl _
  | dropTimer k =>
    refine Hub.receives_lines ?_
    simp only [perform, dropTimer]
    split
    · rw [hub_stopTimer]
      exact .refl _
    · exact .refl _
  | once | note | addTimer | holdTimer | addConnector | setConnected => exact Hub.receives_lines (.refl _)

/-- Deeds that call the hub at once and on purpose; all others at most write to its log. -/
def Deed.isDirect : Deed → Bool
  | .onHub _ | .sweepNow | .startReporter .. | .startSimulation _ => true
  | _ => false

/-- What a deed that does not call the hub on purpose does to it. -/
theorem logs_perform (s : Station) {d : Deed} (hd : d.isDirect = false) : Hub.Logs s.now s.hub (s.perform d).hub := by
  have hvisits : d.visits s = s.hub.lines (s.perform d).hub := by
    cases d with
    | onHub | sweepNow | startReporter | startSimulation => cases hd
    | _ => rfl
  have hreceives := receives_perform s d
  rw [hvisits] at hreceives
  refine ⟨s.hub.linesSince (s.perform d).hub, hreceives.symm.trans ?_⟩
  rw [Hub.lines, List.map_map, Hub.run, List.foldl_map]
  rfl

/-! ## Acts -/

theorem now_runOnce (s : Station) (i : EntryId) (due : Int) : (s.runOnce i due).now = s.now := by
  obtain ⟨a, f, sweeper⟩ := s
  exact (Timeline.goes_runOnce Floor.orderly_worker ⟨a, f⟩ i due).now

theorem receives_runOnce (s : Station) (i : EntryId) (due : Int) :
    Hub.Receives s.now s.hub (s.runVisits i) (s.runOnce i due).hub := by
  obtain ⟨a, f, sweeper⟩ := s
  change Hub.Receives a.now f.hub _ (Timeline.runOnce Floor.worker i ⟨a, f⟩ due).host.hub
  by_cases hlive : ∃ e, a.entries[i]? = some e ∧ e.isLive
  · obtain ⟨e, he, hlive⟩ := hlive
    rw [Timeline.runOnce_of_live Floor.worker he hlive]
    simp only [runVisits, he, hlive, if_true]
    exact Floor.receives_run f e.job e.runs
  · have hdead : ∀ e, a.entries[i]? = some e → e.isLive = false :=
      fun e he => Bool.eq_false_iff.mpr fun hl => hlive ⟨e, he, hl⟩
    rw [Timeline.runOnce_of_not_live Floor.worker hdead]
    unfold runVisits
    dsimp only
    split
    · rfl
    · rename_i e he
      rw [hdead e he]
      rfl

theorem receives_runsOf (s : Station) (i : EntryId) (dues : List Int) :
    Hub.Receives s.now s.hub ((s.runsOf i dues).flatMap fun x => x.1.runVisits i)
      (dues.foldl (fun s due => s.runOnce i due) s).hub := by
  induction dues generalizing s with
  | nil => rfl
  | cons due dues ih =>
    have hrest := ih (s.runOnce i due)
    rw [now_runOnce] at hrest
    exact (receives_runOnce s i due).append hrest

/-- Runs one after the other, on the agenda and the floor. -/
theorem foldl_runOnce (s : Station) (i : EntryId) (dues : List Int) :
    dues.foldl (fun s due => s.runOnce i due) s =
      s.onTimeline fun t => dues.foldl (Timeline.runOnce Floor.worker i) t := by
  induction dues generalizing s with
  | nil => rfl
  | cons due dues ih => exact ih _

/-- Work that wakes up runs as often as it plans to, and then has its new stage. -/
theorem act_wake {i : EntryId} {e : Entry Job} {due : Int} (he : s.agenda.entries[i]? = some e)
    (hdue : e.due? = some due) :
    let ran := (e.plan due s.now).1.foldl (fun s due => s.runOnce i due) s
    s.act (.time (.wake i)) = { ran with agenda := ran.agenda.modify i (·.restage (e.plan due s.now).2) } := by
  intro ran
  simp only [ran, foldl_runOnce]
  change s.onTimeline (fun t => Timeline.wake Floor.worker t i) = _
  change Station.mk (Timeline.wake Floor.worker s.timeline i).agenda (Timeline.wake Floor.worker s.timeline i).host
    s.sweeper = _
  rw [Timeline.wake_of_due Floor.worker (t := s.timeline) he hdue]
  rfl

theorem receives_wake (s : Station) (i : EntryId) :
    Hub.Receives s.now s.hub (s.visits (.time (.wake i))) (s.act (.time (.wake i))).hub := by
  change Hub.Receives s.now s.hub _ (Timeline.wake Floor.worker s.timeline i).host.hub
  cases he : s.agenda.entries[i]? with
  | none =>
    rw [Timeline.wake_of_not_waits Floor.worker fun due => by
      rintro ⟨e, he', -⟩
      cases he.symm.trans he']
    simp only [visits, runs, he]
    rfl
  | some e =>
    cases hdue : e.due? with
    | none =>
      rw [Timeline.wake_of_not_waits Floor.worker fun due => by
        rintro ⟨e', he', hdue'⟩
        obtain rfl := Option.some.inj (he.symm.trans he')
        cases hdue.symm.trans hdue']
      simp only [visits, runs, he, hdue]
      rfl
    | some due =>
      rw [Timeline.wake_of_due Floor.worker (t := s.timeline) he hdue]
      simp only [visits, runs, he, hdue]
      have hruns := receives_runsOf s i (e.plan due s.now).1
      rwa [show (((e.plan due s.now).1.foldl (fun s due => s.runOnce i due) s).hub) = _ from
        congrArg Station.hub (foldl_runOnce s i _)] at hruns

theorem receives_errand (s : Station) :
    Hub.Receives s.now s.hub (s.visits (.time .errand)) (s.act (.time .errand)).hub := by
  change Hub.Receives s.now s.hub _ (Timeline.beginNext Floor.worker s.timeline).host.hub
  cases hjobs : s.agenda.errands with
  | nil =>
    rw [Timeline.beginNext, show s.timeline.agenda.errands = [] from hjobs]
    simp only [visits, hjobs]
    rfl
  | cons job rest =>
    rw [Timeline.beginNext, show s.timeline.agenda.errands = job :: rest from hjobs]
    simp only [visits, hjobs]
    exact Floor.receives_run s.floor job []

/-- A shutdown does nothing to the hub. -/
theorem hub_shutdown (s : Station) : (s.act .shutdown).hub = s.hub := by
  have habandon : ∀ (job : Job) (now : Int) (f : Floor), (Floor.abandon job now f).hub = f.hub := by
    intro job now f
    cases job with
    | answer k c number attempt => exact Floor.hub_release _ k
    | sweep | report | traffic | silence | check | dial | probe | note => rfl
  have hfold : ∀ (es : List (Entry Job)) (f : Floor),
      (es.foldl (fun f e => Floor.abandon e.job s.now f) f).hub = f.hub := by
    intro es
    induction es with
    | nil => exact fun f => rfl
    | cons e es ih => exact fun f => (ih _).trans (habandon e.job s.now f)
  exact hfold _ s.floor

/-- Making the calls of an act is all that it does to the hub. -/
theorem receives_act (s : Station) (a : Act) : Hub.Receives s.now s.hub (s.visits a) (s.act a).hub := by
  cases a with
  | deed d => exact receives_perform s d
  | time a =>
    cases a with
    | wake i => exact receives_wake s i
    | errand => exact receives_errand s
    | clock now | leap now => rfl
  | shutdown => exact (hub_shutdown s).symm
  | startAttempt c => exact (Floor.hub_startAttempt s.floor c).symm
  | conclude c attempt => exact Hub.receives_lines (Floor.logs_conclude s.floor c attempt)

/-- The hub after a run is the hub after the calls of its history. -/
theorem hub_play (s : Station) (acts : List Act) :
    (s.play acts).hub = s.hub.run ((s.history acts).map Prod.snd) := by
  induction acts generalizing s with
  | nil => rfl
  | cons a as ih =>
    have hact : s.hub.run ((s.visits a).map fun v => (s.now, v.2)) = (s.act a).hub := receives_act s a
    rw [history, List.map_append, List.map_map, Hub.run_append, play_cons, ih, ← hact]
    rfl

/-! ## Times -/

theorem now_wake (s : Station) (i : EntryId) : (s.act (.time (.wake i))).now = s.now := by
  change (Timeline.wake Floor.worker s.timeline i).agenda.now = s.now
  by_cases hwaits : ∃ due, s.timeline.Waits i due
  · obtain ⟨due, e, he, hdue⟩ := hwaits
    rw [Timeline.wake_of_due Floor.worker he hdue]
    exact (Timeline.goes_runs Floor.orderly_worker s.timeline i _).now
  · rw [Timeline.wake_of_not_waits Floor.worker (not_exists.mp hwaits)]
    rfl

theorem now_errand (s : Station) : (s.act (.time .errand)).now = s.now := by
  change (Timeline.beginNext Floor.worker s.timeline).agenda.now = s.now
  unfold Timeline.beginNext
  split
  · rfl
  · rename_i job rest _
    exact (Timeline.goes_begin Floor.orderly_worker ⟨{ s.agenda with errands := rest }, s.floor⟩ job).now

/-- Time passes only when the clock moves. -/
theorem now_act {a : Act} (ha : ∀ now, a ≠ .time (.clock now) ∧ a ≠ .time (.leap now)) :
    (s.act a).now = s.now := by
  cases a with
  | deed d => exact (grows_perform s d).now
  | time a =>
    cases a with
    | wake i => exact now_wake s i
    | errand => exact now_errand s
    | clock now => exact absurd rfl (ha now).1
    | leap now => exact absurd rfl (ha now).2
  | shutdown | startAttempt | conclude => rfl

theorem now_le_act {a : Act} (hmay : s.May a) : s.now ≤ (s.act a).now := by
  by_cases ha : ∀ now, a ≠ .time (.clock now) ∧ a ≠ .time (.leap now)
  · exact Int.le_of_eq (now_act ha).symm
  · cases a with
    | time a =>
      cases a with
      | clock now => exact hmay.1
      | leap now => exact hmay.1
      | wake | errand => exact absurd (fun now => ⟨nofun, nofun⟩) ha
    | deed | shutdown | startAttempt | conclude => exact absurd (fun now => ⟨nofun, nofun⟩) ha

theorem now_le_play {acts : List Act} (hacts : s.InTurn acts) : s.now ≤ (s.play acts).now := by
  induction acts generalizing s with
  | nil => exact Int.le_refl _
  | cons a as ih => exact Int.le_trans (now_le_act hacts.1) (ih hacts.2)

/-- Calls are made while the run lasts. -/
theorem time_of_mem_history {acts : List Act} (hacts : s.InTurn acts) {v : Source × Hub.Call}
    (hv : v ∈ s.history acts) : s.now ≤ v.2.1 ∧ v.2.1 ≤ (s.play acts).now := by
  induction acts generalizing s with
  | nil => cases hv
  | cons a as ih =>
    have hact : s.now ≤ (s.act a).now := now_le_act hacts.1
    rcases List.mem_append.mp hv with hv | hv
    · obtain ⟨w, -, rfl⟩ := List.mem_map.mp hv
      exact ⟨Int.le_refl _, Int.le_trans hact (now_le_play hacts.2)⟩
    · obtain ⟨hle, hend⟩ := ih hacts.2 hv
      exact ⟨Int.le_trans hact hle, hend⟩

/-- The times of a history do not go back. -/
theorem sorted_history {acts : List Act} (hacts : s.InTurn acts) :
    ((s.history acts).map fun v => v.2.1).Pairwise (· ≤ ·) := by
  induction acts generalizing s with
  | nil => exact .nil
  | cons a as ih =>
    rw [history, List.map_append, List.map_map, List.pairwise_append]
    refine ⟨?_, ih hacts.2, ?_⟩
    · refine List.pairwise_map.mpr (List.pairwise_of_forall ?_)
      intro v w
      exact Int.le_refl _
    · intro x hx y hy
      obtain ⟨v, -, rfl⟩ := List.mem_map.mp hx
      obtain ⟨w, hw, rfl⟩ := List.mem_map.mp hy
      exact Int.le_trans (now_le_act hacts.1) (time_of_mem_history hacts.2 hw).1

end Station

end Liveness
