import Liveness.Proofs.Hub.Churn
import Liveness.Proofs.Station.Visits

/-!
# Statistics that add up

A reporter comes with a tally of its own, which no service and no caller takes but its
reports.  Whatever is ordered after it was started, and however late its task runs, each
notice is in the count of the first report after it (`Station.churn_conserved`).
-/

namespace Liveness

/-- Calls that bring no observer and take no tally's counts away but in a report. -/
def Hub.Op.leavesTallies : Hub.Op → Bool
  | .addObserver _ | .takeTally _ => false
  | _ => true

namespace Floor

theorem leavesTallies_talk {h : Hub} {p : Peer} {op : Hub.Op} (hop : op ∈ talk h p) : op.leavesTallies = true := by
  unfold talk at hop
  split at hop
  · split at hop
    · simp only [List.mem_cons, List.not_mem_nil, or_false] at hop
      rcases hop with rfl | rfl <;> rfl
    · cases hop
  · split at hop
    · simp only [List.mem_cons, List.not_mem_nil, or_false] at hop
      rcases hop with rfl | rfl | rfl <;> rfl
    · cases hop

theorem leavesTallies_talks {now : Int} {ps : List Peer} {h : Hub} {op : Hub.Op} (hop : op ∈ talks now h ps) :
    op.leavesTallies = true := by
  induction ps generalizing h with
  | nil => cases hop
  | cons p ps ih =>
    rcases List.mem_append.mp hop with hop | hop
    · exact leavesTallies_talk hop
    · exact ih hop

theorem leavesTallies_lines {h h' : Hub} {v : Visit} (hv : v ∈ h.lines h') : v.2.leavesTallies = true := by
  obtain ⟨line, -, rfl⟩ := List.mem_map.mp hv
  rfl

/-- No work touches the tallies but to report them. -/
theorem leavesTallies_visits {f : Floor} {runs : List Run} {now : Int} {job : Job} {v : Visit}
    (hv : v ∈ f.visits runs now job) : v.2.leavesTallies = true := by
  cases job with
  | sweep | report =>
    obtain rfl := List.mem_singleton.mp hv
    rfl
  | traffic i =>
    simp only [visits] at hv
    split at hv
    · cases hv
    · obtain ⟨op, hop, rfl⟩ := List.mem_map.mp hv
      exact leavesTallies_talks hop
  | probe touches panicsAt =>
    cases touches with
    | none => cases hv
    | some id =>
      obtain rfl := List.mem_singleton.mp hv
      rfl
  | silence | check | dial | answer | note => exact leavesTallies_lines hv

end Floor

namespace Station

variable {s : Station} {a : Act} {v : Visit}

theorem leavesTallies_deed {d : Deed} (hv : v ∈ d.visits s) : v.2.leavesTallies = true ∨ d = .onHub v.2 := by
  cases d with
  | onHub op =>
    obtain rfl := List.mem_singleton.mp hv
    exact .inr rfl
  | sweepNow =>
    obtain rfl := List.mem_singleton.mp hv
    exact .inl rfl
  | startReporter interval loads =>
    rcases List.mem_cons.mp hv with rfl | hv
    · exact .inl rfl
    · exact .inl (Floor.leavesTallies_lines hv)
  | startSimulation plan =>
    rcases List.mem_append.mp hv with hv | hv
    · rcases List.mem_append.mp hv with hv | hv
      · obtain ⟨k, -, rfl⟩ := List.mem_map.mp hv
        exact .inl rfl
      · obtain ⟨p, -, rfl⟩ := List.mem_map.mp hv
        exact .inl rfl
    · exact .inl (Floor.leavesTallies_lines hv)
  | startSweeper | stopSweeper | setSweeper | every | once | cancel | note | stopSimulation | addTimer
  | startTimer | stopTimer | setAutoConnect | setTimerPeriod | holdTimer | dropTimer | addConnector
  | setConnected => exact .inl (Floor.leavesTallies_lines hv)

/-- Only callers bring observers and take the counts of tallies. -/
theorem leavesTallies_act (hv : v ∈ s.visits a) : v.2.leavesTallies = true ∨ a = .deed (.onHub v.2) := by
  cases a with
  | deed d => exact (leavesTallies_deed hv).imp_right (congrArg Act.deed)
  | time a =>
    refine .inl ?_
    cases a with
    | wake i =>
      obtain ⟨x, -, hv⟩ := List.mem_flatMap.mp hv
      unfold runVisits at hv
      split at hv
      · cases hv
      · split at hv
        · exact Floor.leavesTallies_visits hv
        · cases hv
    | errand =>
      simp only [visits] at hv
      split at hv
      · cases hv
      · exact Floor.leavesTallies_visits hv
    | clock | leap => cases hv
  | conclude c attempt => exact .inl (Floor.leavesTallies_lines hv)
  | shutdown | startAttempt => cases hv

theorem leavesTallies_history {acts : List Act} {x : Source × Hub.Call} (hx : x ∈ s.history acts) :
    x.2.2.leavesTallies = true ∨ .deed (.onHub x.2.2) ∈ acts := by
  induction acts generalizing s with
  | nil => cases hx
  | cons a as ih =>
    rcases List.mem_append.mp hx with hx | hx
    · obtain ⟨v, hv, rfl⟩ := List.mem_map.mp hx
      refine (leavesTallies_act hv).imp_right fun (heq : a = .deed (.onHub v.2)) => ?_
      rw [heq]
      exact List.mem_cons_self
    · exact (ih hx).imp_right (List.mem_cons_of_mem a)

/-- The calls on the hub in the course of some orders. -/
def calls (s : Station) (orders : List Order) : List Hub.Call := (s.history (s.plan orders)).map Prod.snd

theorem run_calls (s : Station) (orders : List Order) : s.hub.run (s.calls orders) = (s.after orders).hub := by
  rw [calls, ← hub_play, play_plan]

theorem isHonest_calls {orders : List Order} (horders : ∀ op, .deed (.onHub op) ∈ orders → op.isHonest = true) :
    ∀ c ∈ s.calls orders, c.2.isHonest = true := by
  intro c hc
  obtain ⟨x, hx, rfl⟩ := List.mem_map.mp hc
  rcases leavesTallies_history hx with hleaves | hmem
  · cases hop : x.2.2 with
    | addObserver o =>
      rw [hop] at hleaves
      cases hleaves
    | _ => rfl
  · exact horders _ (deed_mem_plan hmem)

theorem ne_takeTally_of_mem_calls {orders : List Order} {k : Nat}
    (horders : .deed (.onHub (.takeTally k)) ∉ orders) : ∀ c ∈ s.calls orders, c.2 ≠ .takeTally k := by
  intro c hc hop
  obtain ⟨x, hx, rfl⟩ := List.mem_map.mp hc
  rcases leavesTallies_history hx with hleaves | hmem
  · rw [hop] at hleaves
    cases hleaves
  · rw [hop] at hmem
    exact horders (deed_mem_plan hmem)

/-- A reporter begins with an empty tally of its own. -/
theorem keeps_startReporter (hs : s.hub.Sound) (interval : Span) (loads : Nat → Load) :
    (s.perform (.startReporter interval loads)).hub.Keeps s.hub.tallies.length s.hub.observers.length ∧
      (s.perform (.startReporter interval loads)).hub.tallies[s.hub.tallies.length]? = some {} := by
  have hsame : (s.perform (.startReporter interval loads)).hub.observers = s.hub.addTally.2.observers ∧
      (s.perform (.startReporter interval loads)).hub.tallies = s.hub.addTally.2.tallies := by
    simp only [perform, startReporter, every_eq]
    change (mention _ _ _).observers = _ ∧ (mention _ _ _).tallies = _
    unfold mention
    split <;> exact ⟨rfl, rfl⟩
  constructor
  · exact (Hub.keeps_addTally hs).of_eq (by rw [Hub.parts, hsame.1]; rfl) (by rw [hsame.2])
  · rw [hsame.2]
    exact List.getElem?_concat_length

/-- What a reporter that is started with a station accounts for, whatever is ordered later and whatever loads it
measures.  The calls that follow are cut at the reports, wherever these are. -/
structure Accounts (s : Station) (interval : Span) (loads : Nat → Load) (later : List Order) : Prop where
  /-- The task of the reporter reports a tally of its own. -/
  task : ∃ e, (s.perform (.startReporter interval loads)).agenda.entries[s.agenda.entries.size]? = some e ∧
    e.job = .report s.hub.tallies.length loads
  hub : (s.perform (.startReporter interval loads)).hub.run ((s.perform (.startReporter interval loads)).calls later) =
    ((s.perform (.startReporter interval loads)).after later).hub
  /-- The notices of each piece, as any observer that was there hears them, and its losses. -/
  reckoned : ∀ before between rest, (s.perform (.startReporter interval loads)).calls later = before ++ between ++ rest →
    Hub.EndsWithReport s.hub.tallies.length before → (∀ c ∈ between, ∀ load, c.2 ≠ .report s.hub.tallies.length load) →
    ∀ j ≤ s.hub.observers.length,
      Hub.Reckoned s.hub.tallies.length j ((s.perform (.startReporter interval loads)).hub.run before) between

/-- The counts of a reporter are conserved.  Take any moment of a run at which a reporter is started, with any
other listeners, which may panic as they like, and any orders that leave its tally to it.  Between two reports
and after the last one, the tally stands at the counts of the notices that were given, each in the field of
its kind, and these are what the next report publishes; and the number of devices has changed by just what
is published, and by those that were taken away silently. -/
theorem churn_conserved (settings : SweepSettings) (earlier later : List Order) (interval : Span) (loads : Nat → Load)
    (hhonest : ∀ op, .deed (.onHub op) ∈ earlier ++ later → op.isHonest = true)
    (hown : .deed (.onHub (.takeTally ((opened settings).after earlier).hub.tallies.length)) ∉ later) :
    ((opened settings).after earlier).Accounts interval loads later := by
  have hsound : ((opened settings).after earlier).hub.Sound := by
    have hopened : (opened settings).hub.Sound := ⟨by simp [opened, hub, Hub.parts], by simp [opened, hub, Hub.parts],
      by simp [opened, hub, Hub.parts]⟩
    rw [← run_calls]
    exact Hub.sound_run hopened (isHonest_calls fun op hop => hhonest op (List.mem_append_left later hop))
  generalize (opened settings).after earlier = s at hown hsound ⊢
  have hlater : ∀ c ∈ (s.perform (.startReporter interval loads)).calls later,
      c.2.isHonest = true ∧ c.2 ≠ .takeTally s.hub.tallies.length := fun c hc =>
    ⟨isHonest_calls (fun op hop => hhonest op (List.mem_append_right earlier hop)) c hc,
      ne_takeTally_of_mem_calls hown c hc⟩
  obtain ⟨hkeeps, hzero⟩ := keeps_startReporter hsound interval loads
  refine ⟨?_, run_calls _ later, ?_⟩
  · have heq : s.perform (.startReporter interval loads) =
        (((s.onHub Hub.addTally).2.log (.reporterStarted interval)).every
          "stats" (.report s.hub.tallies.length loads) interval interval).2 := rfl
    rw [heq, every_eq]
    exact ⟨_, Agenda.getElem?_add_size _ _, Agenda.job_enrol _ _⟩
  · intro before between rest hsplit hreport hbetween j hj
    rw [hsplit] at hlater
    have hmem : ∀ c ∈ before ++ between, c.2.isHonest = true ∧ c.2 ≠ .takeTally s.hub.tallies.length :=
      fun c hc => hlater c (List.mem_append_left rest hc)
    refine Hub.reckoned_of_run hkeeps hzero (fun c hc => (hmem c (List.mem_append_left between hc)).1) hreport
      (fun c hc => ?_) hj
    obtain ⟨hhonest', htake⟩ := hmem c (List.mem_append_right before hc)
    exact ⟨hhonest', htake, hbetween c hc⟩

/-- One device is there, another one is added and the first is replaced before the first report; before the second
report one is removed and the other one goes silently.  A listener panics each time, and the second report warns of
the memory. -/
theorem churn_conserved_of_panics :
    let earlier : List Order := [.deed (.onHub (.put { id := "a", link := 0 })),
      .deed (.onHub (.addObserver { conduct := fun _ => .panics (.text "bug") }))]
    let later : List Order := [.deed (.onHub (.put { id := "b", link := 0 })),
      .deed (.onHub (.put { id := "a", link := 0 })), .advance (.ofMillis 10),
      .deed (.onHub (.remove "b" .explicit)), .deed (.onHub (.removeSilently "a")), .advance (.ofMillis 10)]
    let loads : Nat → Load := fun k => { memoryHigh := k = 1 }
    let s := (opened {}).after earlier
    (∀ op, .deed (.onHub op) ∈ earlier ++ later → op.isHonest = true) ∧
      .deed (.onHub (.takeTally s.hub.tallies.length)) ∉ later ∧ s.Accounts (.ofMillis 10) loads later ∧
      ((s.perform (.startReporter (.ofMillis 10) loads)).after later).hub.seen (fun x =>
          match x.what with
          | .reported alarm devices churn => some (x.time, alarm, devices, churn)
          | _ => none) =
        [(10000000, .none, 2, { added := 1, replaced := 1 }), (20000000, .highMemory, 0, { removed := 1 })] := by
  intro earlier later loads s
  have hhonest : ∀ op, .deed (.onHub op) ∈ earlier ++ later → op.isHonest = true := by
    intro op hop
    simp only [earlier, later, List.cons_append, List.nil_append, List.mem_cons, Order.deed.injEq, Deed.onHub.injEq,
      reduceCtorEq, List.not_mem_nil, false_or, or_false] at hop
    rcases hop with rfl | rfl | rfl | rfl | rfl | rfl <;> rfl
  have hown : .deed (.onHub (.takeTally s.hub.tallies.length)) ∉ later := by simp [later]
  exact ⟨hhonest, hown, churn_conserved {} earlier later (.ofMillis 10) loads hhonest hown, by decide +kernel⟩

end Station

end Liveness
