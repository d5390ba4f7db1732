import Liveness.Proofs.Hub.Expiry
import Liveness.Proofs.Station.Upkeep
import Liveness.Proofs.Station.Visits

/-!
# Who may take devices away

Sweeps come by the schedule of a sweeper that runs, by its task alone, or at a
caller's command.  No other service takes away what has expired
(`Station.apt_of_mem_visits`).
-/

namespace Liveness

namespace Station

/-- What a visit may be in an act: sweeps are of the schedule while the sweeper runs, or by command, and no
other service takes away what has expired. -/
inductive Apt (s : Station) (a : Act) : Visit → Prop
  | caller (op : Hub.Op) : Apt s a (.caller, op)
  | command : a = .deed .sweepNow → Apt s a (.command, .sweep s.now s.sweeper.settings.expireAfter)
  | schedule (i : EntryId) (limit : Span) : a = .time (.wake i) → s.sweeper.task = some i → s.isSweeping →
      (∃ e, s.agenda.entries[i]? = some e ∧ e.job = .sweep limit) → Apt s a (.schedule, .sweep s.now limit)
  | service (op : Hub.Op) : op.expires = false → Apt s a (.service, op)

variable {s : Station} {a : Act} {v : Visit}

theorem apt_of_mem_lines {h h' : Hub} (hv : v ∈ h.lines h') : Apt s a v := by
  obtain ⟨line, -, rfl⟩ := List.mem_map.mp hv
  exact .service _ rfl

theorem expires_talk {h : Hub} {p : Peer} {op : Hub.Op} (hop : op ∈ Floor.talk h p) : op.expires = false := by
  unfold Floor.talk at hop
  split at hop
  · split at hop
    · simp only [List.mem_cons, List.not_mem_nil, or_false] at hop
      rcases hop with rfl | rfl <;> rfl
    · cases hop
  · split at hop
    · simp only [List.mem_cons, List.not_mem_nil, or_false] at hop
      rcases hop with rfl | rfl | rfl <;> rfl
    · cases hop

theorem expires_talks {now : Int} {ps : List Peer} {h : Hub} {op : Hub.Op} (hop : op ∈ Floor.talks now h ps) :
    op.expires = false := by
  induction ps generalizing h with
  | nil => cases hop
  | cons p ps ih =>
    rcases List.mem_append.mp hop with hop | hop
    · exact expires_talk hop
    · exact ih hop

/-- The calls of a run are a sweep of the schedule or those of another service. -/
theorem visits_of_run {f : Floor} {runs : List Run} {now : Int} {job : Job} (hv : v ∈ f.visits runs now job) :
    (∃ limit, job = .sweep limit ∧ v = (.schedule, .sweep now limit)) ∨
      v.1 = .service ∧ v.2.expires = false := by
  have hlines : ∀ {h h' : Hub}, v ∈ h.lines h' → v.1 = .service ∧ v.2.expires = false := by
    intro h h' hv
    obtain ⟨line, -, rfl⟩ := List.mem_map.mp hv
    exact ⟨rfl, rfl⟩
  cases job with
  | sweep limit => exact .inl ⟨limit, rfl, List.mem_singleton.mp hv⟩
  | report tally loads =>
    obtain rfl := List.mem_singleton.mp hv
    exact .inr ⟨rfl, rfl⟩
  | traffic i =>
    simp only [Floor.visits] at hv
    split at hv
    · cases hv
    · obtain ⟨op, hop, rfl⟩ := List.mem_map.mp hv
      exact .inr ⟨rfl, expires_talks hop⟩
  | probe touches panicsAt =>
    cases touches with
    | none => cases hv
    | some id =>
      obtain rfl := List.mem_singleton.mp hv
      exact .inr ⟨rfl, rfl⟩
  | silence | check | dial | answer | note => exact .inr (hlines hv)

theorem apt_deed {d : Deed} (hv : v ∈ d.visits s) : Apt s (.deed d) v := by
  cases d with
  | onHub op =>
    obtain rfl := List.mem_singleton.mp hv
    exact .caller op
  | sweepNow =>
    obtain rfl := List.mem_singleton.mp hv
    exact .command rfl
  | startReporter interval loads =>
    rcases List.mem_cons.mp hv with rfl | hv
    · exact .service _ rfl
    · exact apt_of_mem_lines hv
  | startSimulation plan =>
    rcases List.mem_append.mp hv with hv | hv
    · rcases List.mem_append.mp hv with hv | hv
      · obtain ⟨k, -, rfl⟩ := List.mem_map.mp hv
        exact .service _ rfl
      · obtain ⟨p, -, rfl⟩ := List.mem_map.mp hv
        exact .service _ rfl
    · exact apt_of_mem_lines hv
  | startSweeper | stopSweeper | setSweeper | every | once | cancel | note | stopSimulation | addTimer
  | startTimer | stopTimer | setAutoConnect | setTimerPeriod | holdTimer | dropTimer | addConnector
  | setConnected => exact apt_of_mem_lines hv

/-- Runs leave the sweeper's own settings alone. -/
theorem sweeper_of_mem_runsOf {i : EntryId} {dues : List Int} {x : Station × Station}
    (hx : x ∈ s.runsOf i dues) : x.1.sweeper = s.sweeper ∧ x.1.now = s.now := by
  induction dues generalizing s with
  | nil => cases hx
  | cons due dues ih =>
    rcases List.mem_cons.mp hx with rfl | hx
    · exact ⟨rfl, rfl⟩
    · obtain ⟨hsweeper, hnow⟩ := ih hx
      exact ⟨hsweeper, hnow.trans (now_runOnce s i due)⟩

theorem apt_wake (h : s.IsTended) {i : EntryId} (hv : v ∈ s.visits (.time (.wake i))) :
    Apt s (.time (.wake i)) v := by
  obtain ⟨x, hx, hv⟩ := List.mem_flatMap.mp hv
  have hwaits : ∃ e due, s.agenda.entries[i]? = some e ∧ e.due? = some due := by
    unfold runs at hx
    split at hx
    · cases hx
    · rename_i e he
      split at hx
      · cases hx
      · rename_i due hdue
        exact ⟨e, due, he, hdue⟩
  obtain ⟨e, due, he, hdue⟩ := hwaits
  obtain ⟨dues, hx⟩ := mem_runs hx
  obtain ⟨hsweeper, hnow⟩ := sweeper_of_mem_runsOf hx
  have htended : x.1.IsTended := tended_of_mem_runsOf h hx
  unfold runVisits at hv
  split at hv
  · cases hv
  · rename_i e' he'
    split at hv
    · rename_i hlive
      rcases visits_of_run hv with ⟨limit, hjob, rfl⟩ | ⟨hsource, hexpires⟩
      · have htask : s.sweeper.task = some i := hsweeper ▸ htended.sweeps i e' limit he' hjob hlive
        rw [hnow]
        obtain ⟨e₁, he₁, hsame⟩ := job_of_mem_runsOf hx he
        obtain rfl := Option.some.inj (he'.symm.trans he₁)
        refine .schedule i limit rfl htask ?_ ⟨e, he, hsame.symm.trans hjob⟩
        rw [isSweeping, isScheduled_of_task htask he, (Entry.due?_eq_some.mp hdue).1]
        rfl
      · obtain ⟨source, op⟩ := v
        obtain rfl : source = .service := hsource
        exact .service op hexpires
    · cases hv

/-- Every visit is apt. -/
theorem apt_of_mem_visits (h : s.IsTended) (hv : v ∈ s.visits a) : Apt s a v := by
  cases a with
  | deed d => exact apt_deed hv
  | time a =>
    cases a with
    | wake i => exact apt_wake h hv
    | errand =>
      cases hjobs : s.agenda.errands with
      | nil =>
        simp only [visits, hjobs] at hv
        cases hv
      | cons job rest =>
        simp only [visits, hjobs] at hv
        obtain ⟨⟨k, c, number, rfl⟩, -⟩ := h.errands job (by rw [hjobs]; exact List.mem_cons_self)
        exact apt_of_mem_lines hv
    | clock | leap => cases hv
  | conclude c attempt => exact apt_of_mem_lines hv
  | shutdown | startAttempt => cases hv

end Station

end Liveness
