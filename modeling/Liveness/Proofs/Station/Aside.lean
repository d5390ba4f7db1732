import Liveness.Proofs.Station.Peers
import Liveness.Proofs.Station.Schedule

/-!
# Work beside a simulation

Reports, reconnects, notes and tasks that touch nothing go on beside a simulation.  They
only write to the log and tally what is told, so devices, connections and simulations
stay as they are (`Floor.Aside`); and all that is taken on in the meantime is more of
the same (`Agenda.Peaceful`).
-/

namespace Liveness

/-- Work that has nothing to do with devices and connections. -/
def Job.isAside : Job → Bool
  | .report .. | .check .. | .dial .. | .answer .. | .probe none _ | .note _ => true
  | _ => false

namespace Floor

/-- The devices, the connections and the simulations are the same. -/
structure Aside (f f' : Floor) : Prop where
  hub : Hub.SameAll f.hub f'.hub
  simulations : f'.simulations = f.simulations

variable {f f₁ f₂ : Floor} {now : Int} {job : Job}

theorem Aside.refl (f : Floor) : f.Aside f := ⟨.refl f.hub, rfl⟩

theorem Aside.trans (h : f.Aside f₁) (h' : f₁.Aside f₂) : f.Aside f₂ :=
  ⟨h.hub.trans h'.hub, h'.simulations.trans h.simulations⟩

theorem simulations_release (f : Floor) (k : TimerId) : (f.release k).1.simulations = f.simulations := by
  unfold release
  split
  · rfl
  · split <;> rfl

theorem simulations_startAttempt (f : Floor) (now : Int) (c : ConnectorId) :
    (f.startAttempt now c).2.2.simulations = f.simulations := by
  unfold startAttempt
  split <;> rfl

theorem simulations_conclude (f : Floor) (now : Int) (c : ConnectorId) (attempt : Attempt) :
    (f.conclude now c attempt).2.simulations = f.simulations := by
  unfold conclude
  split
  · rfl
  · dsimp only
    split <;> rfl

theorem simulations_answer (f : Floor) (now : Int) (k : TimerId) (c : ConnectorId) (number : Nat) (attempt : Attempt) :
    (f.answer now k c number attempt).1.simulations = f.simulations := by
  refine (simulations_release _ k).trans (Eq.trans ?_ (simulations_conclude f now c attempt))
  split <;> rfl

theorem simulations_dial (f : Floor) (now : Int) (k : TimerId) (c : ConnectorId) (number : Nat) :
    (f.dial now k c number).1.simulations = f.simulations := by
  unfold dial
  dsimp only
  split
  · exact simulations_startAttempt f now c
  · split
    · exact (simulations_answer _ now k c number _).trans (simulations_startAttempt f now c)
    · exact simulations_startAttempt f now c

theorem simulations_check (f : Floor) (now : Int) (k : TimerId) (c : ConnectorId) :
    (f.check now k c).1.simulations = f.simulations := by
  unfold check
  split
  · split
    · rfl
    · dsimp only
      split
      · rfl
      · split <;> rfl
      · rfl
  · rfl

theorem isAside_lines {h h' : Hub} {v : Visit} (hv : v ∈ h.lines h') : v.2.isAside = true := by
  obtain ⟨line, -, rfl⟩ := List.mem_map.mp hv
  rfl

theorem isAside_visits (hjob : job.isAside) {runs : List Run} {v : Visit} (hv : v ∈ f.visits runs now job) :
    v.2.isAside = true := by
  cases job with
  | report tally loads =>
    obtain rfl := List.mem_singleton.mp hv
    rfl
  | probe touches panicsAt =>
    cases touches with
    | none => cases hv
    | some id => cases hjob
  | check | dial | answer | note => exact isAside_lines hv
  | sweep | traffic | silence => cases hjob

/-- Work that is aside leaves devices, connections and simulations alone. -/
theorem aside_run (hjob : job.isAside) (runs : List Run) (now : Int) (f : Floor) :
    f.Aside (run job runs now f).1 := by
  refine ⟨(receives_run f job runs).sameAll fun v hv => isAside_visits hjob hv, ?_⟩
  cases job with
  | check k c => exact simulations_check f now k c
  | dial k c number => exact simulations_dial f now k c number
  | answer k c number attempt => exact simulations_answer f now k c number attempt
  | report | note => rfl
  | probe touches panicsAt =>
    cases touches with
    | none => rfl
    | some id => cases hjob
  | sweep | traffic | silence => cases hjob

end Floor

/-! ## The agenda -/

/-- All live work is aside but that under some numbers. -/
def Agenda.Peaceful (steady : EntryId → Prop) (a : Agenda Job) : Prop :=
  ∀ (i : EntryId) (e : Entry Job), a.entries[i]? = some e → e.isLive → e.job.isAside = true ∨ steady i

section

variable {steady : EntryId → Prop} {a : Agenda Job} {t : Timeline Job Floor}

theorem Agenda.Peaceful.modify (h : a.Peaceful steady) (i : EntryId) {g : Entry Job → Entry Job}
    (hjob : ∀ e : Entry Job, (g e).job = e.job) (hlive : ∀ e : Entry Job, (g e).isLive → e.isLive) :
    (a.modify i g).Peaceful steady := by
  intro j e he hl
  rw [Agenda.modify, Array.getElem?_modify] at he
  split at he
  · obtain ⟨e₀, he₀, rfl⟩ := Option.map_eq_some_iff.mp he
    rw [hjob]
    exact h j e₀ he₀ (hlive e₀ hl)
  · exact h j e he hl

/-- Work asks for nothing but work that is aside. -/
theorem Agenda.Peaceful.fulfil (h : a.Peaceful steady) (job : Job) (runs : List Run) (now : Int) (f : Floor) :
    (a.fulfil (Floor.run job runs now f).2).Peaceful steady := by
  intro i e he hlive
  rcases Agenda.of_getElem?_fulfil he with ⟨e₀, he₀, hkept⟩ | ⟨-, -, x, hx, rfl⟩
  · rw [hkept.job]
    exact h i e₀ he₀ (hkept.isLive hlive)
  · obtain ⟨k, c, number, attempt, -, hanswer, -⟩ := Floor.waits_run hx
    refine .inl ?_
    change Job.isAside x.2 = true
    rw [hanswer]
    rfl

namespace Timeline

theorem peaceful_runOnce (h : t.agenda.Peaceful steady) (i : EntryId) (due : Int) :
    (runOnce Floor.worker i t due).agenda.Peaceful steady := by
  refine runOnce_cases Floor.worker (P := fun t => t.agenda.Peaceful steady) due h fun e _ _ => ?_
  refine Agenda.Peaceful.fulfil (h.modify i ?_ ?_) e.job e.runs _ _
  · exact fun _ => rfl
  · exact fun _ => Entry.isLive_of_ran

theorem peaceful_wake (h : t.agenda.Peaceful steady) (i : EntryId) :
    (wake Floor.worker t i).agenda.Peaceful steady :=
  wake_induction Floor.worker (P := fun t => t.agenda.Peaceful steady) (fun _ due h => peaceful_runOnce h i due)
    (fun _ _ h => h.modify i (fun _ => rfl) fun _ => Entry.isLive_of_restage) h

theorem peaceful_beginNext (h : t.agenda.Peaceful steady) : (beginNext Floor.worker t).agenda.Peaceful steady := by
  unfold beginNext
  split
  · exact h
  · rename_i job rest _
    exact Agenda.Peaceful.fulfil (a := { t.agenda with errands := rest }) h job [] _ _

/-- An entry that is aside wakes up. -/
theorem aside_wake {i : EntryId} {e : Entry Job} (he : t.agenda.entries[i]? = some e) (hjob : e.job.isAside) :
    t.host.Aside (wake Floor.worker t i).host := by
  suffices (∃ e', (wake Floor.worker t i).agenda.entries[i]? = some e' ∧ e'.job.isAside) ∧
      t.host.Aside (wake Floor.worker t i).host from this.2
  refine wake_induction Floor.worker
    (P := fun t' => (∃ e', t'.agenda.entries[i]? = some e' ∧ e'.job.isAside) ∧ t.host.Aside t'.host) ?_ ?_
    ⟨⟨e, he, hjob⟩, .refl _⟩
  · rintro t' due ⟨⟨e₁, he₁, hjob₁⟩, haside⟩
    obtain ⟨e₂, he₂, hlater⟩ := (goes_runOnce Floor.orderly_worker t' i due).old i e₁ he₁
    refine ⟨⟨e₂, he₂, hlater.job ▸ hjob₁⟩, ?_⟩
    refine runOnce_cases Floor.worker (P := fun t'' => t.host.Aside t''.host) due haside fun e' he' _ => ?_
    obtain rfl := Option.some.inj (he₁.symm.trans he')
    exact haside.trans (Floor.aside_run hjob₁ _ _ _)
  · rintro t' stage ⟨⟨e₁, he₁, hjob₁⟩, haside⟩
    refine ⟨⟨e₁.restage stage, ?_, hjob₁⟩, haside⟩
    simp only [Agenda.modify, Array.getElem?_modify, if_true, he₁, Option.map_some]

end Timeline

end

/-! ## Acts -/

namespace Station

/-- Deeds that have nothing to do with devices and connections, nor with the sweeper or simulations. -/
def Deed.isAside : Deed → Bool
  | .every _ none _ _ _ | .once _ none _ _ | .cancel _ | .note .. | .startReporter .. | .addTimer _ | .startTimer ..
  | .stopTimer _ | .setAutoConnect .. | .setTimerPeriod .. | .holdTimer _ | .dropTimer _ | .addConnector _
  | .setConnected .. => true
  | _ => false

/-- Acts that are aside, and what the clock brings if it only advances. -/
def Act.isAside : Act → Bool
  | .deed d => d.isAside
  | .time (.leap _) | .shutdown => false
  | _ => true

/-- Orders that are aside, and the clock only advances. -/
def Order.isAside : Order → Bool
  | .deed d => d.isAside
  | .jump _ | .shutdown => false
  | _ => true

variable {s : Station} {a : Act} {steady : EntryId → Prop}

theorem Act.not_leap_of_isAside (ha : a.isAside) (now : Int) : a ≠ .time (.leap now) := by
  rintro rfl
  cases ha

theorem Deed.not_isStop {d : Deed} (hd : d.isAside) : d.isStop = false := by
  cases d with
  | stopSweeper => cases hd
  | _ => rfl

theorem Order.isCalm_of_isAside {o : Order} (ho : o.isAside) : o.isCalm := by
  cases o with
  | deed d =>
    change (!d.isStop) = true
    rw [Deed.not_isStop ho]
    rfl
  | jump | shutdown => cases ho
  | settle | advance | connect => rfl

theorem isAside_plan {orders : List Order} (horders : ∀ o ∈ orders, o.isAside) : ∀ a ∈ s.plan orders, a.isAside := by
  intro a ha
  have hcalm : a.isCalm := isCalm_plan (fun o ho => Order.isCalm_of_isAside (horders o ho)) a ha
  cases a with
  | deed d => exact horders _ (deed_mem_plan ha)
  | time a =>
    cases a with
    | leap => cases hcalm
    | wake | errand | clock => rfl
  | shutdown => cases hcalm
  | startAttempt | conclude => rfl

/-- Work that is taken on in a deed that is aside is aside as well. -/
theorem isAside_of_takes {d : Deed} {job : Job} (hd : d.isAside) (h : d.Takes job) : job.isAside := by
  cases d with
  | every name touches panicsAt delay period =>
    cases touches with
    | none =>
      obtain rfl := h
      rfl
    | some id => cases hd
  | once name touches panicsAt delay =>
    cases touches with
    | none =>
      obtain rfl := h
      rfl
    | some id => cases hd
  | note | startTimer =>
    obtain rfl := h
    rfl
  | startReporter interval loads =>
    obtain ⟨k, rfl⟩ := h
    rfl
  | cancel | addTimer | stopTimer | setAutoConnect | setTimerPeriod | holdTimer | dropTimer | addConnector
  | setConnected => cases h
  | onHub | sweepNow | startSweeper | stopSweeper | setSweeper | startSimulation | stopSimulation => cases hd

theorem peaceful_act (h : s.agenda.Peaceful steady) (ha : a.isAside) : (s.act a).agenda.Peaceful steady := by
  cases a with
  | deed d =>
    intro i e he hlive
    rcases (grows_perform s d).new he with ⟨e₀, he₀, hkept⟩ | ⟨-, htakes, -⟩
    · rw [hkept.job]
      exact h i e₀ he₀ (hkept.isLive hlive)
    · exact .inl (isAside_of_takes ha htakes)
  | time a =>
    cases a with
    | wake i => exact Timeline.peaceful_wake (t := s.timeline) h i
    | errand => exact Timeline.peaceful_beginNext (t := s.timeline) h
    | clock => exact h
    | leap => cases ha
  | shutdown => cases ha
  | startAttempt | conclude => exact h

theorem simulations_stopTimer (s : Station) (k : TimerId) :
    (s.stopTimer k).2.floor.simulations = s.floor.simulations := by
  unfold stopTimer
  split <;> rfl

theorem aside_perform {d : Deed} (hd : d.isAside) : s.floor.Aside (s.perform d).floor := by
  constructor
  · refine (receives_perform s d).sameAll fun v hv => ?_
    cases d with
    | startReporter interval loads =>
      rcases List.mem_cons.mp hv with rfl | hv
      · rfl
      · exact Floor.isAside_lines hv
    | every | once | cancel | note | addTimer | startTimer | stopTimer | setAutoConnect | setTimerPeriod | holdTimer
    | dropTimer | addConnector | setConnected => exact Floor.isAside_lines hv
    | onHub | sweepNow | startSweeper | stopSweeper | setSweeper | startSimulation | stopSimulation => cases hd
  · cases d with
    | every name touches panicsAt delay period =>
      exact congrArg (·.2.floor.simulations) (every_eq s name _ delay period)
    | startReporter interval loads =>
      exact congrArg (·.2.floor.simulations)
        (every_eq ((s.onHub Hub.addTally).2.log (.reporterStarted interval)) "stats" _ interval interval)
    | cancel i =>
      simp only [perform]
      split <;> rfl
    | startTimer k c =>
      simp only [perform, startTimer, every_eq]
      split
      · split
        · rfl
        · split <;> rfl
      · rfl
    | stopTimer k => exact simulations_stopTimer s k
    | setAutoConnect k on =>
      simp only [perform, setAutoConnect]
      split
      · rfl
      · split
        · rfl
        · exact simulations_stopTimer _ k
    | setTimerPeriod k period =>
      simp only [perform, setTimerPeriod]
      split <;> rfl
    | dropTimer k =>
      simp only [perform, dropTimer]
      split
      · exact simulations_stopTimer _ k
      · rfl
    | once | note | addTimer | holdTimer | addConnector | setConnected => rfl
    | onHub | sweepNow | startSweeper | stopSweeper | setSweeper | startSimulation | stopSimulation => cases hd

/-- Acts that are aside, but for work that wakes up, leave devices, connections and simulations alone. -/
theorem aside_act (h : s.IsTended) (ha : a.isAside) (hwake : ∀ i, a ≠ .time (.wake i)) :
    s.floor.Aside (s.act a).floor := by
  cases a with
  | deed d => exact aside_perform ha
  | time a =>
    cases a with
    | wake i => exact absurd rfl (hwake i)
    | errand =>
      change s.floor.Aside (Timeline.beginNext Floor.worker s.timeline).host
      unfold Timeline.beginNext
      split
      · exact .refl _
      · rename_i job rest hjobs
        obtain ⟨⟨k, c, number, rfl⟩, -⟩ := h.errands job (by
          rw [show s.agenda.errands = job :: rest from hjobs]
          exact List.mem_cons_self)
        have hdial : (Job.dial k c number).isAside := rfl
        exact Floor.aside_run hdial [] _ _
    | clock => exact .refl _
    | leap => cases ha
  | shutdown => cases ha
  | startAttempt c =>
    refine ⟨?_, Floor.simulations_startAttempt s.floor s.now c⟩
    change Hub.SameAll s.floor.hub (s.floor.startAttempt s.now c).2.2.hub
    rw [Floor.hub_startAttempt]
    exact .refl _
  | conclude c attempt =>
    exact ⟨(Floor.logs_conclude s.floor c attempt).sameAll, Floor.simulations_conclude s.floor s.now c attempt⟩

end Station

end Liveness
