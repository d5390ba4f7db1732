import Liveness.Proofs.Station.Apart

/-!
# What happens to connectors

Whatever callers and services do, if the attempts of a connector all take some time then they
go on to do so (`Station.serves_act`).  A connector changes only by what has
to do with it.  A timer can have one to itself (`Station.Sole`): no other work has to do
with it then, and there will be none as long as callers stay away from it
(`Station.sole_act`).
-/

namespace Liveness

/-- The connector that work has to do with. -/
def Job.connector? : Job → Option ConnectorId
  | .check _ c | .dial _ c _ | .answer _ c _ _ => some c
  | _ => none

namespace Script

variable {α : Type}

/-- A script goes on with its own answers. -/
theorem mem_of_mem_next {d x : α} (s : Script α) (h : x ∈ (s.next d).2.answers) : x ∈ s.answers := by
  unfold next at h
  split at h
  · exact h
  · exact h
  · rename_i heq
    rw [heq]
    exact List.mem_cons_of_mem _ h

/-- What a script says is one of its answers, unless it has none. -/
theorem next_mem (s : Script α) (d : α) : (s.next d).1 = d ∨ (s.next d).1 ∈ s.answers := by
  unfold next
  split
  · exact .inl rfl
  · rename_i heq
    exact .inr (heq ▸ List.mem_cons_self)
  · rename_i heq
    exact .inr (heq ▸ List.mem_cons_self)

end Script

namespace Connector

/-- Every attempt ends, after a time of some length. -/
def Takes (l : Span) : Connector → Prop
  | .refusing c => c.latency = l
  | .scripted c =>
    (∀ plan ∈ c.plans.answers, plan ≠ .hangs) ∧ c.latency = l ∧ ∀ latency ∈ c.latencies.answers, latency = l

/-- A connector whose attempts take as long as another one's do. -/
def Becomes (conn conn' : Connector) : Prop := ∀ l, conn.Takes l → conn'.Takes l

theorem Becomes.refl (conn : Connector) : conn.Becomes conn := fun _ h => h

theorem Becomes.trans {conn₁ conn₂ conn₃ : Connector} (h : conn₁.Becomes conn₂) (h' : conn₂.Becomes conn₃) :
    conn₁.Becomes conn₃ := fun l ht => h' l (h l ht)

theorem becomes_ask (conn : Connector) : conn.Becomes conn.ask.2 := by
  cases conn with
  | refusing | scripted => exact fun _ h => h

theorem becomes_start (conn : Connector) (now : Int) : conn.Becomes (conn.start now).2.2 := by
  cases conn with
  | refusing c => exact fun _ h => h
  | scripted c =>
    exact fun l ⟨hplans, hlatency, hlatencies⟩ =>
      ⟨fun plan hplan => hplans plan (c.plans.mem_of_mem_next hplan), hlatency,
        fun latency hmem => hlatencies latency (c.latencies.mem_of_mem_next hmem)⟩

/-- An attempt that starts ends after that time. -/
theorem Takes.start {l : Span} {conn : Connector} (h : conn.Takes l) (now : Int) :
    (conn.start now).1.ends = true ∧ (conn.start now).2.1 = l := by
  cases conn with
  | refusing c => exact ⟨rfl, h⟩
  | scripted c =>
    obtain ⟨hplans, hlatency, hlatencies⟩ := h
    constructor
    · have hplan : (c.plans.next .fails).1 ≠ .hangs := by
        rcases c.plans.next_mem .fails with hdefault | hmem
        · rw [hdefault]
          exact AttemptPlan.noConfusion
        · exact hplans _ hmem
      change (Attempt.planned (c.plans.next .fails).1).ends = true
      unfold Attempt.ends
      split
      · rename_i heq
        exact absurd (Attempt.planned.inj heq) hplan
      · rfl
    · change (c.latencies.next c.latency).1 = l
      rcases c.latencies.next_mem c.latency with hdefault | hmem
      · exact hdefault.trans hlatency
      · exact hlatencies _ hmem

theorem becomes_giveUp (conn : Connector) : conn.Becomes conn.giveUp := by
  cases conn with
  | refusing | scripted => exact fun _ h => h

theorem becomes_finish (conn : Connector) (attempt : Attempt) : conn.Becomes (conn.finish attempt).2 := by
  unfold finish
  split
  · dsimp only
    split
    · exact fun _ h => h
    · exact fun _ h => h
  · exact fun _ h => h
  · exact becomes_giveUp _

theorem becomes_setConnected (conn : Connector) (up : Bool) : conn.Becomes (conn.setConnected up) := by
  cases conn with
  | refusing | scripted => exact fun _ h => h

end Connector

namespace Floor

variable {c₀ : Option ConnectorId} {c : ConnectorId} {f f₁ f₂ f₃ : Floor}

/-- All connectors go on, and all but one stay as they are. -/
structure Serves (c₀ : Option ConnectorId) (f f' : Floor) : Prop where
  becomes : ∀ (c : ConnectorId) (conn : Connector), f.connectors[c]? = some conn →
    ∃ conn', f'.connectors[c]? = some conn' ∧ conn.Becomes conn'
  others : ∀ (c : ConnectorId) (conn : Connector), c₀ ≠ some c → f.connectors[c]? = some conn →
    f'.connectors[c]? = some conn

theorem Serves.trans (h : Serves c₀ f₁ f₂) (h' : Serves c₀ f₂ f₃) : Serves c₀ f₁ f₃ where
  becomes := fun c conn hc => by
    obtain ⟨conn₁, hc₁, hbecomes⟩ := h.becomes c conn hc
    obtain ⟨conn₂, hc₂, hbecomes'⟩ := h'.becomes c conn₁ hc₁
    exact ⟨conn₂, hc₂, hbecomes.trans hbecomes'⟩
  others := fun c conn hne hc => h'.others c conn hne (h.others c conn hne hc)

theorem serves_of_connectors (c₀ : Option ConnectorId) (h : f₂.connectors = f₁.connectors) : Serves c₀ f₁ f₂ where
  becomes := fun _ conn hc => ⟨conn, h ▸ hc, .refl conn⟩
  others := fun _ _ _ hc => h ▸ hc

/-- One connector changes. -/
theorem serves_modify {g : Connector → Connector} (hg : ∀ conn, f₁.connectors[c]? = some conn → conn.Becomes (g conn))
    (h : f₂.connectors = f₁.connectors.modify c g) : Serves (some c) f₁ f₂ where
  becomes := fun c' conn hc => by
    rw [h, Array.getElem?_modify]
    split
    · rename_i heq
      subst heq
      exact ⟨g conn, by rw [hc]; rfl, hg conn hc⟩
    · exact ⟨conn, hc, .refl conn⟩
  others := fun c' conn hne hc => by
    rw [h, Array.getElem?_modify, if_neg fun heq => hne (congrArg some heq), hc]

theorem serves_set {conn conn' : Connector} (hc : f₁.connectors[c]? = some conn) (hconn : conn.Becomes conn')
    (h : f₂.connectors = f₁.connectors.setIfInBounds c conn') : Serves (some c) f₁ f₂ where
  becomes := fun c' conn₁ hc₁ => by
    rw [h, Array.getElem?_setIfInBounds]
    split
    · rename_i heq
      subst heq
      obtain rfl := Option.some.inj (hc.symm.trans hc₁)
      exact ⟨conn', if_pos (Array.getElem?_eq_some_iff.mp hc).1, hconn⟩
    · exact ⟨conn₁, hc₁, .refl conn₁⟩
  others := fun c' conn₁ hne hc₁ => by
    rw [h, Array.getElem?_setIfInBounds, if_neg fun heq => hne (congrArg some heq), hc₁]

theorem serves_startAttempt (f : Floor) (now : Int) (c : ConnectorId) :
    Serves (some c) f (f.startAttempt now c).2.2 := by
  unfold startAttempt
  split
  · exact serves_of_connectors _ rfl
  · rename_i conn hc
    exact serves_set hc (conn.becomes_start now) rfl

theorem serves_conclude (f : Floor) (now : Int) (c : ConnectorId) (attempt : Attempt) :
    Serves (some c) f (f.conclude now c attempt).2 := by
  unfold conclude
  split
  · exact serves_of_connectors _ rfl
  · rename_i conn hc
    dsimp only
    split
    · exact serves_set hc (conn.becomes_finish _) rfl
    · exact serves_set hc (conn.becomes_finish _) rfl

theorem serves_answer (f : Floor) (now : Int) (k : TimerId) (c : ConnectorId) (number : Nat) (attempt : Attempt) :
    Serves (some c) f (f.answer now k c number attempt).1 :=
  (serves_conclude f now c attempt).trans (serves_of_connectors _ (connectors_answer f now k c number attempt))

theorem serves_asked (f : Floor) (c : ConnectorId) : Serves (some c) f (f.asked c) :=
  serves_modify (fun conn _ => conn.becomes_ask) rfl

/-- A check asks its connector, or leaves it alone. -/
theorem serves_check (f : Floor) (now : Int) (k : TimerId) (c : ConnectorId) :
    Serves (some c) f (f.check now k c).1 := by
  have hnothing : Serves (some c) f f := serves_of_connectors _ rfl
  by_cases hthere : k < f.timers.size ∧ c < f.connectors.size
  · rcases check_cases hthere.1 hthere.2 now with
      ⟨-, heq⟩ | ⟨-, -, heq⟩ | ⟨-, -, ⟨-, heq⟩ | ⟨task, -, heq⟩⟩ | ⟨-, -, heq⟩
    · rw [heq]
      exact hnothing
    · rw [heq]
      exact serves_asked f c
    · rw [heq]
      exact serves_asked f c
    · rw [heq]
      exact (serves_asked f c).trans (serves_of_connectors _ rfl)
    · rw [heq]
      exact (serves_asked f c).trans (serves_of_connectors _ rfl)
  · have hnone : f.check now k c = (f, {}) := by
      unfold check
      split
      · rename_i ht hx
        exact absurd ⟨(Array.getElem?_eq_some_iff.mp ht).1, (Array.getElem?_eq_some_iff.mp hx).1⟩ hthere
      · rfl
    rw [hnone]
    exact hnothing

/-- Work changes no connector but the one that it has to do with. -/
theorem serves_run (job : Job) (runs : List Run) (now : Int) (f : Floor) :
    Serves job.connector? f (run job runs now f).1 := by
  cases job with
  | check k c => exact serves_check f now k c
  | dial k c number =>
    simp only [run, dial]
    split
    · exact serves_startAttempt f now c
    · split
      · exact (serves_startAttempt f now c).trans (serves_answer _ now k c number _)
      · exact serves_startAttempt f now c
  | answer k c number attempt => exact serves_answer f now k c number attempt
  | traffic n =>
    refine serves_of_connectors _ ?_
    simp only [run, traffic]
    split
    · rfl
    · rfl
  | silence n =>
    refine serves_of_connectors _ ?_
    simp only [run, silence]
    split
    · rfl
    · rfl
  | probe touches panicsAt =>
    refine serves_of_connectors _ ?_
    cases touches with
    | none => rfl
    | some id => rfl
  | sweep | report | note => exact serves_of_connectors _ rfl

end Floor

/-- An agenda with live work and errands of some kind only. -/
structure Agenda.Only (Q : Job → Prop) (a : Agenda Job) : Prop where
  entries : ∀ (i : EntryId) (e : Entry Job), a.entries[i]? = some e → e.isLive → Q e.job
  errands : ∀ job ∈ a.errands, Q job

namespace Agenda.Only

variable {Q : Job → Prop} {a b : Agenda Job}

theorem modify (h : Only Q a) (i : EntryId) {g : Entry Job → Entry Job} (hjob : ∀ e, (g e).job = e.job)
    (hlive : ∀ e, (g e).isLive → e.isLive) : Only Q (a.modify i g) where
  entries := fun j e he hl => by
    rw [Agenda.modify, Array.getElem?_modify] at he
    split at he
    · obtain ⟨e₀, he₀, rfl⟩ := Option.map_eq_some_iff.mp he
      exact hjob e₀ ▸ h.entries j e₀ he₀ (hlive e₀ hl)
    · exact h.entries j e he hl
  errands := h.errands

theorem fulfil (h : Only Q a) {r : Request Job} (hwaits : ∀ x ∈ r.waits, Q x.2) (herrands : ∀ job ∈ r.errands, Q job) :
    Only Q (a.fulfil r) where
  entries := fun i e he hl => by
    rcases of_getElem?_fulfil he with ⟨e₀, he₀, hkept⟩ | ⟨-, -, x, hx, rfl⟩
    · exact hkept.job ▸ h.entries i e₀ he₀ (hkept.isLive hl)
    · exact hwaits x hx
  errands := fun job hjob => by
    rw [errands_fulfil] at hjob
    rcases List.mem_append.mp hjob with hjob | hjob
    · exact h.errands job hjob
    · exact herrands job hjob

theorem grows {taken : Job → Prop} {dropped : EntryId → Prop} (h : Only Q a) (hab : Grows taken dropped a b)
    (htaken : ∀ job, taken job → Q job) : Only Q b where
  entries := fun i e he hl => by
    rcases hab.new he with ⟨e₀, he₀, hkept⟩ | ⟨-, hjob, -, -⟩
    · exact hkept.job ▸ h.entries i e₀ he₀ (hkept.isLive hl)
    · exact htaken _ hjob
  errands := hab.errands ▸ h.errands

end Agenda.Only

namespace Timeline

variable {t : Timeline Job Floor} {c₀ : Option ConnectorId} {i : EntryId} {e : Entry Job} {Q : Job → Prop}

/-- A run changes no connector but the one that the work has to do with. -/
theorem serves_runOnce (he : t.agenda.entries[i]? = some e) (hjob : e.job.connector? = c₀) (due : Int) :
    t.host.Serves c₀ (runOnce Floor.worker i t due).host := by
  refine runOnce_cases Floor.worker (P := fun t' => t.host.Serves c₀ t'.host) due
    (Floor.serves_of_connectors c₀ rfl) fun e' he' _ => ?_
  obtain rfl := Option.some.inj (he.symm.trans he')
  rw [← hjob]
  exact Floor.serves_run e.job e.runs t.agenda.now t.host

theorem serves_wake (hjob : ∀ e, t.agenda.entries[i]? = some e → e.isLive → e.job.connector? = c₀) :
    t.host.Serves c₀ (wake Floor.worker t i).host := by
  by_cases hwaits : ∃ due, t.Waits i due
  · obtain ⟨due, e, he, hdue⟩ := hwaits
    suffices (∃ e, (wake Floor.worker t i).agenda.entries[i]? = some e ∧ e.job.connector? = c₀) ∧
        t.host.Serves c₀ (wake Floor.worker t i).host from this.2
    refine wake_induction Floor.worker (P := fun t' =>
      (∃ e, t'.agenda.entries[i]? = some e ∧ e.job.connector? = c₀) ∧ t.host.Serves c₀ t'.host) ?_ ?_
      ⟨⟨e, he, hjob e he (Entry.isLive_of_due? hdue)⟩, Floor.serves_of_connectors c₀ rfl⟩
    · rintro t' due ⟨⟨e', he', hjob'⟩, hserves⟩
      obtain ⟨e'', he'', hlater⟩ := (goes_runOnce Floor.orderly_worker t' i due).old i e' he'
      exact ⟨⟨e'', he'', hlater.job ▸ hjob'⟩, hserves.trans (serves_runOnce he' hjob' due)⟩
    · rintro t' stage ⟨⟨e', he', hjob'⟩, hserves⟩
      refine ⟨⟨e'.restage stage, ?_, hjob'⟩, hserves⟩
      simp only [Agenda.modify, Array.getElem?_modify, if_true, he', Option.map_some]
  · rw [wake_of_not_waits Floor.worker (not_exists.mp hwaits)]
    exact Floor.serves_of_connectors c₀ rfl

theorem serves_beginNext (t : Timeline Job Floor) :
    t.host.Serves (t.agenda.errands.head?.bind Job.connector?) (beginNext Floor.worker t).host := by
  cases hjobs : t.agenda.errands with
  | nil =>
    simp only [beginNext, hjobs]
    exact Floor.serves_of_connectors _ rfl
  | cons job rest =>
    simp only [beginNext, hjobs]
    exact Floor.serves_run job [] t.agenda.now t.host

section

variable (hQ : ∀ job runs now f, Q job → (∀ x ∈ (Floor.run job runs now f).2.waits, Q x.2) ∧
  ∀ job' ∈ (Floor.run job runs now f).2.errands, Q job')

include hQ

theorem only_wake (h : t.agenda.Only Q) (i : EntryId) : (wake Floor.worker t i).agenda.Only Q := by
  refine wake_induction Floor.worker (P := fun t' => t'.agenda.Only Q) (fun t' due h => ?_) (fun t' stage h => ?_) h
  · refine runOnce_cases Floor.worker (P := fun t' => t'.agenda.Only Q) due h fun e he hlive => ?_
    obtain ⟨hwaits, herrands⟩ := hQ e.job e.runs t'.agenda.now t'.host (h.entries i e he hlive)
    have hran := h.modify i (g := fun e' => e'.ran due t'.agenda.now
      (Floor.run e.job e.runs t'.agenda.now t'.host).2.panicked) (fun _ => rfl) fun _ => Entry.isLive_of_ran
    exact hran.fulfil hwaits herrands
  · exact h.modify i (fun _ => rfl) fun _ => Entry.isLive_of_restage

theorem only_beginNext (h : t.agenda.Only Q) : (beginNext Floor.worker t).agenda.Only Q := by
  cases hjobs : t.agenda.errands with
  | nil =>
    simp only [beginNext, hjobs]
    exact h
  | cons job rest =>
    have herrands := h.errands
    rw [hjobs] at herrands
    have hrest : Agenda.Only Q { t.agenda with errands := rest } :=
      ⟨h.entries, fun job' hmem => herrands job' (List.mem_cons_of_mem job hmem)⟩
    simp only [beginNext, hjobs]
    obtain ⟨hwaits, herrands'⟩ := hQ job [] t.agenda.now t.host (herrands job List.mem_cons_self)
    exact hrest.fulfil hwaits herrands'

end

end Timeline

namespace Station

variable {s : Station} {k : TimerId} {c : ConnectorId} {a : Act}

/-! ## Deeds and acts -/

/-- The connector that a deed has to do with. -/
def Deed.reach? : Deed → Option ConnectorId
  | .setConnected c _ => some c
  | _ => none

theorem connectors_stopTimer (s : Station) (k : TimerId) :
    (s.stopTimer k).2.floor.connectors = s.floor.connectors := by
  unfold stopTimer
  split
  · rfl
  · rfl

/-- Only two deeds have to do with connectors. -/
theorem connectors_perform {d : Deed} (hset : ∀ c up, d ≠ .setConnected c up) (hadd : ∀ conn, d ≠ .addConnector conn) :
    (s.perform d).floor.connectors = s.floor.connectors := by
  cases d with
  | setConnected c up => exact absurd rfl (hset c up)
  | addConnector conn => exact absurd rfl (hadd conn)
  | startSweeper =>
    simp only [perform, startSweeper, every_eq]
    split
    · rfl
    · split <;> rfl
  | stopSweeper =>
    simp only [perform, stopSweeper]
    split
    · rfl
    · split <;> rfl
  | setSweeper settings =>
    simp only [perform, setSweeper]
    cases settings.validate with
    | error e => rfl
    | ok u => cases s.isSweeping <;> rfl
  | every name touches panicsAt delay period => simp only [perform, every_eq]
  | cancel i =>
    simp only [perform]
    split <;> rfl
  | startReporter interval loads =>
    simp only [perform, startReporter, every_eq]
    rfl
  | startSimulation plan =>
    obtain ⟨hub, sim, -, -, heq⟩ := s.startSimulation_eq plan
    simp only [perform, heq]
  | stopSimulation i =>
    simp only [perform, stopSimulation]
    split <;> rfl
  | startTimer k c =>
    simp only [perform, startTimer, every_eq]
    split
    · split
      · rfl
      · split <;> rfl
    · rfl
  | stopTimer k => exact connectors_stopTimer s k
  | setAutoConnect k on =>
    simp only [perform, setAutoConnect]
    split
    · rfl
    · split
      · rfl
      · exact connectors_stopTimer _ k
  | setTimerPeriod k period =>
    simp only [perform, setTimerPeriod]
    split <;> rfl
  | dropTimer k =>
    simp only [perform, dropTimer]
    split
    · exact connectors_stopTimer _ k
    · rfl
  | onHub | sweepNow | once | note | addTimer | holdTimer => rfl

theorem serves_perform (s : Station) (d : Deed) : s.floor.Serves d.reach? (s.perform d).floor := by
  by_cases hset : ∃ c up, d = .setConnected c up
  · obtain ⟨c, up, rfl⟩ := hset
    exact Floor.serves_modify (fun conn _ => conn.becomes_setConnected up) rfl
  by_cases hadd : ∃ conn, d = .addConnector conn
  · obtain ⟨conn, rfl⟩ := hadd
    have hold : ∀ (c : ConnectorId) (conn' : Connector), s.floor.connectors[c]? = some conn' →
        (s.floor.connectors.push conn)[c]? = some conn' := fun c conn' hc =>
      (Array.getElem?_push_lt (Array.getElem?_eq_some_iff.mp hc).1).trans
        (congrArg some (Array.getElem?_eq_some_iff.mp hc).2)
    exact ⟨fun c conn' hc => ⟨conn', hold c conn' hc, .refl conn'⟩, fun c conn' _ hc => hold c conn' hc⟩
  · exact Floor.serves_of_connectors _
      (connectors_perform (fun c up heq => hset ⟨c, up, heq⟩) fun conn heq => hadd ⟨conn, heq⟩)

/-- The connector that an act has to do with. -/
def reach? (s : Station) : Act → Option ConnectorId
  | .deed d => d.reach?
  | .time (.wake i) => ((s.agenda.entries[i]?).filter Entry.isLive).bind fun e => e.job.connector?
  | .time .errand => s.agenda.errands.head?.bind Job.connector?
  | .startAttempt c | .conclude c _ => some c
  | _ => none

/-- No act changes what a connector stays like, and none changes a connector that it has nothing to do with. -/
theorem serves_act (ha : a ≠ .shutdown) : s.floor.Serves (s.reach? a) (s.act a).floor := by
  cases a with
  | deed d => exact serves_perform s d
  | time a =>
    cases a with
    | wake i =>
      refine Timeline.serves_wake (t := s.timeline) fun e he hlive => ?_
      rw [reach?, show s.agenda.entries[i]? = some e from he, Option.filter_some, if_pos hlive]
      rfl
    | errand => exact Timeline.serves_beginNext s.timeline
    | clock | leap => exact Floor.serves_of_connectors _ rfl
  | shutdown => exact absurd rfl ha
  | startAttempt c => exact Floor.serves_startAttempt s.floor s.now c
  | conclude c attempt => exact Floor.serves_conclude s.floor s.now c attempt

/-! ## Connectors of one timer -/

/-- A connector that no work has to do with but that of one timer. -/
def Sole (k : TimerId) (c : ConnectorId) (s : Station) : Prop :=
  s.agenda.Only fun job => job.connector? = some c → job.timer? = some k

/-- Deeds that stay away from a connector. -/
def Deed.avoids (c : ConnectorId) : Deed → Bool
  | .startTimer _ c' | .setConnected c' _ => c' != c
  | _ => true

/-- Acts of callers that stay away from a connector. -/
def Act.avoids (c : ConnectorId) : Act → Bool
  | .deed d => d.avoids c
  | .startAttempt c' | .conclude c' _ => c' != c
  | _ => true

theorem sole_act (ha : a.avoids c) (h : Sole k c s) : Sole k c (s.act a) := by
  have hQ : ∀ job runs now f, (job.connector? = some c → job.timer? = some k) →
      (∀ x ∈ (Floor.run job runs now f).2.waits, x.2.connector? = some c → x.2.timer? = some k) ∧
        ∀ job' ∈ (Floor.run job runs now f).2.errands, job'.connector? = some c → job'.timer? = some k := by
    intro job runs now f hjob
    constructor
    · intro x hx
      obtain ⟨k', c', number, attempt, rfl, heq, -⟩ := Floor.waits_run hx
      rw [heq]
      exact hjob
    · intro job' hjob'
      obtain ⟨k', c', number, rfl, rfl⟩ := Floor.errands_run hjob'
      exact hjob
  cases a with
  | deed d =>
    refine Agenda.Only.grows h (grows_perform s d) fun job htaken hc => ?_
    cases d with
    | startTimer k' c' =>
      obtain rfl : job = .check k' c' := htaken
      exact absurd (Option.some.inj hc) (bne_iff_ne.mp ha)
    | startSweeper =>
      obtain ⟨limit, rfl⟩ := htaken
      cases hc
    | startReporter =>
      obtain ⟨tally, rfl⟩ := htaken
      cases hc
    | startSimulation =>
      obtain ⟨n, rfl | rfl⟩ := htaken
      · cases hc
      · cases hc
    | every | once | note =>
      rw [show job = _ from htaken] at hc
      cases hc
    | _ => cases htaken
  | time a =>
    cases a with
    | wake i => exact Timeline.only_wake (t := s.timeline) hQ h i
    | errand => exact Timeline.only_beginNext (t := s.timeline) hQ h
    | clock | leap => exact ⟨h.entries, h.errands⟩
  | shutdown =>
    refine ⟨fun i e he hlive => ?_, h.errands⟩
    exact absurd hlive (Bool.eq_false_iff.mp (Agenda.isLive_of_stopped s.agenda i e he))
  | startAttempt | conclude => exact h

/-- Others have nothing to do with a connector that a timer has to itself. -/
theorem reach_of_sole (h : Sole k c s) (ha : a.avoids c) (hothers : s.Others k a) : s.reach? a ≠ some c := by
  cases a with
  | deed d =>
    cases d with
    | setConnected c' up => exact fun hc => bne_iff_ne.mp ha (Option.some.inj hc)
    | _ => exact nofun
  | time a =>
    cases a with
    | wake i =>
      intro hc
      obtain ⟨e, he, hc⟩ := Option.bind_eq_some_iff.mp hc
      obtain ⟨he, hlive⟩ := Option.filter_eq_some_iff.mp he
      exact hothers e he hlive (h.entries i e he hlive hc)
    | errand =>
      intro hc
      obtain ⟨job, hhead, hc⟩ := Option.bind_eq_some_iff.mp hc
      exact hothers job hhead (h.errands job (List.mem_of_head? hhead) hc)
    | clock | leap => exact nofun
  | shutdown => exact nofun
  | startAttempt c' | conclude c' => exact fun hc => bne_iff_ne.mp ha (Option.some.inj hc)

end Station

end Liveness
