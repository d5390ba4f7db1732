import Liveness.Proofs.Station.Floor

/-!
# Who looks after which work

The agenda and the floor refer to each other: the sweeper and each timer have the number
of their task, a simulation has those of its work, and checks and attempts have the
numbers of their timers and connectors.  `Refers` says that these numbers are right, and
`Tended` that moreover a live sweep is the task of the sweeper and a live check that of
its timer.  Every act keeps both (`Station.tended_act`), so work is cancelled only by
those whose it is.
-/

namespace Liveness

/-- Work whose timer and connector are there. -/
def Floor.Able (f : Floor) : Job → Prop
  | .check k c | .dial k c _ | .answer k c .. => k < f.timers.size ∧ c < f.connectors.size
  | _ => True

/-- An entry whose timer and connector are there.  Attempts on the agenda are errands that go on once. -/
structure Floor.Fits (f : Floor) (e : Entry Job) : Prop where
  able : f.Able e.job
  once : ∀ k c number attempt, e.job = .answer k c number attempt → e.period = none ∧ e.errand = true
  begun : ∀ k c number, e.job ≠ .dial k c number

/-- Work that belongs to one that has the number of its task. -/
def Job.isOwned : Job → Bool
  | .sweep .. | .check .. => true
  | _ => false

/-- An agenda and a floor that refer to each other rightly, but for the tasks of timers. -/
structure Refers (a : Agenda Job) (f : Floor) : Prop where
  entries : ∀ (i : EntryId) (e : Entry Job), a.entries[i]? = some e → f.Fits e
  simulations : ∀ (n : SimulationId) (sim : Simulation), f.simulations[n]? = some sim →
    (∃ e, a.entries[sim.traffic]? = some e ∧ e.job = .traffic n) ∧
      ∃ e, a.entries[sim.silence]? = some e ∧ e.job = .silence n
  errands : ∀ job ∈ a.errands, (∃ k c number, job = .dial k c number) ∧ f.Able job
  ended : a.isShutdown = true →
    a.errands = [] ∧ ∀ (i : EntryId) (e : Entry Job), a.entries[i]? = some e → e.isLive = false

/-- An agenda, a floor and a sweeper with some task that refer to each other rightly. -/
structure Tended (task : Option EntryId) (a : Agenda Job) (f : Floor) : Prop extends Refers a f where
  sweeper : ∀ i, task = some i → ∃ e limit, a.entries[i]? = some e ∧ e.job = .sweep limit
  sweeps : ∀ (i : EntryId) (e : Entry Job) limit, a.entries[i]? = some e → e.job = .sweep limit → e.isLive →
    task = some i
  tasks : ∀ k i, (f.timer k).task = some i → ∃ e c, a.entries[i]? = some e ∧ e.job = .check k c
  checks : ∀ (i : EntryId) (e : Entry Job) k c, a.entries[i]? = some e → e.job = .check k c → e.isLive →
    (f.timer k).task = some i

namespace Floor

variable {f f' : Floor} {e e' : Entry Job} {job : Job}

theorem Able.roomier (h : f.Able job) (hf : f.Roomier f') : f'.Able job := by
  cases job with
  | check | dial | answer => exact ⟨Nat.lt_of_lt_of_le h.1 hf.timers, Nat.lt_of_lt_of_le h.2 hf.connectors⟩
  | sweep | report | traffic | silence | probe | note => trivial

theorem able_of_not_isOfTimer (f : Floor) (h : job.isOfTimer = false) : f.Able job := by
  cases job with
  | check | dial | answer => cases h
  | sweep | report | traffic | silence | probe | note => trivial

theorem Fits.roomier (h : f.Fits e) (hf : f.Roomier f') : f'.Fits e :=
  ⟨h.able.roomier hf, h.once, h.begun⟩

theorem Fits.later (h : f.Fits e) (hlater : e.Later e') : f.Fits e' where
  able := by rw [hlater.job]; exact h.able
  once := by rw [hlater.job, hlater.period, hlater.errand]; exact h.once
  begun := by rw [hlater.job]; exact h.begun

theorem fits_of_not_isOfTimer (f : Floor) (h : e.job.isOfTimer = false) : f.Fits e where
  able := able_of_not_isOfTimer f h
  once := fun k c number attempt hjob => by rw [hjob] at h; cases h
  begun := fun k c number hjob => by rw [hjob] at h; cases h

end Floor

/-- An agenda later on: nothing that has ended is live again, and there may be new entries. -/
structure Agenda.Ages (P : Entry Job → Prop) (a b : Agenda Job) : Prop where
  isShutdown : b.isShutdown = a.isShutdown
  old : ∀ (i : EntryId) (e : Entry Job), a.entries[i]? = some e →
    ∃ e', b.entries[i]? = some e' ∧ e.Later e' ∧ (e'.isLive → e.isLive)
  new : ∀ (i : EntryId) (e' : Entry Job), b.entries[i]? = some e' → a.entries[i]? = none →
    P e' ∧ (a.isShutdown = true → e'.isLive = false)

namespace Agenda

variable {P : Entry Job → Prop} {a b : Agenda Job}

theorem ages_modify (a : Agenda Job) (i : EntryId) {g : Entry Job → Entry Job}
    (hlater : ∀ e : Entry Job, e.Later (g e)) (hlive : ∀ e, (g e).isLive → e.isLive) :
    Ages P a (a.modify i g) where
  isShutdown := rfl
  old := fun j e he => by
    simp only [modify, Array.getElem?_modify, he]
    split
    · exact ⟨g e, rfl, hlater e, hlive e⟩
    · exact ⟨e, rfl, .refl e, id⟩
  new := fun j e' he' hnone => by
    simp only [modify, Array.getElem?_modify, hnone] at he'
    split at he' <;> cases he'

theorem ages_stopped (a : Agenda Job) : Ages P a a.stopped where
  isShutdown := rfl
  old := fun i e he => by
    have he' : a.stopped.entries[i]? = some { e with cancelled := true, stage := .ended } := by
      rw [stopped, Array.getElem?_map, he]
      rfl
    exact ⟨_, he', ⟨rfl, rfl, rfl, fun _ => rfl⟩, fun hl => by simp [Entry.isLive] at hl⟩
  new := fun i e' he' hnone => by
    rw [stopped, Array.getElem?_map, hnone] at he'
    cases he'

theorem ages_cancel (a : Agenda Job) (i : EntryId) : Ages P a (a.cancel i) :=
  ages_modify a i (fun _ => ⟨rfl, rfl, rfl, fun _ => rfl⟩) fun e h => by simp [Entry.isLive] at h

theorem ages_refl (a : Agenda Job) : Ages P a a where
  isShutdown := rfl
  old := fun i e he => ⟨e, he, .refl e, id⟩
  new := fun i e he hnone => by
    rw [hnone] at he
    cases he

theorem ages_add (a : Agenda Job) (e : Entry Job) (hP : P (a.enrol e)) : Ages P a (a.add e).2 where
  isShutdown := rfl
  old := fun i e₀ he₀ => ⟨e₀, getElem?_add_of_lt e he₀, .refl e₀, id⟩
  new := fun i e' he' hnone => by
    rw [add_eq, Array.getElem?_push] at he'
    split at he'
    · obtain rfl := Option.some.inj he'
      exact ⟨hP, fun hdown => isLive_enrol hdown e⟩
    · rw [hnone] at he'
      cases he'

/-- A job goes on as an errand after a wait. -/
theorem ages_wait (a : Agenda Job) (job : Job) (delay : Option Span) :
    Ages (fun e => e.job = job ∧ e.period = none ∧ e.errand = true) a (a.wait job delay) := by
  unfold wait
  split
  · exact ages_refl a
  · refine ages_add a _ ⟨job_enrol a _, period_enrol a _, ?_⟩
    unfold enrol
    split <;> rfl

end Agenda

variable {task : Option EntryId} {a b : Agenda Job} {f f' : Floor} {i : EntryId} {k : TimerId}

namespace Refers

variable {P : Entry Job → Prop}

/-- Entries may run and end, and others may be taken on that refer rightly. -/
theorem ages (h : Refers a f) (hab : a.Ages P b) (herrands : b.errands = a.errands)
    (hP : ∀ e, P e → f.Fits e) : Refers b f where
  entries := fun i e' he' => by
    cases he : a.entries[i]? with
    | none => exact hP e' (hab.new i e' he' he).1
    | some e =>
      obtain ⟨e'', he'', hlater, -⟩ := hab.old i e he
      obtain rfl := Option.some.inj (he'.symm.trans he'')
      exact (h.entries i e he).later hlater
  simulations := fun n sim hsim => by
    obtain ⟨⟨e, he, hjob⟩, e₁, he₁, hjob₁⟩ := h.simulations n sim hsim
    obtain ⟨e', he', hlater, -⟩ := hab.old _ e he
    obtain ⟨e₁', he₁', hlater₁, -⟩ := hab.old _ e₁ he₁
    exact ⟨⟨e', he', hlater.job.trans hjob⟩, e₁', he₁', hlater₁.job.trans hjob₁⟩
  errands := herrands ▸ h.errands
  ended := fun hs => by
    rw [hab.isShutdown] at hs
    obtain ⟨hnil, hended⟩ := h.ended hs
    refine ⟨herrands.trans hnil, fun i e' he' => ?_⟩
    cases he : a.entries[i]? with
    | none => exact (hab.new i e' he' he).2 hs
    | some e =>
      obtain ⟨e'', he'', -, hlive⟩ := hab.old i e he
      obtain rfl := Option.some.inj (he'.symm.trans he'')
      exact Bool.eq_false_iff.mpr fun hl => Bool.eq_false_iff.mp (hended i e he) (hlive hl)

theorem roomier (h : Refers a f) (hf : f.Roomier f') : Refers a f' where
  entries := fun i e he => (h.entries i e he).roomier hf
  simulations := fun n sim' hsim' => by
    obtain ⟨sim, hsim, htraffic, hsilence⟩ := hf.simulations n sim' hsim'
    rw [htraffic, hsilence]
    exact h.simulations n sim hsim
  errands := fun job hjob => ⟨(h.errands job hjob).1, (h.errands job hjob).2.roomier hf⟩
  ended := h.ended

/-- Another list of errands. -/
theorem withErrands (h : Refers a f) {jobs : List Job} (hup : a.isShutdown = false)
    (hjobs : ∀ job ∈ jobs, (∃ k c number, job = .dial k c number) ∧ f.Able job) :
    Refers { a with errands := jobs } f where
  entries := h.entries
  simulations := h.simulations
  errands := hjobs
  ended := fun hs => absurd (hup.symm.trans hs) Bool.false_ne_true

end Refers

namespace Tended

variable {P : Entry Job → Prop}

/-- Entries may run and end, and others may be taken on that belong to no one. -/
theorem ages (h : Tended task a f) (hab : a.Ages P b) (herrands : b.errands = a.errands)
    (hP : ∀ e, P e → f.Fits e ∧ (e.isLive → e.job.isOwned = false)) : Tended task b f where
  toRefers := h.toRefers.ages hab herrands fun e he => (hP e he).1
  sweeper := fun i hi => by
    obtain ⟨e, limit, he, hjob⟩ := h.sweeper i hi
    obtain ⟨e', he', hlater, -⟩ := hab.old i e he
    exact ⟨e', limit, he', hlater.job.trans hjob⟩
  sweeps := fun i e' limit he' hjob hl => by
    cases he : a.entries[i]? with
    | none =>
      have hfree := (hP e' (hab.new i e' he' he).1).2 hl
      rw [hjob] at hfree
      cases hfree
    | some e =>
      obtain ⟨e'', he'', hlater, hlive⟩ := hab.old i e he
      obtain rfl := Option.some.inj (he'.symm.trans he'')
      exact h.sweeps i e limit he (hlater.job.symm.trans hjob) (hlive hl)
  tasks := fun k i hi => by
    obtain ⟨e, c, he, hjob⟩ := h.tasks k i hi
    obtain ⟨e', he', hlater, -⟩ := hab.old i e he
    exact ⟨e', c, he', hlater.job.trans hjob⟩
  checks := fun i e' k c he' hjob hl => by
    cases he : a.entries[i]? with
    | none =>
      have hfree := (hP e' (hab.new i e' he' he).1).2 hl
      rw [hjob] at hfree
      cases hfree
    | some e =>
      obtain ⟨e'', he'', hlater, hlive⟩ := hab.old i e he
      obtain rfl := Option.some.inj (he'.symm.trans he'')
      exact h.checks i e k c he (hlater.job.symm.trans hjob) (hlive hl)

/-- Some timers may lose their tasks, if these have ended. -/
theorem roomier (h : Tended task a f) (hf : f.Roomier f')
    (htasks : ∀ k i, (f'.timer k).task = some i → (f.timer k).task = some i)
    (hlive : ∀ k i e, (f.timer k).task = some i → a.entries[i]? = some e → e.isLive →
      (f'.timer k).task = some i) : Tended task a f' where
  toRefers := h.toRefers.roomier hf
  sweeper := h.sweeper
  sweeps := h.sweeps
  tasks := fun k i hi => h.tasks k i (htasks k i hi)
  checks := fun i e k c he hjob hl => hlive k i e (h.checks i e k c he hjob hl) he hl

theorem keeps (h : Tended task a f) (hf : f.Keeps f') : Tended task a f' :=
  h.roomier hf.toRoomier (fun k _ hi => (hf.tasks k).symm.trans hi) fun k _ _ hi _ _ =>
    (hf.tasks k).trans hi

/-- Another list of errands. -/
theorem withErrands (h : Tended task a f) {jobs : List Job} (hup : a.isShutdown = false)
    (hjobs : ∀ job ∈ jobs, (∃ k c number, job = .dial k c number) ∧ f.Able job) :
    Tended task { a with errands := jobs } f :=
  ⟨h.toRefers.withErrands hup hjobs, h.sweeper, h.sweeps, h.tasks, h.checks⟩

/-- An entry changes. -/
theorem modify (h : Tended task a f) (i : EntryId) {g : Entry Job → Entry Job}
    (hlater : ∀ e : Entry Job, e.Later (g e)) (hlive : ∀ e, (g e).isLive → e.isLive) :
    Tended task (a.modify i g) f :=
  h.ages (Agenda.ages_modify (P := fun _ => False) a i hlater hlive) rfl fun _ => False.elim

theorem cancel (h : Tended task a f) (i : EntryId) : Tended task (a.cancel i) f :=
  h.ages (Agenda.ages_cancel (P := fun _ => False) a i) rfl fun _ => False.elim

/-- A timer loses its task, which has ended. -/
theorem clear (h : Tended task a f) (k : TimerId) {g : Timer → Timer} (hg : ∀ t, (g t).task = none)
    (hdead : ∀ i e, (f.timer k).task = some i → a.entries[i]? = some e → e.isLive = false) :
    Tended task a (f.modifyTimer k g) := by
  refine h.roomier (Floor.roomier_modifyTimer f k g) ?_ ?_
  · intro k' j hj
    rw [Floor.timer_modifyTimer] at hj
    split at hj
    · rw [hg] at hj
      cases hj
    · exact hj
  · intro k' j e hj he hl
    rw [Floor.timer_modifyTimer, if_neg, hj]
    rintro ⟨rfl, -⟩
    rw [hdead j e hj he] at hl
    cases hl

/-- A timer loses its task, which is cancelled. -/
theorem unschedule (h : Tended task a f) (htask : (f.timer k).task = some i) {g : Timer → Timer}
    (hg : ∀ t, (g t).task = none) : Tended task (a.cancel i) (f.modifyTimer k g) := by
  refine (h.cancel i).clear k hg fun j e hj he => ?_
  obtain rfl := Option.some.inj (htask.symm.trans hj)
  rw [Agenda.getElem?_cancel] at he
  obtain ⟨e₀, -, rfl⟩ := Option.map_eq_some_iff.mp he
  simp [Entry.isLive]

/-! ## Work -/

theorem release (h : Tended task a f) (hk : k < f.timers.size) :
    Tended task (a.fulfil { cancels := (f.release k).2 }) (f.release k).1 := by
  rw [Agenda.fulfil_cancels]
  rcases Floor.release_cases hk with ⟨-, heq⟩ | ⟨-, heq⟩
  · rw [heq]
    cases htask : (f.timer k).task with
    | none =>
      refine h.clear k (fun _ => rfl) fun i e hi => ?_
      rw [htask] at hi
      cases hi
    | some i => exact h.unschedule htask fun _ => rfl
  · rw [heq]
    exact h.keeps (Floor.keeps_modifyTimer f k fun _ => rfl)

/-- Every run of work keeps references right. -/
theorem run {job : Job} (h : Tended task a f) (hup : a.isShutdown = false) (hjob : f.Able job)
    (runs : List Run) (now : Int) :
    Tended task (a.fulfil (Floor.run job runs now f).2) (Floor.run job runs now f).1 := by
  cases hof : job.isOfTimer with
  | false =>
    obtain ⟨hquiet, hcancels, herrands, hwaits⟩ := Floor.quiet_run hof runs now f
    rw [Agenda.fulfil_nothing a hcancels herrands hwaits]
    exact h.keeps hquiet.toKeeps
  | true =>
    cases job with
    | check k c =>
      change Tended task (a.fulfil (f.check now k c).2) (f.check now k c).1
      have hasked : f.Keeps (f.asked c) := (Floor.quiet_asked f c).toKeeps
      rcases Floor.check_cases hjob.1 hjob.2 now with
        ⟨-, heq⟩ | ⟨-, -, heq⟩ | ⟨-, -, ⟨-, heq⟩ | ⟨i, htask, heq⟩⟩ | ⟨-, -, heq⟩
      · rw [heq, Agenda.fulfil_nothing a rfl rfl rfl]
        exact h
      · rw [heq, Agenda.fulfil_nothing a rfl rfl rfl]
        exact h.keeps hasked
      · rw [heq, Agenda.fulfil_nothing a rfl rfl rfl]
        exact h.keeps hasked
      · rw [heq, Agenda.fulfil_cancels]
        exact ((h.keeps hasked).unschedule htask fun _ => rfl).keeps (Floor.quiet_log _ _ _).toKeeps
      · rw [heq, Agenda.fulfil_errands_only]
        have hkeeps : f.Keeps ((f.asked c).modifyTimer k fun t =>
            { t with attempts := (f.timer k).attempts + 1, inFlight := true }) :=
          hasked.trans (Floor.keeps_modifyTimer _ k fun _ => rfl)
        refine (h.keeps hkeeps).withErrands hup fun job hmem => ?_
        rcases List.mem_append.mp hmem with hmem | hmem
        · exact ⟨(h.errands job hmem).1, (h.errands job hmem).2.roomier hkeeps.toRoomier⟩
        · obtain rfl := List.mem_singleton.mp hmem
          exact ⟨⟨k, c, _, rfl⟩, hjob.roomier hkeeps.toRoomier⟩
    | dial k c number =>
      change Tended task (a.fulfil (f.dial now k c number).2) (f.dial now k c number).1
      obtain ⟨f', hquiet, ⟨delay, attempt, heq⟩ | heq⟩ := Floor.dial_cases f now k c number
      · rw [heq, Agenda.fulfil_wait]
        have hable : f'.Able (.dial k c number) := hjob.roomier hquiet.toRoomier
        refine (h.keeps hquiet.toKeeps).ages (Agenda.ages_wait a _ delay) ?_ ?_
        · rw [Agenda.wait_eq]
          split <;> rfl
        · rintro e ⟨hanswer, hperiod, herrand⟩
          refine ⟨⟨by rw [hanswer]; exact hable, fun _ _ _ _ _ => ⟨hperiod, herrand⟩, ?_⟩, ?_⟩
          · intro k' c' number' hdial
            cases hanswer.symm.trans hdial
          · rw [hanswer]
            exact fun _ => rfl
      · rw [heq]
        exact (h.keeps hquiet.toKeeps).release (hjob.roomier hquiet.toRoomier).1
    | answer k c number attempt =>
      change Tended task (a.fulfil (f.answer now k c number attempt).2) (f.answer now k c number attempt).1
      obtain ⟨f', hquiet, heq⟩ := Floor.answer_eq f now k c number attempt
      rw [heq]
      exact (h.keeps hquiet.toKeeps).release (hjob.roomier hquiet.toRoomier).1
    | sweep | report | traffic | silence | probe | note => cases hof

end Tended

end Liveness
