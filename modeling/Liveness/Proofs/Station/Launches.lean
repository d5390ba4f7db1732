import Liveness.Proofs.Station.Connectors

/-!
# The acts of a timer at work

When the task of a timer wakes up on time, a check leaves an attempt under way alone, or
calls for one (`Station.Ticked`), or finds the connector connected and ends the task
(`Station.satisfied_wake`).  An attempt that was called for starts (`Station.Launched`),
and ends at once or after the latency of its connector (`Station.Landed`).
-/

namespace Liveness

namespace Station

variable {s s' : Station} {k : TimerId} {i : EntryId} {e : Entry Job} {c : ConnectorId} {due : Int}

/-- Work that runs once when it wakes up. -/
theorem act_wake_once {stage : Stage} (he : s.agenda.entries[i]? = some e) (hdue : e.due? = some due)
    (hplan : e.plan due s.now = ([due], stage)) :
    s.act (.time (.wake i)) =
      { s.runOnce i due with agenda := (s.runOnce i due).agenda.modify i (·.restage stage) } := by
  have hwake := act_wake he hdue
  rwa [hplan] at hwake

/-! ## Checks -/

/-- The task of a timer has run once and waits again, and nothing else of the timer's has changed on the agenda. -/
structure Ticked (i : EntryId) (e : Entry Job) (s s' : Station) : Prop where
  entry : s'.agenda.entries[i]? = some e
  others : ∀ j e', j ≠ i → s.agenda.entries[j]? = some e' → s'.agenda.entries[j]? = some e'

theorem ticked_of_errands {floor : Floor} {sweeper : Sweeper} (he : s.agenda.entries[i]? = some e) {due next : Int}
    {errands : List Job} : Ticked i ((e.ran due s.now false).restage (.waiting next)) s
      ⟨((s.agenda.modify i (·.ran due s.now false)).fulfil { errands }).modify i (·.restage (.waiting next)), floor,
        sweeper⟩ where
  entry := by
    rw [Agenda.fulfil_errands_only]
    simp only [Agenda.modify, Array.getElem?_modify, if_true, he, Option.map_some]
  others := fun j e' hne he' => by
    rw [Agenda.fulfil_errands_only]
    simp only [Agenda.modify, Array.getElem?_modify, if_neg hne.symm, he']

section

variable (ht : s.IsTended) (he : s.agenda.entries[i]? = some e) (hdue : e.due? = some due) (hjob : e.job = .check k c)

include ht he hdue hjob

theorem act_check {stage : Stage} (hplan : e.plan due s.now = ([due], stage)) :
    k < s.floor.timers.size ∧ c < s.floor.connectors.size ∧
      s.act (.time (.wake i)) =
        ⟨((s.agenda.modify i (·.ran due s.now (s.floor.check s.now k c).2.panicked)).fulfil
          (s.floor.check s.now k c).2).modify i (·.restage stage), (s.floor.check s.now k c).1, s.sweeper⟩ := by
  have hable : s.floor.Able e.job := (ht.entries i e he).able
  rw [hjob] at hable
  refine ⟨hable.1, hable.2, ?_⟩
  rw [act_wake_once he hdue hplan, runOnce_check he (Entry.isLive_of_due? hdue) hjob]

/-- While an attempt is under way a check does nothing. -/
theorem ticked_busy {next : Int} (hplan : e.plan due s.now = ([due], .waiting next))
    (hflight : (s.timer k).inFlight = true) :
    Ticked i ((e.ran due s.now false).restage (.waiting next)) s (s.act (.time (.wake i))) ∧
      (s.act (.time (.wake i))).floor = s.floor ∧
      (s.act (.time (.wake i))).agenda.errands = s.agenda.errands := by
  obtain ⟨hk, hc, hact⟩ := act_check ht he hdue hjob hplan
  rcases Floor.check_cases hk hc s.now with ⟨-, heq⟩ | ⟨hfree, -⟩ | ⟨hfree, -⟩ | ⟨hfree, -⟩
  · rw [hact, heq]
    exact ⟨ticked_of_errands he, rfl, List.append_nil _⟩
  · cases hfree.symm.trans hflight
  · cases hfree.symm.trans hflight
  · cases hfree.symm.trans hflight

/-- A check whose connector answers that it is not connected calls for an attempt. -/
theorem ticked_free {next : Int} (hplan : e.plan due s.now = ([due], .waiting next))
    (hfree : (s.timer k).inFlight = false) (hdown : s.floor.reply c = some false) :
    Ticked i ((e.ran due s.now false).restage (.waiting next)) s (s.act (.time (.wake i))) ∧
      (s.act (.time (.wake i))).timer k =
        { s.timer k with attempts := (s.timer k).attempts + 1, inFlight := true } ∧
      (s.act (.time (.wake i))).agenda.errands = s.agenda.errands ++ [.dial k c ((s.timer k).attempts + 1)] ∧
      (s.act (.time (.wake i))).floor.connectors = (s.floor.asked c).connectors := by
  obtain ⟨hk, hc, hact⟩ := act_check ht he hdue hjob hplan
  rcases Floor.check_cases hk hc s.now with ⟨hflight, -⟩ | ⟨-, hnone, -⟩ | ⟨-, hup, -⟩ | ⟨-, -, heq⟩
  · cases hfree.symm.trans hflight
  · cases hdown.symm.trans hnone
  · cases hdown.symm.trans hup
  · rw [hact, heq]
    refine ⟨ticked_of_errands he, ?_, rfl, rfl⟩
    exact (Floor.timer_modifyTimer (s.floor.asked c) k k _).trans (if_pos ⟨rfl, hk⟩)

/-- A check whose connector answers that it is connected ends the task of its timer. -/
theorem satisfied_wake {stage : Stage} (hplan : e.plan due s.now = ([due], stage))
    (hfree : (s.timer k).inFlight = false) (hup : s.floor.reply c = some true) :
    (s.act (.time (.wake i))).timer k = { s.timer k with task := none } ∧
      (s.act (.time (.wake i))).floor.connectors = (s.floor.asked c).connectors := by
  obtain ⟨hk, hc, hact⟩ := act_check ht he hdue hjob hplan
  have htask : (s.floor.timer k).task = some i := ht.checks i e k c he hjob (Entry.isLive_of_due? hdue)
  rcases Floor.check_cases hk hc s.now with
    ⟨hflight, -⟩ | ⟨-, hnone, -⟩ | ⟨-, -, ⟨hnone, -⟩ | ⟨j, -, heq⟩⟩ | ⟨-, hdown, -⟩
  · cases hfree.symm.trans hflight
  · cases hup.symm.trans hnone
  · cases hnone.symm.trans htask
  · rw [hact, heq]
    exact ⟨(Floor.timer_modifyTimer (s.floor.asked c) k k _).trans (if_pos ⟨rfl, hk⟩), rfl⟩
  · cases hup.symm.trans hdown

end

/-! ## What connectors count -/

theorem isOwn_wake (he : s.agenda.entries[i]? = some e) (hk : e.job.timer? = some k) :
    s.isOwn k (.time (.wake i)) = true := by
  rw [isOwn, he, Option.any_some, hk]
  exact beq_self_eq_true (some k)

/-- A check begins no attempt. -/
theorem growth_check (ht : s.IsTended) (he : s.agenda.entries[i]? = some e) (hjob : e.job = .check k c) :
    s.growth Floor.calls k (.time (.wake i)) = 0 := by
  refine growth_wake Floor.calls fun e' due he' hdue => ?_
  obtain rfl := Option.some.inj (he.symm.trans he')
  have hcounts := Timeline.counts_runs_check (t := s.timeline) ht he hjob (e.plan due s.now).1
  have hfloor : (s.act (.time (.wake i))).floor =
      ((e.plan due s.now).1.foldl (Timeline.runOnce Floor.worker i) s.timeline).host := by
    change (Timeline.wake Floor.worker s.timeline i).host = _
    rw [Timeline.wake_of_due Floor.worker (t := s.timeline) he hdue]
    rfl
  rw [growth_time, isOwn_wake he (by rw [hjob]; rfl), hfloor]
  exact hcounts.growth_calls

/-- Nor does the end of an attempt begin one. -/
theorem growth_answer {b d : Nat} (ht : s.IsTended) (hf : Flight k b d s.agenda s.floor)
    (he : s.agenda.entries[i]? = some e) {number : Nat} {attempt : Attempt}
    (hjob : e.job = .answer k c number attempt) : s.growth Floor.calls k (.time (.wake i)) = 0 := by
  refine growth_wake Floor.calls fun e' due he' hdue => ?_
  obtain rfl := Option.some.inj (he.symm.trans he')
  have hcounts := (Timeline.flight_answer (t := s.timeline) hf ht he hdue hjob).2.2
  rw [growth_time, isOwn_wake he (by rw [hjob]; rfl)]
  exact hcounts.growth_calls

/-- What is left of a connector that was asked. -/
theorem getElem?_connectors_asked {f : Floor} {conn : Connector} (hconn : f.connectors[c]? = some conn) :
    (f.asked c).connectors[c]? = some conn.ask.2 ∧ f.reply c = conn.ask.1 := by
  constructor
  · rw [Floor.asked, Array.getElem?_modify, if_pos rfl, hconn]
    rfl
  · rw [Floor.reply, hconn]
    rfl

/-! ## Attempts -/

/-- The end of an attempt of a timer that someone holds. -/
structure Landed (k : TimerId) (s s' : Station) : Prop where
  timer : s'.timer k = { s.timer k with inFlight := false }
  entries : ∀ (i : EntryId) (e : Entry Job), s.agenda.entries[i]? = some e → e.isLive → e.job.answers k = false →
    s'.agenda.entries[i]? = some e

/-- An attempt of a timer that someone holds ends without a word to its task. -/
theorem answer_of_handles {f : Floor} (hk : k < f.timers.size) (hheld : (f.timer k).handles ≠ 0) (now : Int)
    (c : ConnectorId) (number : Nat) (attempt : Attempt) :
    (f.answer now k c number attempt).1.timer k = { f.timer k with inFlight := false } ∧
      (f.answer now k c number attempt).2 = {} := by
  have htimers : (f.conclude now c attempt).2.timers = f.timers := Floor.timers_conclude f now c attempt
  have hrelease : ∀ f' : Floor, f'.timers = f.timers →
      f'.release k = (f'.modifyTimer k fun t => { t with inFlight := false }, []) ∧
        (f'.release k).1.timer k = { f.timer k with inFlight := false } := by
    intro f' hf'
    have htimer : f'.timer k = f.timer k := Floor.timer_of_timers hf' k
    have hk' : k < f'.timers.size := hf'.symm ▸ hk
    rcases Floor.release_cases hk' with ⟨hnone, -⟩ | ⟨-, heq⟩
    · exact absurd (htimer ▸ hnone) hheld
    · refine ⟨heq, ?_⟩
      rw [heq, Floor.timer_modifyTimer, if_pos ⟨rfl, hk'⟩, htimer]
  unfold Floor.answer
  dsimp only
  split
  · rename_i text _
    obtain ⟨heq, htimer⟩ := hrelease ((f.conclude now c attempt).2.log now (.attemptFailed number text)) htimers
    exact ⟨htimer, by rw [heq]⟩
  · obtain ⟨heq, htimer⟩ := hrelease (f.conclude now c attempt).2 htimers
    exact ⟨htimer, by rw [heq]⟩

/-- An attempt ends that was under way. -/
theorem landed_wake (ht : s.IsTended) (he : s.agenda.entries[i]? = some e) (hdue : e.due? = some due) {number : Nat}
    {attempt : Attempt} (hjob : e.job = .answer k c number attempt) (hheld : (s.timer k).handles ≠ 0) :
    Landed k s (s.act (.time (.wake i))) ∧
      (s.act (.time (.wake i))).agenda.errands = s.agenda.errands ∧
      (s.act (.time (.wake i))).floor.connectors = (s.floor.conclude s.now c attempt).2.connectors := by
  have hlive : e.isLive := Entry.isLive_of_due? hdue
  have hk : k < s.floor.timers.size := by
    have hable : s.floor.Able e.job := (ht.entries i e he).able
    rw [hjob] at hable
    exact hable.1
  have hplan : e.plan due s.now = ([due], .ended) := by
    rw [Entry.plan, ((ht.entries i e he).once k c number attempt hjob).1]
  obtain ⟨htimer, hrequest⟩ := answer_of_handles hk hheld s.now c number attempt
  have hrun : s.runOnce i due =
      ⟨s.agenda.modify i (·.ran due s.now false), (s.floor.answer s.now k c number attempt).1, s.sweeper⟩ := by
    have hworker : Floor.worker.run e.job e.runs s.agenda.now s.floor = s.floor.answer s.now k c number attempt := by
      rw [hjob]
      rfl
    change Station.mk (Timeline.runOnce Floor.worker i s.timeline due).agenda
      (Timeline.runOnce Floor.worker i s.timeline due).host s.sweeper = _
    rw [Timeline.runOnce_of_live Floor.worker (t := s.timeline) he hlive]
    simp only [show s.timeline.agenda = s.agenda from rfl, show s.timeline.host = s.floor from rfl, hworker, hrequest]
    rw [Agenda.fulfil_nothing _ rfl rfl rfl]
    rfl
  rw [act_wake_once he hdue hplan, hrun]
  refine ⟨⟨htimer, fun j e' he' _ hnot => ?_⟩, rfl, Floor.connectors_answer s.floor s.now k c number attempt⟩
  have hne : i ≠ j := by
    rintro rfl
    obtain rfl := Option.some.inj (he.symm.trans he')
    rw [hjob, Job.answers, beq_self_eq_true] at hnot
    cases hnot
  simp only [Agenda.modify, Array.getElem?_modify, if_neg hne, he']

/-- The start of an attempt that takes some time: it has ended at once, or it goes on for that time. -/
inductive Launched (k : TimerId) (c : ConnectorId) (conn : Connector) (l : Span) (s s' : Station) : Prop
  | landed : l.isZero = true → Landed k s s' →
      s'.floor.connectors[c]? = some ((conn.start s.now).2.2.finish (conn.start s.now).1).2 → Launched k c conn l s s'
  | flying {number : Nat} {j : EntryId} {e : Entry Job} : l.isZero = false → s'.timer k = s.timer k →
      (∀ (i : EntryId) (e : Entry Job), s.agenda.entries[i]? = some e → s'.agenda.entries[i]? = some e) →
      s'.agenda.entries[j]? = some e → e.job = .answer k c number (conn.start s.now).1 →
      e.due? = some (Cadence.within s.now (l.after s.now)) →
      s'.floor.connectors[c]? = some (conn.start s.now).2.2 → Launched k c conn l s s'

theorem getElem?_connectors_startAttempt {f : Floor} {conn : Connector} (hconn : f.connectors[c]? = some conn) (now : Int) :
    (f.startAttempt now c).2.2.connectors[c]? = some (conn.start now).2.2 := by
  rw [Floor.startAttempt_eq hconn]
  exact Array.getElem?_setIfInBounds_self_of_lt (Array.getElem?_eq_some_iff.mp hconn).1

theorem getElem?_connectors_conclude {f : Floor} {conn : Connector} (hconn : f.connectors[c]? = some conn) (now : Int)
    (attempt : Attempt) : (f.conclude now c attempt).2.connectors[c]? = some (conn.finish attempt).2 := by
  rw [(Floor.conclude_eq hconn now attempt).2]
  exact Array.getElem?_setIfInBounds_self_of_lt (Array.getElem?_eq_some_iff.mp hconn).1

/-- An attempt starts that had been called for. -/
theorem launched_errand (ht : s.IsTended) {number : Nat} {rest : List Job}
    (herrands : s.agenda.errands = .dial k c number :: rest) {conn : Connector} {l : Span}
    (hconn : s.floor.connectors[c]? = some conn) (htakes : conn.Takes l) (hheld : (s.timer k).handles ≠ 0) :
    Launched k c conn l s (s.act (.time .errand)) ∧ (s.act (.time .errand)).agenda.errands = rest := by
  have hup : s.agenda.isShutdown = false := by
    refine Bool.eq_false_iff.mpr fun hdown => ?_
    rw [(ht.ended hdown).1] at herrands
    cases herrands
  have hk : k < s.floor.timers.size := by
    have hable := (ht.errands _ (by rw [herrands]; exact List.mem_cons_self)).2
    exact hable.1
  obtain ⟨hends, hlatency⟩ := htakes.start s.now
  have hstart := getElem?_connectors_startAttempt hconn s.now
  have htimers := Floor.timers_startAttempt s.floor s.now c
  have hattempt : (s.floor.startAttempt s.now c).1 = (conn.start s.now).1 ∧ (s.floor.startAttempt s.now c).2.1 = l := by
    rw [Floor.startAttempt_eq hconn]
    exact ⟨rfl, hlatency⟩
  have hact : s.act (.time .errand) =
      ⟨({ s.agenda with errands := rest } : Agenda Job).fulfil (s.floor.dial s.now k c number).2,
        (s.floor.dial s.now k c number).1, s.sweeper⟩ := by
    change Station.mk (Timeline.beginNext Floor.worker s.timeline).agenda
      (Timeline.beginNext Floor.worker s.timeline).host s.sweeper = _
    simp only [Timeline.beginNext, show s.timeline.agenda.errands = _ from herrands]
    rfl
  rw [hact]
  unfold Floor.dial
  simp only [hattempt, hends, Bool.not_true, Bool.false_eq_true, if_false]
  cases hzero : l.isZero with
  | true =>
    have hk' : k < (s.floor.startAttempt s.now c).2.2.timers.size := htimers.symm ▸ hk
    have htimer : (s.floor.startAttempt s.now c).2.2.timer k = s.timer k := Floor.timer_of_timers htimers k
    obtain ⟨hlanded, hrequest⟩ :=
      answer_of_handles hk' (htimer ▸ hheld) s.now c number (conn.start s.now).1
    simp only [if_true, hrequest]
    rw [Agenda.fulfil_nothing _ rfl rfl rfl]
    refine ⟨.landed hzero ⟨?_, fun _ _ he _ _ => he⟩ ?_, rfl⟩
    · exact hlanded.trans (by rw [htimer])
    · rw [Floor.connectors_answer]
      exact getElem?_connectors_conclude hstart s.now _
  | false =>
    simp only [Bool.false_eq_true, if_false]
    rw [Agenda.fulfil_wait, Agenda.wait_eq, if_neg (Bool.eq_false_iff.mp hup)]
    refine ⟨.flying hzero (Floor.timer_of_timers htimers k) (fun i e he => ?_) Array.getElem?_push_size rfl rfl hstart,
      rfl⟩
    exact (Array.getElem?_push_lt (Array.getElem?_eq_some_iff.mp he).1).trans
      (congrArg some (Array.getElem?_eq_some_iff.mp he).2)

/-- An attempt ends at its start only if it takes no time. -/
theorem ended_errand {number : Nat} {rest : List Job} (herrands : s.agenda.errands = .dial k c number :: rest)
    {conn : Connector} {l : Span} (hconn : s.floor.connectors[c]? = some conn) (htakes : conn.Takes l) :
    s.ended k (.time .errand) = if l.isZero then [((conn.start s.now).2.2.finish (conn.start s.now).1).1] else [] := by
  obtain ⟨hends, hlatency⟩ := htakes.start s.now
  have hresult := (Floor.conclude_eq (getElem?_connectors_startAttempt hconn s.now) s.now (conn.start s.now).1).1
  rw [Floor.startAttempt_eq hconn] at hresult
  rw [ended, herrands]
  simp only [List.head?_cons, Option.elim_some, Floor.ended, Floor.startAttempt_eq hconn, hlatency, hends, hresult,
    true_and]

end Station

end Liveness
