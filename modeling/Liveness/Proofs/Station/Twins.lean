import Liveness.Proofs.Agenda.Twins
import Liveness.Proofs.Hub.Twins
import Liveness.Proofs.Station.Failures
import Liveness.Proofs.Station.Visits

/-!
# Two stations that are alike in one id

Two stations are *twins* in an id if they have the same agenda, which holds nothing but work of the
sweeper, the same sweeper, and hubs that are twins.  What is asked about the id or about none keeps them
so and is answered alike, and so does time (`Station.Twins.heed`).  What is asked about another id does so on its
own (`Station.Twins.skip`).
-/

namespace Liveness

namespace Hub

variable {ν : Naming} {x : DeviceId} {now : Int} {h h' h₁ h₁' : Hub}

/-- Lines that go to the log change nothing that twins are compared by. -/
theorem Logs.abreast (hlogs : Logs now h h₁) (hlogs' : Logs now h' h₁') (ht : Twins ν x h h') :
    Abreast ν x h h' h₁ h₁' := by
  have hsame : ∀ {h h₁ : Hub}, Logs now h h₁ → SameDevice x h h₁ ∧ h₁.registry = h.registry ∧ h₁.links = h.links ∧
      h₁.observers = h.observers := by
    rintro h _ ⟨lines, rfl⟩
    induction lines generalizing h with
    | nil => exact ⟨.refl h, rfl, rfl, rfl⟩
    | cons line lines ih =>
      obtain ⟨hdevice, hregistry, hlinks, hobservers⟩ := ih (h := h.log now line)
      exact ⟨(sameDevice_atom h (a := .log line) nofun).trans hdevice, hregistry, hlinks, hobservers⟩
  obtain ⟨hdevice, hregistry, hlinks, hobservers⟩ := hsame hlogs
  obtain ⟨hdevice', hregistry', hlinks', hobservers'⟩ := hsame hlogs'
  refine .calm (ht.aside hdevice hdevice' ?_) (congrArg Registry.stored hregistry) (congrArg Registry.stored hregistry')
    (congrArg Array.size hlinks) (congrArg Array.size hlinks')
  rw [hobservers, hobservers', ht.observers]

theorem Logs.keyed (hlogs : Logs now h h₁) (hk : h.Keyed) : h₁.Keyed := by
  obtain ⟨lines, rfl⟩ := hlogs
  induction lines generalizing h with
  | nil => exact hk
  | cons line lines ih => exact ih (h := h.log now line) hk

theorem Op.IsRegular.isFaithful {op : Op} (hop : op.IsRegular) : op.IsFaithful := by
  cases op with
  | getOrCreate id recipe => exact hop
  | _ => trivial

theorem Op.IsFaithful.rename {op : Op} (hop : op.IsFaithful) (ν : Naming) : (ν.op op).IsFaithful := by
  cases op with
  | getOrCreate id recipe =>
    cases recipe with
    | _ => exact hop
  | _ => trivial

end Hub

namespace Naming

open Station

/-- What is asked under the other numbers. -/
def ask (ν : Naming) : Ask → Ask
  | .order (.deed (.onHub op)) => .order (.deed (.onHub (ν.op op)))
  | .createFrom id recipe? => .createFrom id (recipe?.map ν.recipe)
  | a => a

def outcome (ν : Naming) : Outcome → Outcome
  | .reply r => .reply (ν.reply r)
  | .creation c => .creation (c.map ν.creation)
  | o => o

end Naming

namespace Station

/-! ## What is asked about which id -/

/-- The id that something that is asked is about. -/
def Ask.id? : Ask → Option DeviceId
  | .order (.deed (.onHub op)) => op.id?
  | .createFrom id _ => some id
  | _ => none

/-- What is asked is about no other id. -/
def Ask.concerns (x : DeviceId) (a : Ask) : Bool := a.id?.all (· == x)

/-- Callers put and remove devices and have faithful makers, sweep or have the sweeper do so, and let time go by. -/
def Ask.IsRegular : Ask → Prop
  | .order (.deed (.onHub op)) => op.IsRegular
  | .order (.deed .sweepNow) | .order (.deed .startSweeper) | .order (.deed .stopSweeper)
  | .order (.deed (.setSweeper _)) | .order .settle | .order (.advance _) | .order (.jump _) => True
  | .createFrom id recipe? => ∀ recipe ∈ recipe?, ∀ own ∈ recipe.id?, own = id
  | _ => False

/-- What is answered tells of one id at most. -/
def Ask.tellsOfOne : Ask → Bool
  | .order (.deed (.onHub op)) => op.tellsOfOne
  | .order (.deed .sweepNow) => false
  | _ => true

/-! ## Twins -/

/-- The work of the sweeper. -/
def IsSweep : Job → Prop
  | .sweep _ => True
  | _ => False

/-- Two stations that are alike in one id, up to a naming, and have nothing to do but to sweep. -/
structure Twins (ν : Naming) (x : DeviceId) (s s' : Station) : Prop where
  agenda : s'.agenda = s.agenda
  sweeper : s'.sweeper = s.sweeper
  jobs : ∀ (i : EntryId) e, s.agenda.entries[i]? = some e → IsSweep e.job
  errands : ∀ job ∈ s.agenda.errands, IsSweep job
  hub : Hub.Twins ν x s.hub s'.hub
  keyed : s.hub.Keyed
  keyed' : s'.hub.Keyed

variable {ν : Naming} {x y : DeviceId} {s s' s₁ s₁' : Station}

namespace Twins

theorem now (ht : Twins ν x s s') : s'.now = s.now := congrArg Agenda.now ht.agenda

/-- Only the hubs change. -/
theorem withHubs (ht : Twins ν x s s') {h h' : Hub} (hh : Hub.Twins ν x h h') (hk : h.Keyed) (hk' : h'.Keyed) :
    Twins ν x { s with floor := { s.floor with hub := h } } { s' with floor := { s'.floor with hub := h' } } where
  agenda := ht.agenda
  sweeper := ht.sweeper
  jobs := ht.jobs
  errands := ht.errands
  hub := hh
  keyed := hk
  keyed' := hk'

/-- A call on both hubs. -/
theorem onHub (ht : Twins ν x s s') (op : Hub.Op) (hregular : op.IsRegular) (hop : ∀ y ∈ op.id?, y = x)
    (hfresh : Hub.Fresh ν s.hub s'.hub (s.hub.step s.now op)) :
    (op.tellsOfOne → s'.answerDeed (.onHub (ν.op op)) = ν.outcome (s.answerDeed (.onHub op))) ∧
      Twins ν x (s.perform (.onHub op)) (s'.perform (.onHub (ν.op op))) ∧
      Hub.Abreast ν x s.hub s'.hub (s.perform (.onHub op)).hub (s'.perform (.onHub (ν.op op))).hub := by
  obtain ⟨hanswer, habreast⟩ := Hub.matches_step ht.hub ht.keyed ht.keyed' hregular hop hfresh
  have hkeyed : (s.hub.step s.now op).Keyed := Hub.keyed_step ht.keyed s.now op hregular.isFaithful
  have hkeyed' : (s'.hub.step s.now (ν.op op)).Keyed :=
    Hub.keyed_step ht.keyed' s.now (ν.op op) (hregular.isFaithful.rename ν)
  have hperform : s'.perform (.onHub (ν.op op)) =
      { s' with floor := { s'.floor with hub := s'.hub.step s.now (ν.op op) } } := by
    rw [← ht.now]
    rfl
  refine ⟨fun htells => ?_, hperform ▸ ht.withHubs habreast.twins hkeyed hkeyed', hperform ▸ habreast⟩
  show Outcome.reply (s'.hub.reply s'.now (ν.op op)) = .reply (ν.reply (s.hub.reply s.now op))
  rw [ht.now, hanswer htells]

/-- A call about another id on one hub only. -/
theorem onHub_skip (ht : Twins ν x s s') (op : Hub.Op) (hregular : op.IsRegular) (hop : op.id? = some y)
    (hne : y ≠ x) :
    Twins ν x (s.perform (.onHub op)) s' where
  agenda := ht.agenda
  sweeper := ht.sweeper
  jobs := ht.jobs
  errands := ht.errands
  hub := ht.hub.skip hop hne
  keyed := Hub.keyed_step ht.keyed s.now op hregular.isFaithful
  keyed' := ht.keyed'

end Twins

/-! ## The sweeper -/

/-- What these do to the agenda and the sweeper and what they answer does not depend on the hub. -/
theorem perform_withFloor (s : Station) (f : Floor) {d : Deed} (hd : d.isOfSweeper) :
    ({ s with floor := f }.perform d).agenda = (s.perform d).agenda ∧
      ({ s with floor := f }.perform d).sweeper = (s.perform d).sweeper ∧
      { s with floor := f }.answerDeed d = s.answerDeed d := by
  have hsweeping : { s with floor := f }.isSweeping = s.isSweeping := rfl
  cases d with
  | startSweeper =>
    simp only [perform, answerDeed, startSweeper, every_eq, hsweeping]
    split
    · exact ⟨rfl, rfl, rfl⟩
    · split
      · exact ⟨rfl, rfl, rfl⟩
      · exact ⟨rfl, rfl, rfl⟩
  | stopSweeper =>
    simp only [perform, answerDeed, stopSweeper]
    cases s.sweeper.task with
    | none => exact ⟨rfl, rfl, rfl⟩
    | some task =>
      dsimp only
      split
      · exact ⟨rfl, rfl, rfl⟩
      · exact ⟨rfl, rfl, rfl⟩
  | setSweeper settings =>
    simp only [perform, answerDeed, setSweeper, hsweeping]
    cases settings.validate with
    | error e => exact ⟨rfl, rfl, rfl⟩
    | ok u =>
      cases s.isSweeping with
      | true => exact ⟨rfl, rfl, rfl⟩
      | false => exact ⟨rfl, rfl, rfl⟩
  | _ => cases hd

/-- The sweeper answers without numbers. -/
theorem outcome_isOfSweeper (ν : Naming) (s : Station) {d : Deed} (hd : d.isOfSweeper) :
    ν.outcome (s.answerDeed d) = s.answerDeed d := by
  cases d with
  | startSweeper | stopSweeper => rfl
  | setSweeper settings =>
    simp only [answerDeed]
    split
    · rfl
    · rfl
  | _ => cases hd

theorem Deed.isDirect_of_isOfSweeper {d : Deed} (hd : d.isOfSweeper) : d.isDirect = false := by
  cases d with
  | startSweeper | stopSweeper | setSweeper => rfl
  | _ => cases hd

namespace Twins

/-- Only the sweeper takes on work, and that is to sweep. -/
theorem ofSweeper (ht : Twins ν x s s') {d : Deed} (hd : d.isOfSweeper) :
    s'.answerDeed d = ν.outcome (s.answerDeed d) ∧ Twins ν x (s.perform d) (s'.perform d) ∧
      Hub.Abreast ν x s.hub s'.hub (s.perform d).hub (s'.perform d).hub := by
  have hlogs : Hub.Logs s.now s.hub (s.perform d).hub :=
    logs_perform s (Deed.isDirect_of_isOfSweeper hd)
  have hlogs' : Hub.Logs s.now s'.hub (s'.perform d).hub :=
    ht.now ▸ logs_perform s' (Deed.isDirect_of_isOfSweeper hd)
  obtain ⟨hagenda, hsweeper, hanswer⟩ := perform_withFloor s s'.floor hd
  have hsame : { s with floor := s'.floor } = s' := by
    rw [← ht.agenda, ← ht.sweeper]
  rw [hsame] at hagenda hsweeper hanswer
  have hgrows := grows_perform s d
  have habreast := hlogs.abreast hlogs' ht.hub
  refine ⟨hanswer.trans (outcome_isOfSweeper ν s hd).symm, ?_, habreast⟩
  refine ⟨hagenda, hsweeper, ?_, fun job hjob => ht.errands job (hgrows.errands ▸ hjob), habreast.twins,
    hlogs.keyed ht.keyed,
    hlogs'.keyed ht.keyed'⟩
  intro i e he
  rcases hgrows.new he with ⟨e₀, he₀, hkept⟩ | ⟨-, htakes, -⟩
  · rw [hkept.job]
    exact ht.jobs i e₀ he₀
  · cases d with
    | startSweeper =>
      obtain ⟨limit, hjob⟩ := htakes
      rw [hjob]
      trivial
    | stopSweeper | setSweeper => cases htakes
    | _ => cases hd

end Twins

/-! ## Time -/

/-- Hubs that went on as twins since two hubs, and gave out no numbers. -/
structure Floors (ν : Naming) (x : DeviceId) (h h' : Hub) (f f' : Floor) : Prop extends
    Hub.Abreast ν x h h' f.hub f'.hub where
  keyed : f.hub.Keyed
  keyed' : f'.hub.Keyed

theorem keeps_floors (ν : Naming) (x : DeviceId) (h h' : Hub) : Floor.worker.Keeps IsSweep (Floors ν x h h') where
  request := by
    rintro (limit | _) runs now f f' hjob hf
    · rfl
    all_goals cases hjob
  errands := by
    rintro (limit | _) runs now f hjob
    · exact nofun
    all_goals cases hjob
  waits := by
    rintro (limit | _) runs now f hjob
    · exact nofun
    all_goals cases hjob
  abandon := by
    rintro (limit | _) now f f' hjob hf
    · exact hf
    all_goals cases hjob
  host := by
    rintro (limit | _) runs now f f' hjob hf
    · refine ⟨?_, ?_, ?_⟩
      · exact hf.toAbreast.trans (hf.twins.abreast_sweep hf.keyed hf.keyed' now now limit)
      · exact Hub.keyed_step hf.keyed now (.sweep now limit) trivial
      · exact Hub.keyed_step hf.keyed' now (.sweep now limit) trivial
    all_goals cases hjob

/-- Time goes by for both. -/
theorem Twins.onTimeline (ht : Twins ν x s s') {g : Timeline Job Floor → Timeline Job Floor}
    (hg : ∀ R, Floor.worker.Keeps IsSweep R →
      ∀ t t', Timeline.Twins IsSweep R t t' → Timeline.Twins IsSweep R (g t) (g t')) :
    Twins ν x (s.onTimeline g) (s'.onTimeline g) ∧
      Hub.Abreast ν x s.hub s'.hub (s.onTimeline g).hub (s'.onTimeline g).hub := by
  have hstart : Timeline.Twins IsSweep (Floors ν x s.hub s'.hub) s.timeline s'.timeline :=
    ⟨ht.agenda, ht.jobs, ht.errands, ⟨ht.hub, rfl, rfl⟩, ht.keyed, ht.keyed'⟩
  obtain ⟨hagenda, hjobs, herrands, hfloors⟩ := hg _ (keeps_floors ν x s.hub s'.hub) _ _ hstart
  exact ⟨⟨hagenda, ht.sweeper, hjobs, herrands, hfloors.twins, hfloors.keyed, hfloors.keyed'⟩, hfloors.toAbreast⟩

/-! ## What is asked -/

namespace Twins

/-- What is asked about the id, or about none, of both. -/
theorem heed (ht : Twins ν x s s') {a : Ask} (hregular : a.IsRegular) (ha : ∀ y ∈ a.id?, y = x)
    (hfresh : Hub.Fresh ν s.hub s'.hub (s.heed a).hub) :
    (a.tellsOfOne → s'.answer (ν.ask a) = ν.outcome (s.answer a)) ∧
      Twins ν x (s.heed a) (s'.heed (ν.ask a)) ∧
      Hub.Abreast ν x s.hub s'.hub (s.heed a).hub (s'.heed (ν.ask a)).hub := by
  cases a with
  | createFrom id recipe? =>
    cases recipe? with
    | none => exact ⟨fun _ => rfl, ht, ht.hub, rfl, rfl⟩
    | some recipe =>
      obtain ⟨hanswer, hrest⟩ := ht.onHub (.getOrCreate id recipe) (hregular recipe rfl) ha hfresh
      refine ⟨fun _ => ?_, hrest⟩
      injection hanswer rfl with hreply
      injection hreply with hcreation
      exact congrArg (fun c => Outcome.creation (some c)) hcreation
  | order o =>
    cases o with
    | deed d =>
      cases d with
      | onHub op => exact ht.onHub op hregular ha hfresh
      | sweepNow =>
        have hsweep : s'.perform .sweepNow =
            s'.perform (.onHub (ν.op (.sweep s.now s.sweeper.settings.expireAfter))) := by
          rw [← ht.now, ← ht.sweeper]
          rfl
        obtain ⟨-, hrest⟩ := ht.onHub (.sweep s.now s.sweeper.settings.expireAfter) trivial nofun hfresh
        rw [← hsweep] at hrest
        exact ⟨(absurd · Bool.false_ne_true), hrest⟩
      | startSweeper =>
        obtain ⟨hanswer, hrest⟩ := ht.ofSweeper (d := .startSweeper) rfl
        exact ⟨fun _ => hanswer, hrest⟩
      | stopSweeper =>
        obtain ⟨hanswer, hrest⟩ := ht.ofSweeper (d := .stopSweeper) rfl
        exact ⟨fun _ => hanswer, hrest⟩
      | setSweeper settings =>
        obtain ⟨hanswer, hrest⟩ := ht.ofSweeper (d := .setSweeper settings) rfl
        exact ⟨fun _ => hanswer, hrest⟩
      | _ => exact hregular.elim
    | settle => exact ⟨fun _ => rfl, ht.onTimeline fun R hR t t' htt => htt.settle hR⟩
    | advance amount => exact ⟨fun _ => rfl, ht.onTimeline fun R hR t t' htt => htt.advance hR amount⟩
    | jump amount => exact ⟨fun _ => rfl, ht.onTimeline fun R hR t t' htt => htt.jump hR amount⟩
    | _ => exact hregular.elim

/-- What is asked about another id, of one only. -/
theorem skip (ht : Twins ν x s s') {a : Ask} (hregular : a.IsRegular) (ha : a.id? = some y) (hne : y ≠ x) :
    Twins ν x (s.heed a) s' := by
  cases a with
  | createFrom id recipe? =>
    cases recipe? with
    | none => exact ht
    | some recipe => exact ht.onHub_skip (.getOrCreate id recipe) (hregular recipe rfl) ha hne
  | order o =>
    cases o with
    | deed d =>
      cases d with
      | onHub op => exact ht.onHub_skip op hregular ha hne
      | _ => cases ha
    | _ => cases ha

end Twins

end Station

end Liveness
