import Mathlib.Data.List.Induction
import Liveness.Proofs.LastSeen
import Liveness.Proofs.Registry.Replay

/-!
# When devices were refreshed

An appearance of a peer is refreshed when it is made and when it is touched, be it before
it comes into the registry or since.  `Hub.refreshes` reads the instants off the history of
calls, and `Hub.dated_run` says that the clock of each device is the one that they make.
-/

namespace Liveness.Hub

/-! ## Histories of an appearance -/

/-- All that the calls of a run bring, in order. -/
def gathered {α : Type} (f : Hub → Call → List α) : Hub → List Call → List α
  | _, [] => []
  | h, c :: cs => f h c ++ gathered f (h.step c.1 c.2) cs

/-- What became of the device that a call stores, if it stores one, before that. -/
def Op.past : Op → Past
  | .put p => p.past
  | .getOrCreate _ recipe => recipe.past
  | _ => {}

/-- Whether an appearance comes into the registry in a call. -/
def comes (n : Nat) (h : Hub) (c : Call) : Bool :=
  h.registry.stored < n && n ≤ (h.step c.1 c.2).registry.stored

/-- Whether an appearance is touched by a call. -/
def touches (n : Nat) (h : Hub) : Op → Bool
  | .touch id => (h.registry.get? id).any (·.serial == n)
  | _ => false

/-- The refreshes of an appearance that come with a call. -/
def refreshesIn (n : Nat) (h : Hub) (c : Call) : List Int :=
  (if comes n h c then c.2.past.made?.getD c.1 :: c.2.past.touches else []) ++
    if touches n h c.2 then [c.1] else []

/-- When an appearance was refreshed; the first time is when it was made. -/
def refreshes (n : Nat) : Hub → List Call → List Int := gathered (refreshesIn n)

variable {walk : Walk} {n : Nat} {h h₁ h₂ h₃ : Hub} {now : Int}

theorem gathered_append {α : Type} (f : Hub → Call → List α) (h : Hub) (as bs : List Call) :
    gathered f h (as ++ bs) = gathered f h as ++ gathered f (h.run as) bs := by
  induction as generalizing h with
  | nil => rfl
  | cons c as ih => rw [List.cons_append, gathered, gathered, run_cons, ih, List.append_assoc]

theorem gathered_concat {α : Type} (f : Hub → Call → List α) (h : Hub) (as : List Call) (c : Call) :
    gathered f h (as ++ [c]) = gathered f h as ++ f (h.run as) c := by
  rw [gathered_append, gathered, gathered, List.append_nil]

/-! ## Devices after a call -/

/-- Something about devices that is as it was, later on: each device is new, with a new number, and what new
ones have, or is the one that was there and has what that one had. -/
structure Heirs {α : Type} (f : Device → α) (new : α) (h h' : Hub) : Prop where
  stored : h.registry.stored ≤ h'.registry.stored
  devices : ∀ id d', h'.registry.get? id = some d' →
    (h.registry.stored < d'.serial ∧ d'.serial ≤ h'.registry.stored ∧ f d' = new) ∨
      ∃ d, h.registry.get? id = some d ∧ d'.serial = d.serial ∧ d'.id = d.id ∧ f d' = f d

/-- An atom that touches no device and records no sequence number for any leaves alone what devices have, and
those that it stores have what new ones have. -/
def Atom.LeavesAlone {α : Type} (f : Device → α) (new : α) (now : Int) : Atom → Prop
  | .store _ p => ∀ n, f (.appear n p now) = new
  | .touch _ => ∀ d, f (d.touch now) = f d
  | .recordSequence _ n => ∀ d : Device, f { d with sequence := (d.sequence.record n).2 } = f d
  | _ => True

section Heirs

variable {α : Type} {f : Device → α} {new : α}

namespace Heirs

theorem of_registry_eq (heq : h₁.registry = h.registry) : Heirs f new h h₁ where
  stored := Nat.le_of_eq (by rw [heq])
  devices := fun id d hd => .inr ⟨d, heq ▸ hd, rfl, rfl, rfl⟩

theorem refl (h : Hub) : Heirs f new h h := of_registry_eq rfl

theorem trans (h : Heirs f new h₁ h₂) (h' : Heirs f new h₂ h₃) : Heirs f new h₁ h₃ where
  stored := Nat.le_trans h.stored h'.stored
  devices := fun id d'' hd'' => by
    rcases h'.devices id d'' hd'' with ⟨hlt, hle, hnew⟩ | ⟨d', hd', hserial, hid, hsame⟩
    · exact .inl ⟨Nat.lt_of_le_of_lt h.stored hlt, hle, hnew⟩
    · rcases h.devices id d' hd' with ⟨hlt, hle, hnew⟩ | ⟨d, hd, hserial', hid', hsame'⟩
      · exact .inl ⟨hserial ▸ hlt, hserial ▸ Nat.le_trans hle h'.stored, hsame.trans hnew⟩
      · exact .inr ⟨d, hd, hserial.trans hserial', hid.trans hid', hsame.trans hsame'⟩

end Heirs

theorem heirs_erase (id : DeviceId) {h' : Hub} (heq : h'.registry = h.registry.erase id) : Heirs f new h h' where
  stored := by rw [heq]; exact Nat.le_refl _
  devices := fun id' d hd => by
    rw [heq, Registry.get?_erase] at hd
    split at hd
    · cases hd
    · exact .inr ⟨d, hd, rfl, rfl, rfl⟩

/-- A device that is changed under its id stays the same appearance of the same peer. -/
theorem heirs_update (id : DeviceId) {g : Device → Device} {h' : Hub}
    (heq : h'.registry = h.registry.update id g)
    (hg : ∀ d, h.registry.get? id = some d → (g d).serial = d.serial ∧ (g d).id = d.id ∧ f (g d) = f d) :
    Heirs f new h h' where
  stored := by rw [heq]; exact Nat.le_refl _
  devices := fun id' d' hd' => by
    rw [heq, Registry.get?_update] at hd'
    split at hd'
    · subst id'
      obtain ⟨d, hd, rfl⟩ := Option.map_eq_some_iff.mp hd'
      exact .inr ⟨d, hd, hg d hd⟩
    · exact .inr ⟨d', hd', rfl, rfl, rfl⟩

theorem heirs_atom (h : Hub) {a : Atom} (ha : a.LeavesAlone f new now) :
    Heirs f new h (h.atom now a) := by
  cases a with
  | store key p =>
    have hregistry : (h.atom now (.store key p)).registry = (h.registry.store key p now).2.2 :=
      (undisturbed_announce _).registry
    constructor
    · rw [hregistry]
      exact Nat.le_succ _
    · intro id d' hd'
      rw [hregistry, Registry.get?_store] at hd'
      split at hd'
      · obtain rfl := Option.some.inj hd'
        refine .inl ⟨Nat.lt_succ_self _, ?_, ha _⟩
        rw [hregistry]
        exact Nat.le_refl _
      · exact .inr ⟨d', hd', rfl, rfl, rfl⟩
  | erase id reason =>
    cases hd : h.registry.get? id with
    | none =>
      rw [atom_erase_of_none reason hd]
      exact .refl h
    | some d =>
      rw [atom_erase_of_some _ hd]
      exact heirs_erase id (undisturbed_announce _).registry
  | eraseSilently id => exact heirs_erase id rfl
  | touch id => exact heirs_update id rfl fun d _ => ⟨rfl, rfl, ha d⟩
  | recordSequence id n =>
    cases hd : h.registry.get? id with
    | none => simpa [atom, recordSequence, hd] using Heirs.refl h
    | some d =>
      refine heirs_update id (g := fun _ => { d with sequence := (d.sequence.record n).2 }) ?_ ?_
      · simp only [atom, recordSequence, hd]
      · intro d' hd'
        obtain rfl := Option.some.inj (hd.symm.trans hd')
        exact ⟨rfl, rfl, ha d⟩
  | hear k id link state => exact .of_registry_eq (registry_hear h now k id link state)
  | openLink | setLink | setSlots | addObserver | addTally | takeTally | addWatcher | log | report | poison =>
    exact .of_registry_eq rfl

end Heirs

/-- A device that a call stores has the past that the call gives it. -/
theorem Op.Makes.past {op : Op} {key : DeviceId} {p : Profile} (ha : op.Makes (.store key p)) : p.past = op.past := by
  cases op with
  | put p' =>
    cases ha
    rfl
  | getOrCreate id recipe =>
    obtain ⟨p', hyields, heq⟩ | ⟨l, heq⟩ | heq := ha
    · cases heq
      exact hyields.2
    · cases heq
    · cases heq
  | sweep | sweepOver => cases ha
  | reportActive | reportInactive =>
    obtain _ | _ | (_ | _ | ha) := ha
    cases ha
    rfl
  | _ => simp [Op.Makes] at ha

/-- Only a touch moves the clock of a device that is there, and one that comes brings its own. -/
theorem heirs_step (h : Hub) {op : Op} (hop : ∀ id, op ≠ .touch id) :
    Heirs Device.clock (op.past.clock now) h (h.step now op) := by
  refine (reaches_step h op).lift Heirs.refl Heirs.trans fun h a ha => heirs_atom h ?_
  cases a with
  | store key p => exact fun n => congrArg (·.clock now) ha.past
  | touch id => exact absurd (ha.eq_of_sole rfl) (hop id)
  | recordSequence id n => exact fun d => rfl
  | _ => trivial

theorem stored_le_step (h : Hub) (now : Int) (op : Op) : h.registry.stored ≤ (h.step now op).registry.stored := by
  by_cases hop : ∃ id, op = .touch id
  · obtain ⟨id, rfl⟩ := hop
    exact Nat.le_refl _
  · have hheirs : Heirs Device.clock (op.past.clock now) h (h.step now op) := heirs_step h (not_exists.mp hop)
    exact hheirs.stored

theorem stored_le_run (h : Hub) (calls : List Call) : h.registry.stored ≤ (h.run calls).registry.stored :=
  le_run_of_le_step stored_le_step h calls

/-- Nothing is gathered about an appearance whose number was not given yet. -/
theorem gathered_eq_nil {α : Type} {f : Hub → Call → List α} {calls : List Call}
    (hf : ∀ h c, h.census.Numbered → (h.step c.1 c.2).registry.stored < n → f h c = [])
    (hn : (({ walk } : Hub).run calls).registry.stored < n) : gathered f { walk } calls = [] := by
  induction calls using List.reverseRecOn with
  | nil => rfl
  | append_singleton calls c ih =>
    rw [run_append] at hn
    have hle : (({ walk } : Hub).run calls).registry.stored < n := Nat.lt_of_le_of_lt (stored_le_run _ [c]) hn
    rw [gathered_concat, ih hle, hf _ c (numbered_run calls) hn]
    rfl

theorem serial_unique (hn : h.census.Numbered) {id id' : DeviceId} {d d' : Device}
    (hd : h.registry.get? id = some d) (hd' : h.registry.get? id' = some d') (hserial : d.serial = d'.serial) :
    id = id' := by
  refine hn.unique (n := d.serial) ?_ ?_
  · simp [census, hd]
  · simp [census, hd', hserial]

theorem serial_le_stored (hn : h.census.Numbered) {id : DeviceId} {d : Device}
    (hd : h.registry.get? id = some d) : d.serial ≤ h.registry.stored := by
  have hid : h.census.roster id = some d.serial := by simp [census, hd]
  exact hn.le_stored hid

/-- A call that stores an appearance touches none. -/
theorem not_touches (hn : h.census.Numbered) (hlt : h.registry.stored < n) (op : Op) : touches n h op = false := by
  cases op with
  | touch id =>
    rw [touches, Option.any_eq_false]
    intro d hd
    have hle : d.serial ≤ h.registry.stored := serial_le_stored hn hd
    rw [beq_eq_false_iff_ne]
    omega
  | _ => rfl

/-- No refresh comes with a call for an appearance that is not there after it. -/
theorem refreshesIn_eq_nil (hn : h.census.Numbered) {c : Call} (hlt : (h.step c.1 c.2).registry.stored < n) :
    refreshesIn n h c = [] := by
  have hbefore : h.registry.stored < n := Nat.lt_of_le_of_lt (stored_le_step h c.1 c.2) hlt
  have hcomes : comes n h c = false := by
    rw [comes, Bool.and_eq_false_iff]
    exact .inr (decide_eq_false (by omega))
  simp [refreshesIn, hcomes, not_touches hn hbefore]

/-- A device after a call is new and brings its past, or was there and has been touched or not. -/
theorem device_of_step (hn : h.census.Numbered) {op : Op} {id : DeviceId} {d' : Device}
    (hd' : (h.step now op).registry.get? id = some d') :
    (h.registry.stored < d'.serial ∧ d'.serial ≤ (h.step now op).registry.stored ∧ d'.clock = op.past.clock now) ∨
      ∃ d, h.registry.get? id = some d ∧ d'.serial = d.serial ∧ d'.id = d.id ∧
        d'.clock = if touches d.serial h op then d.clock.touch now else d.clock := by
  by_cases hop : ∃ id, op = .touch id
  · obtain ⟨id₀, rfl⟩ := hop
    simp only [step, touch, Registry.get?_update] at hd'
    split at hd'
    · subst id₀
      obtain ⟨d, hd, rfl⟩ := Option.map_eq_some_iff.mp hd'
      refine .inr ⟨d, hd, rfl, rfl, ?_⟩
      simp [touches, hd, Device.touch]
    · rename_i hne
      refine .inr ⟨d', hd', rfl, rfl, ?_⟩
      have hother : touches d'.serial h (.touch id₀) = false := by
        rw [touches, Option.any_eq_false]
        intro d₀ hd₀
        rw [beq_eq_false_iff_ne]
        exact fun hserial => hne (serial_unique hn hd₀ hd' hserial)
      rw [hother, if_neg Bool.false_ne_true]
  · have hnot : ∀ n, touches n h op = false := by
      intro n
      cases op with
      | touch id => exact absurd ⟨id, rfl⟩ hop
      | _ => rfl
    simp only [hnot, Bool.false_eq_true, if_false]
    exact (heirs_step h (not_exists.mp hop)).devices id d' hd'

/-- The clocks of devices are those that the refreshes make. -/
theorem dated_run {calls : List Call} {id : DeviceId} {d : Device}
    (hd : (({ walk } : Hub).run calls).registry.get? id = some d) :
    ∃ made since, refreshes d.serial { walk } calls = made :: since ∧
      d.clock = (LastSeen.startingAt made).touches since := by
  induction calls using List.reverseRecOn generalizing id d with
  | nil => simp at hd
  | append_singleton calls c ih =>
    rw [run_append] at hd
    have hnum : (({ walk } : Hub).run calls).census.Numbered := numbered_run calls
    rw [refreshes, gathered_concat]
    rcases device_of_step hnum hd with ⟨hlt, hle, hclock⟩ | ⟨d₀, hd₀, hserial, -, hclock⟩
    · have hnew : comes d.serial (({ walk } : Hub).run calls) c = true := by
        rw [comes, Bool.and_eq_true]
        exact ⟨decide_eq_true hlt, decide_eq_true hle⟩
      have hnone : gathered (refreshesIn d.serial) { walk } calls = [] :=
        gathered_eq_nil (fun h c hn hlt => refreshesIn_eq_nil hn hlt) hlt
      refine ⟨c.2.past.made?.getD c.1, c.2.past.touches, ?_, hclock⟩
      simp [hnone, refreshesIn, hnew, not_touches hnum hlt]
    · obtain ⟨made, since, hrefreshes, hsince⟩ := ih hd₀
      have hold : comes d₀.serial (({ walk } : Hub).run calls) c = false := by
        rw [comes, Bool.and_eq_false_iff]
        exact .inl (decide_eq_false (Nat.not_lt.mpr (serial_le_stored hnum hd₀)))
      refine ⟨made, since ++ refreshesIn d₀.serial (({ walk } : Hub).run calls) c, ?_, ?_⟩
      · rw [hserial, ← refreshes, hrefreshes]
        rfl
      · rw [hclock, hsince, LastSeen.touches_append, refreshesIn, hold]
        cases touches d₀.serial (({ walk } : Hub).run calls) c.2 <;> rfl

end Liveness.Hub
