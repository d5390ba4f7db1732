import Liveness.Proofs.Hub.Announce
import Liveness.Proofs.Hub.Run
import Liveness.Proofs.Registry.Census

/-!
# Notices replay to the registry

An observer's account of a run is what it was told in each call, together with
the removals of which no one is told.  Replayed from the census at which the
observer came, the account gives the census after the run, and each movement of
it fits the census that it finds: `replay_account`.
-/

namespace Liveness

/-- The event that subscribers can read of a movement. -/
def Movement.event? : Movement → Option DeviceEvent
  | .told n _ => some n.event
  | .silently .. => none

/-- The events of some movements. -/
def Movement.events (ms : List Movement) : List DeviceEvent := ms.filterMap Movement.event?

@[simp] theorem Movement.events_append (ms ns : List Movement) :
    Movement.events (ms ++ ns) = Movement.events ms ++ Movement.events ns :=
  List.filterMap_append

namespace Hub

/-- The census of a hub's registry. -/
def census (h : Hub) : Census := ⟨fun id => (h.registry.get? id).map (·.serial), h.registry.stored⟩

/-- What an observer is told by one entry of the trace. -/
def toldTo? (i : Nat) (s : Stamped) : Option Movement :=
  match s.what with
  | .observed j n present => if j = i then some (.told n present) else none
  | _ => none

/-- All that an observer was ever told. -/
def told (i : Nat) (h : Hub) : List Movement := h.seen (toldTo? i)

/-- What an observer is told in the course of a call, and what is taken away silently. -/
def movements (i : Nat) (h : Hub) (c : Call) : List Movement :=
  ((h.step c.1 c.2).told i).drop (h.told i).length ++
    match c.2 with
    | .removeSilently id => [.silently id (h.registry.get? id)]
    | _ => []

/-- The movements of a run in order. -/
def account (i : Nat) : Hub → List Call → List Movement
  | _, [] => []
  | h, c :: cs => h.movements i c ++ account i (h.step c.1 c.2) cs

/-! ## One atom -/

variable {i : Nat} {now : Int} {h h' h₁ h₂ h₃ : Hub}

/-- Movements lead from one hub to another, every observer that is there is told of them, and their events go
through the channel. -/
structure Spreads (h h' : Hub) (ms : List Movement) : Prop where
  observers : h.observers.length ≤ h'.observers.length
  told : ∀ i < h.observers.length, h'.told i = h.told i ++ ms
  fits : h.census.Fitting ms
  after : ms.foldl Census.after h.census = h'.census
  channel : h'.channel = (Movement.events ms).foldl Channel.send h.channel

namespace Spreads

theorem refl (h : Hub) : Spreads h h [] where
  observers := Nat.le_refl _
  told := fun _ _ => (List.append_nil _).symm
  fits := trivial
  after := rfl
  channel := rfl

theorem trans {ms ns : List Movement} (h : Spreads h₁ h₂ ms) (h' : Spreads h₂ h₃ ns) : Spreads h₁ h₃ (ms ++ ns) where
  observers := Nat.le_trans h.observers h'.observers
  told := fun i hi => by
    rw [h'.told i (Nat.lt_of_lt_of_le hi h.observers), h.told i hi, List.append_assoc]
  fits := (Census.fitting_append _ ms ns).mpr ⟨h.fits, h.after ▸ h'.fits⟩
  after := by rw [List.foldl_append, h.after, h'.after]
  channel := by rw [h'.channel, h.channel, Movement.events_append, List.foldl_append]

/-- A change that no one is told of and that moves no device. -/
theorem of_eq (hobservers : h.observers.length ≤ h'.observers.length) (htold : ∀ i, h'.told i = h.told i)
    (hcensus : h'.census = h.census) (hchannel : h'.channel = h.channel) : Spreads h h' [] where
  observers := hobservers
  told := fun i _ => by rw [htold, List.append_nil]
  fits := trivial
  after := hcensus.symm
  channel := hchannel

end Spreads

theorem skipsLog_toldTo? : SkipsLog (toldTo? i) := fun _ _ => rfl

theorem told_emit {what : Happening} (hwhat : ∀ j n present, what ≠ .observed j n present) :
    (h.emit now what).told i = h.told i := by
  rw [told, seen_emit]
  cases what with
  | observed j n present => exact absurd rfl (hwhat j n present)
  | watched | reported | logged => exact List.append_nil _

theorem told_announce {n : Notice} (hi : i < h.observers.length) :
    (h.announce now n).told i = h.told i ++ [.told n (h.registry.contains n.id)] := by
  have hself : ∀ j, toldTo? i ⟨now, .observed j n (h.registry.contains n.id)⟩ =
      if j = i then some (.told n (h.registry.contains n.id)) else none := fun j => rfl
  rw [told, skipsLog_toldTo?.seen_announce, filterMap_range_pick hi fun j hj => by rw [hself, if_neg hj]]
  rw [hself, if_pos rfl]
  rfl

theorem spreads_announce {r : Registry} {n : Notice} (hfits : (Movement.told n (r.contains n.id)).Fits h.census)
    (hafter : h.census.after (.told n (r.contains n.id)) = census { h with registry := r }) :
    Spreads h ({ h with registry := r }.announce now n) [.told n (r.contains n.id)] := by
  have hquiet : { h with registry := r }.Undisturbed ({ h with registry := r }.announce now n) :=
    undisturbed_announce _
  refine ⟨Nat.le_of_eq hquiet.observers.symm, fun i hi => ?_, ⟨hfits, trivial⟩, ?_, ?_⟩
  · exact told_announce (h := { h with registry := r }) hi
  · rw [List.foldl_cons, List.foldl_nil, hafter]
    simp only [census, hquiet.registry]
  · exact channel_announce { h with registry := r } n

theorem census_store (key : DeviceId) (p : Profile) (old : Option Device) (present : Bool) :
    h.census.after (.told (.added key (h.registry.store key p now).1 old) present) =
      census { h with registry := (h.registry.store key p now).2.2 } := by
  ext1
  · funext id
    simp only [census, Census.after, Registry.get?_store, Function.update_apply, eq_comm (a := id)]
    split <;> rfl
  · rfl

theorem census_erase (id : DeviceId) :
    census { h with registry := h.registry.erase id } = h.census.forget id := by
  ext1
  · funext id'
    simp only [census, Census.forget, Registry.get?_erase, Function.update_apply, eq_comm (a := id')]
    split <;> rfl
  · rfl

theorem census_update (id : DeviceId) {f : Device → Device}
    (hf : ∀ d, h.registry.get? id = some d → (f d).serial = d.serial) :
    census { h with registry := h.registry.update id f } = h.census := by
  ext1
  · funext id'
    simp only [census, Registry.get?_update]
    split
    · subst id'
      cases hd : h.registry.get? id with
      | none => rfl
      | some d => exact congrArg some (hf d hd)
    · rfl
  · rfl

theorem told_hear (k : Nat) (id : DeviceId) (link : LinkId) (state : LinkState) :
    (h.hear now k id link state).told i = h.told i := by
  unfold hear
  split
  · rfl
  · exact told_emit (by simp)

/-- Whatever is not done silently is told to all. -/
theorem spreads_atom (h : Hub) {a : Atom} (ha : ∀ id, a ≠ .eraseSilently id) : ∃ ms, Spreads h (h.atom now a) ms := by
  cases a with
  | store key p =>
    have hpresent : (h.registry.store key p now).2.2.contains key = true := by
      rw [Registry.contains_eq_isSome, Registry.get?_store]
      simp
    exact ⟨_, spreads_announce ⟨rfl, rfl, hpresent⟩ (census_store key p _ _)⟩
  | erase id reason =>
    cases hd : h.registry.get? id with
    | none =>
      rw [atom_erase_of_none reason hd]
      exact ⟨[], .refl h⟩
    | some d =>
      have habsent : (h.registry.erase id).contains id = false := by
        rw [Registry.contains_eq_isSome, Registry.get?_erase]
        simp
      rw [atom_erase_of_some _ hd]
      exact ⟨_, spreads_announce ⟨by simp [census, hd], habsent⟩ (census_erase id).symm⟩
  | eraseSilently id => exact absurd rfl (ha id)
  | touch id => exact ⟨[], .of_eq (Nat.le_refl _) (fun _ => rfl) (census_update id fun _ _ => rfl) rfl⟩
  | recordSequence id n =>
    cases hd : h.registry.get? id with
    | none => exact ⟨[], by simpa [atom, recordSequence, hd] using Spreads.refl h⟩
    | some d =>
      have hsame : (h.recordSequence id n).2.census = h.census := by
        simp only [recordSequence, hd]
        exact census_update id fun d' hd' => by rw [hd, Option.some.injEq] at hd'; rw [← hd']
      refine ⟨[], .of_eq ?_ (fun _ => ?_) hsame ?_⟩ <;> simp [atom, recordSequence, hd, told, seen]
  | hear k id link state =>
    have hchannel : (h.hear now k id link state).channel = h.channel := by
      unfold hear
      split <;> rfl
    exact ⟨[], .of_eq (by simp [atom]) (fun _ => told_hear k id link state) (by simp [atom, census]) hchannel⟩
  | addObserver o => exact ⟨[], .of_eq (by simp [atom, Hub.addObserver]) (fun _ => rfl) rfl rfl⟩
  | addTally => exact ⟨[], .of_eq (by simp [atom, Hub.addTally]) (fun _ => rfl) rfl rfl⟩
  | log line | report alarm churn => exact ⟨[], .of_eq (Nat.le_refl _) (fun _ => told_emit (by simp)) rfl rfl⟩
  | openLink | setLink | setSlots | takeTally | addWatcher | poison =>
    exact ⟨[], .of_eq (Nat.le_refl _) (fun _ => rfl) rfl rfl⟩

/-! ## Whole calls and runs -/

/-- Only the call that removes silently does so. -/
theorem Op.Makes.ne_eraseSilently {op : Op} {a : Atom} (ha : op.Makes a)
    (hop : ∀ id, op ≠ .removeSilently id) (id : DeviceId) : a ≠ .eraseSilently id := by
  rintro rfl
  exact hop id (ha.eq_of_sole rfl)

theorem spreads_step (h : Hub) {op : Op} (hop : ∀ id, op ≠ .removeSilently id) :
    ∃ ms, Spreads h (h.step now op) ms :=
  (reaches_step h op).lift (R := fun h h' => ∃ ms, Spreads h h' ms) (fun h => ⟨[], .refl h⟩)
    (fun ⟨_, hms⟩ ⟨_, hns⟩ => ⟨_, hms.trans hns⟩) fun h _ ha => spreads_atom h (ha.ne_eraseSilently hop)

/-- What happens to the registry in a call: all observers are told of it, or know otherwise which device is taken
away silently, and subscribers can read of it. -/
structure Tidings (h : Hub) (c : Call) (ms : List Movement) : Prop where
  observers : h.observers.length ≤ (h.step c.1 c.2).observers.length
  told : ∀ i < h.observers.length, h.movements i c = ms
  fits : h.census.Fitting ms
  after : ms.foldl Census.after h.census = (h.step c.1 c.2).census
  channel : (h.step c.1 c.2).channel = (Movement.events ms).foldl Channel.send h.channel

theorem exists_tidings (h : Hub) (c : Call) : ∃ ms, h.Tidings c ms := by
  obtain ⟨now, op⟩ := c
  by_cases hop : ∃ id, op = .removeSilently id
  · obtain ⟨id, rfl⟩ := hop
    have hstep : h.step now (.removeSilently id) = { h with registry := h.registry.erase id } := by
      rw [step, removeSilently_eq]
    refine ⟨[.silently id (h.registry.get? id)], ?_, fun i _ => ?_, ⟨rfl, trivial⟩, ?_, ?_⟩
    · exact Nat.le_of_eq (by rw [hstep])
    · simp [movements, hstep, told, seen]
    · rw [hstep]
      exact (census_erase id).symm
    · rw [hstep]
      rfl
  · rw [not_exists] at hop
    obtain ⟨ms, hms⟩ : ∃ ms, Spreads h (h.step now op) ms := spreads_step h hop
    refine ⟨ms, hms.observers, fun i hi => ?_, hms.fits, hms.after, hms.channel⟩
    unfold movements
    rw [hms.told i hi, List.drop_left]
    cases op with
    | removeSilently id => exact absurd rfl (hop id)
    | _ => exact List.append_nil ms

theorem account_fits (h : Hub) (calls : List Call) (hi : i < h.observers.length) :
    h.census.Fitting (account i h calls) ∧
      (account i h calls).foldl Census.after h.census = (h.run calls).census := by
  induction calls generalizing h with
  | nil => exact ⟨trivial, rfl⟩
  | cons c cs ih =>
    obtain ⟨ms, hms⟩ := exists_tidings h c
    obtain ⟨hfit, hfold⟩ := ih (h.step c.1 c.2) (Nat.lt_of_lt_of_le hi hms.observers)
    rw [account, hms.told i hi, List.foldl_append, Census.fitting_append, hms.after]
    exact ⟨⟨hms.fits, hfit⟩, hfold⟩

theorem numbered_step (h : Hub) (now : Int) (op : Op) (hn : h.census.Numbered) :
    (h.step now op).census.Numbered := by
  obtain ⟨ms, hms⟩ := exists_tidings h (now, op)
  exact hms.after ▸ hn.foldl_after hms.fits

theorem numbered_calls {h : Hub} (hn : h.census.Numbered) (calls : List Call) :
    (h.run calls).census.Numbered := by
  induction calls generalizing h with
  | nil => exact hn
  | cons c cs ih => exact ih (numbered_step h c.1 c.2 hn)

/-- Calls on an empty registry number their devices in the order in which these come. -/
theorem numbered_run {walk : Walk} (calls : List Call) : (({ walk } : Hub).run calls).census.Numbered :=
  numbered_calls ⟨by simp [census], by simp [census]⟩ calls

/-- The account that any observer has of a run replays to the registry.  Whatever calls came before the
observer, and whatever it and the others do when they are told: replaying the account from the census at
which the observer came gives the census after the calls, so after every call of the run; each
notice and each silent removal fits the census that it finds; no appearance of a peer comes twice or
was already there; and none goes twice or without having been there at the start or come before. -/
theorem replay_account (earlier calls : List Call) (o : Observer) :
    let before := ({} : Hub).run earlier
    let start := before.addObserver o
    let told := start.account before.observers.length calls
    told.foldl Census.after start.census = (start.run calls).census ∧
    start.census.Fitting told ∧
    (told.filterMap Movement.entered).Nodup ∧
    (∀ n ∈ told.filterMap Movement.entered, ∀ id, start.census.roster id ≠ some n) ∧
    (told.filterMap Movement.left).Nodup ∧
    (∀ pre m post n, told = pre ++ m :: post → m.left = some n →
      (∃ id, start.census.roster id = some n) ∨ n ∈ pre.filterMap Movement.entered) := by
  intro before start told
  have hnum : start.census.Numbered := numbered_run earlier
  obtain ⟨hfit, hfold⟩ := account_fits (i := before.observers.length) start calls
    (by simp [start, addObserver])
  refine ⟨hfold, hfit, hfit.nodup_entered, ?_, hfit.nodup_left hnum, ?_⟩
  · intro n hn id hid
    exact absurd (hnum.le_stored hid) (Nat.not_le_of_lt (hfit.stored_lt_of_entered hn))
  · intro pre m post n heq hleft
    rw [show account before.observers.length start calls = pre ++ m :: post from heq,
      Census.fitting_append] at hfit
    obtain ⟨id, hid⟩ := hfit.2.1.roster_of_left hleft
    exact Census.mem_of_foldl_after hid

end Hub

end Liveness
