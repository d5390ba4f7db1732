import Liveness.Proofs.Hub.Bridge

/-!
# Devices and the connections that are up

What a watcher hears of connections is a list of hearings, and a connection *holds*
an id after them if it was the last one to come up under that id and has not gone
down since.  With a bridge among the watchers, a device is on the connection that
holds its id (`Mirrors`), unless someone else stores devices, and every id that is
held has its device (`Serves`), unless someone else takes devices away.  A call
moves one connection at most, and `Moves` says what becomes of its slot and of the
devices then; both invariants follow from that.
-/

namespace Liveness.Hub

/-! ## What is heard -/

/-- A connection and what a watcher is told about it. -/
abbrev Hearing := LinkId × Callback

/-- What a watcher hears by one entry of the trace. -/
def heardBy? (k : Nat) (s : Stamped) : Option Hearing :=
  match s.what with
  | .watched j id l state => if j = k then some (l, id, state) else none
  | _ => none

/-- All that a watcher ever heard. -/
def heard (k : Nat) (h : Hub) : List Hearing := h.seen (heardBy? k)

/-- What a watcher hears from one hub to a later one. -/
def hearings (k : Nat) (h h' : Hub) : List Hearing := (h'.heard k).drop (h.heard k).length

/-- A connection came up under an id, and after it none did. -/
def CameUpLast (id : DeviceId) (l : LinkId) (told since : List Hearing) : Prop :=
  ∃ before, told = before ++ (l, id, .active) :: since ∧ ∀ l', (l', id, .active) ∉ since

/-- A connection does not go down. -/
def StaysUp (l : LinkId) (since : List Hearing) : Prop := ∀ id, (l, id, .inactive) ∉ since

/-- A connection was the last one to come up under an id, and has not gone down since. -/
def Holds (id : DeviceId) (l : LinkId) (told : List Hearing) : Prop :=
  ∃ since, CameUpLast id l told since ∧ StaysUp l since

variable {k : Nat} {now : Int} {id : DeviceId} {l : LinkId} {h h₁ h₂ h₃ : Hub}
  {told : List Hearing}

theorem readsWatchers_heardBy? : ReadsWatchers (heardBy? k) := by
  intro now what hwhat
  cases what with
  | watched j id l state => exact absurd rfl (hwhat j id l state)
  | observed | reported | logged => rfl

theorem heard_fire (hk : k < h.watchers.length) (id : DeviceId) (l : LinkId) (state : LinkState) :
    (h.fire now id l state).heard k = h.heard k ++ [(l, id, state)] := by
  have hother : ∀ j, j ≠ k → heardBy? k ⟨now, .watched j id l state⟩ = none := fun j hj => if_neg hj
  rw [heard, (seen_fire readsWatchers_heardBy? h id l state).2, filterMap_range_pick hk hother]
  simp [heardBy?, heard]

theorem not_holds_nil : ¬Holds id l [] := by
  rintro ⟨since, ⟨before, heq, -⟩, -⟩
  exact List.append_ne_nil_of_right_ne_nil before (List.cons_ne_nil _ since) heq.symm

/-- Who holds an id after one more hearing. -/
theorem holds_append (told : List Hearing) (x : Hearing) :
    Holds id l (told ++ [x]) ↔
      x = (l, id, .active) ∨
        Holds id l told ∧ (∀ l', x ≠ (l', id, .active)) ∧ ∀ id', x ≠ (l, id', .inactive) := by
  constructor
  · rintro ⟨since, ⟨before, heq, hlast⟩, hstays⟩
    rcases List.eq_nil_or_concat since with rfl | ⟨since, y, rfl⟩
    · exact .inl (List.singleton_inj.mp (List.append_inj' heq rfl).2)
    · rw [List.concat_eq_append] at heq hlast hstays
      rw [← List.cons_append, ← List.append_assoc] at heq
      obtain ⟨htold, hy⟩ := List.append_inj' heq rfl
      obtain rfl : x = y := List.singleton_inj.mp hy
      refine .inr ⟨⟨since, ⟨before, htold, ?_⟩, ?_⟩, ?_, ?_⟩
      · exact fun l' hmem => hlast l' (List.mem_append_left _ hmem)
      · exact fun id' hmem => hstays id' (List.mem_append_left _ hmem)
      · rintro l' rfl
        exact hlast l' (List.mem_append_right _ (List.mem_singleton_self _))
      · rintro id' rfl
        exact hstays id' (List.mem_append_right _ (List.mem_singleton_self _))
  · rintro (rfl | ⟨⟨since, ⟨before, rfl, hlast⟩, hstays⟩, hup, hdown⟩)
    · exact ⟨[], ⟨told, rfl, fun _ => List.not_mem_nil⟩, fun _ => List.not_mem_nil⟩
    · refine ⟨since ++ [x], ⟨before, List.append_assoc _ _ _, fun l' hmem => ?_⟩, fun id' hmem => ?_⟩
      · rcases List.mem_append.mp hmem with hmem | hmem
        · exact hlast l' hmem
        · exact hup l' (List.mem_singleton.mp hmem).symm
      · rcases List.mem_append.mp hmem with hmem | hmem
        · exact hstays id' hmem
        · exact hdown id' (List.mem_singleton.mp hmem).symm

/-! ## One call -/

/-- A call that reports a connection. -/
def Op.isReport : Op → Bool
  | .reportActive .. | .reportInactive _ => true
  | _ => false

/-- What a call does about connections: to their slots and devices, and what a watcher hears of them. -/
inductive Moves (h : Hub) (op : Op) (h' : Hub) : List Hearing → Prop
  /-- The call is about something else. -/
  | aside (hop : op.isReport = false) (hslots : h'.slots = h.slots) : Moves h op h' []
  /-- The call is a report that makes no difference. -/
  | quiet (hslots : h'.slots = h.slots) (hregistry : h'.registry = h.registry) : Moves h op h' []
  | up (id : DeviceId) (l : LinkId) (hslot : h.slot? l = none)
      (hslots : h'.slots = h.slots.insert l ⟨id, .active⟩) (hbinds : Binds id l h h') (hbound : h'.Bound id l) :
      Moves h op h' [(l, id, .active)]
  | down (id : DeviceId) (l : LinkId) (hslot : h.slot? l = some ⟨id, .active⟩)
      (hslots : h'.slots = h.slots.erase l) (hreleases : Releases id l h h') (hbound : ¬h'.Bound id l) :
      Moves h op h' [(l, id, .inactive)]

theorem moves_onActive (hs : h.Settled) (hk : IsBridge k h) (now : Int) (id : DeviceId) (l : LinkId) :
    ∃ new, Moves h (.reportActive id l) (h.onActive now id l).2 new ∧
      (h.onActive now id l).2.heard k = h.heard k ++ new := by
  obtain ⟨links, heq⟩ | ⟨links, hslot, -, heq⟩ := onActive_cases h hs now id l
  · rw [heq]
    exact ⟨[], .quiet rfl rfl, (List.append_nil _).symm⟩
  · let h₁ : Hub := { h with links, slots := h.slots.insert l ⟨id, .active⟩ }
    have hk₁ : IsBridge k h₁ := hk.of_watchers_eq rfl
    obtain ⟨hbinds, hbound⟩ := binds_fire hk₁ now id l
    rw [heq]
    refine ⟨_, .up id l hslot (slots_fire h₁ id l .active) ?_ hbound, heard_fire hk₁.lt_length id l .active⟩
    exact ⟨hbinds.others, hbinds.device⟩

/-- A connection that goes down takes at most the device of its own id along. -/
theorem releases_onInactive (hs : h.Settled) (hk : IsBridge k h) (now : Int) {slot : Slot}
    (hslot : h.slot? l = some slot) :
    Releases slot.id l h (h.onInactive now l).2 ∧ ¬(h.onInactive now l).2.Bound slot.id l := by
  obtain ⟨hnone, -⟩ | ⟨id, hslot', heq⟩ := onInactive_cases h hs now l
  · cases hslot.symm.trans hnone
  · obtain rfl := Option.some.inj (hslot.symm.trans hslot')
    let h₁ : Hub := { h with slots := h.slots.insert l ⟨id, .closed⟩ }
    have hk₁ : IsBridge k h₁ := hk.of_watchers_eq rfl
    obtain ⟨hreleases, hbound⟩ := releases_fire hk₁ now id l
    rw [heq]
    exact ⟨⟨hreleases.others, hreleases.device⟩, hbound⟩

theorem moves_onInactive (hs : h.Settled) (hk : IsBridge k h) (now : Int) (l : LinkId) :
    ∃ new, Moves h (.reportInactive l) (h.onInactive now l).2 new ∧
      (h.onInactive now l).2.heard k = h.heard k ++ new := by
  obtain ⟨-, heq⟩ | ⟨id, hslot, heq⟩ := onInactive_cases h hs now l
  · rw [heq]
    exact ⟨[], .quiet rfl rfl, (List.append_nil _).symm⟩
  · obtain ⟨hreleases, hbound⟩ := releases_onInactive hs hk now hslot
    let h₁ : Hub := { h with slots := h.slots.insert l ⟨id, .closed⟩ }
    have hk₁ : IsBridge k h₁ := hk.of_watchers_eq rfl
    have hslots : ((h₁.fire now id l .inactive).dropSlot l).slots = h.slots.erase l := by
      rw [dropSlot, slots_fire, erase_insert_eq_erase]
    rw [heq] at hreleases hbound ⊢
    exact ⟨_, .down id l hslot hslots hreleases hbound, heard_fire hk₁.lt_length id l .inactive⟩

/-- A call moves one connection at most. -/
theorem moves_step (hs : h.Settled) (hk : IsBridge k h) (now : Int) (op : Op) :
    ∃ new, Moves h op (h.step now op) new ∧ (h.step now op).heard k = h.heard k ++ new := by
  cases hop : op.isReport with
  | false =>
    have hactive : ∀ id l, op ≠ .reportActive id l := by
      rintro id l rfl
      cases hop
    have hinactive : ∀ l, op ≠ .reportInactive l := by
      rintro l rfl
      cases hop
    refine ⟨[], .aside hop (calm_step (k := k) h hactive hinactive).slots, ?_⟩
    rw [List.append_nil]
    exact readsWatchers_heardBy?.seen_of_reaches (fun _ ha => (ha.aside hactive hinactive).2) (reaches_step h op)
  | true =>
    cases op with
    | reportActive id l => exact moves_onActive hs hk now id l
    | reportInactive l => exact moves_onInactive hs hk now l
    | _ => cases hop

theorem Moves.settled {op : Op} {new : List Hearing} (hm : Moves h op h₁ new) (hs : h.Settled) : h₁.Settled := by
  intro l slot hslot
  cases hm with
  | aside _ hslots | quiet hslots => exact hs l slot (by rwa [slot?, ← hslots])
  | up id l' _ hslots =>
    rw [slot?_insert hslots] at hslot
    split at hslot
    · obtain rfl := Option.some.inj hslot
      rfl
    · exact hs l slot hslot
  | down id l' _ hslots =>
    rw [slot?_erase hslots] at hslot
    split at hslot
    · cases hslot
    · exact hs l slot hslot

/-- The devices of a hub later on, if none was stored in between: they were there under the same ids, and
were bound to the same connections. -/
structure Thins (h h' : Hub) : Prop where
  stored : h.registry.stored ≤ h'.registry.stored
  devices : h'.registry.stored = h.registry.stored → ∀ id d', h'.registry.get? id = some d' →
    ∃ d, h.registry.get? id = some d ∧ d'.id = d.id ∧ d'.link = d.link

namespace Thins

theorem of_registry_eq (heq : h₁.registry = h.registry) : Thins h h₁ :=
  ⟨Nat.le_of_eq (by rw [heq]), fun _ _ d hd => ⟨d, heq ▸ hd, rfl, rfl⟩⟩

theorem trans (h : Thins h₁ h₂) (h' : Thins h₂ h₃) : Thins h₁ h₃ where
  stored := Nat.le_trans h.stored h'.stored
  devices := fun heq id d₃ hd₃ => by
    -- no number was given on the way either
    have hmid : h₂.registry.stored = h₁.registry.stored :=
      Nat.le_antisymm (heq ▸ h'.stored) h.stored
    obtain ⟨d₂, hd₂, hid₂, hlink₂⟩ := h'.devices (heq.trans hmid.symm) id d₃ hd₃
    obtain ⟨d₁, hd₁, hid₁, hlink₁⟩ := h.devices hmid id d₂ hd₂
    exact ⟨d₁, hd₁, hid₂.trans hid₁, hlink₂.trans hlink₁⟩

end Thins

theorem thins_erase {id : DeviceId} (heq : h₁.registry = h.registry.erase id) : Thins h h₁ where
  stored := by rw [heq]; exact Nat.le_refl _
  devices := fun _ id' d hd => by
    rw [heq, Registry.get?_erase] at hd
    split at hd
    · cases hd
    · exact ⟨d, hd, rfl, rfl⟩

theorem thins_update {id : DeviceId} {f : Device → Device} (heq : h₁.registry = h.registry.update id f)
    (hf : ∀ d, h.registry.get? id = some d → (f d).id = d.id ∧ (f d).link = d.link) : Thins h h₁ where
  stored := by rw [heq]; exact Nat.le_refl _
  devices := fun _ id' d' hd' => by
    rw [heq, Registry.get?_update] at hd'
    split at hd'
    · subst id'
      obtain ⟨d, hd, rfl⟩ := Option.map_eq_some_iff.mp hd'
      exact ⟨d, hd, hf d hd⟩
    · exact ⟨d', hd', rfl, rfl⟩

theorem thins_atom (h : Hub) (a : Atom) : Thins h (h.atom now a) := by
  cases a with
  | store key p =>
    have hstored : (h.atom now (.store key p)).registry.stored = h.registry.stored + 1 :=
      congrArg Registry.stored (undisturbed_announce _).registry
    exact ⟨by omega, fun heq => by omega⟩
  | erase id reason =>
    cases hd : h.registry.get? id with
    | none => exact .of_registry_eq (by rw [atom_erase_of_none reason hd])
    | some d =>
      rw [atom_erase_of_some reason hd]
      exact thins_erase (undisturbed_announce _).registry
  | eraseSilently id => exact thins_erase rfl
  | touch id => exact thins_update rfl fun _ _ => ⟨rfl, rfl⟩
  | recordSequence id n =>
    cases hd : h.registry.get? id with
    | none => exact .of_registry_eq (by simp [Hub.atom, recordSequence, hd])
    | some d =>
      refine thins_update (by simp only [Hub.atom, recordSequence, hd]; rfl) fun d' hd' => ?_
      obtain rfl := Option.some.inj (hd.symm.trans hd')
      exact ⟨rfl, rfl⟩
  | hear j id l state => exact .of_registry_eq (registry_hear h now j id l state)
  | openLink | setLink | setSlots | addObserver | addTally | takeTally | addWatcher | log | report | poison =>
    exact .of_registry_eq rfl

theorem thins_step (h : Hub) (now : Int) (op : Op) : Thins h (h.step now op) :=
  (reaches_step h op).lift (fun _ => .of_registry_eq rfl) .trans fun h a _ => thins_atom h a

/-! ## Runs -/

/-- Whatever but the bridge stores no device. -/
def StoresNone (h : Hub) (c : Call) : Prop :=
  c.2.isReport ∨ (h.step c.1 c.2).registry.stored = h.registry.stored

theorem stored_atom (h : Hub) {a : Atom} (ha : ∀ key p, a ≠ .store key p) :
    (h.atom now a).registry.stored = h.registry.stored := by
  cases a with
  | store key p => exact absurd rfl (ha key p)
  | erase id reason =>
    cases hd : h.registry.get? id with
    | none => rw [atom_erase_of_none reason hd]
    | some d =>
      rw [atom_erase_of_some reason hd, (undisturbed_announce _).registry]
      rfl
  | recordSequence id n =>
    cases hd : h.registry.get? id with
    | none => simp [Hub.atom, recordSequence, hd]
    | some d =>
      simp only [Hub.atom, recordSequence, hd]
      rfl
  | hear j id l state => exact congrArg Registry.stored (registry_hear h now j id l state)
  | eraseSilently | touch | openLink | setLink | setSlots | addObserver | addTally | takeTally | addWatcher
  | log | report | poison =>
    rfl

/-- Devices are stored by the bridge, or when someone puts one or asks for one. -/
theorem storesNone_of_ne (h : Hub) (now : Int) {op : Op} (hput : ∀ p, op ≠ .put p)
    (hcreate : ∀ id recipe, op ≠ .getOrCreate id recipe) : StoresNone h (now, op) := by
  cases hop : op.isReport with
  | true => exact .inl hop
  | false =>
    refine .inr ((reaches_step h op).lift (R := fun h h' => h'.registry.stored = h.registry.stored)
      (fun _ => rfl) (fun hab hbc => hbc.trans hab) fun h a ha => stored_atom h ?_)
    rintro key p rfl
    cases op with
    | put p' => exact hput p' rfl
    | getOrCreate id recipe => exact hcreate id recipe rfl
    | reportActive | reportInactive => cases hop
    | sweep | sweepOver => cases ha
    | _ => simp [Op.Makes] at ha

/-- Whatever but the bridge takes no device away. -/
def TakesNone (h : Hub) (c : Call) : Prop :=
  c.2.isReport ∨ ∀ id, h.registry.contains id → (h.step c.1 c.2).registry.contains id

/-- Every call of a run is of a kind that may depend on the hub that it finds. -/
def Throughout (P : Hub → Call → Prop) : Hub → List Call → Prop
  | _, [] => True
  | h, c :: cs => P h c ∧ Throughout P (h.step c.1 c.2) cs

/-- Every device is bound to the connection that holds its id, and whatever holds an id is up under it. -/
structure Mirrors (told : List Hearing) (h : Hub) : Prop where
  device : ∀ id d, h.registry.get? id = some d → d.id = id ∧ Holds id d.link told
  slot : ∀ id l, Holds id l told → h.slot? l = some ⟨id, .active⟩

/-- Every id that a connection holds has a device on it. -/
def Serves (told : List Hearing) (h : Hub) : Prop := ∀ id l, Holds id l told → h.Bound id l

namespace Mirrors

theorem up (hm : Mirrors told h) (hslot : h.slot? l = none) (hslots : h₁.slots = h.slots.insert l ⟨id, .active⟩)
    (hbinds : Binds id l h h₁) (hbound : h₁.Bound id l) : Mirrors (told ++ [(l, id, .active)]) h₁ where
  device := fun id' d hd => by
    by_cases hid : id' = id
    · subst id'
      obtain ⟨d', hd', hlink⟩ := hbound
      obtain rfl := Option.some.inj (hd.symm.trans hd')
      refine ⟨?_, (holds_append told _).mpr (.inl (by rw [hlink]))⟩
      rcases hbinds.device with heq | ⟨d', hd', hid, -⟩
      · exact (hm.device id d (heq ▸ hd)).1
      · obtain rfl := Option.some.inj (hd.symm.trans hd')
        exact hid
    · obtain ⟨hself, hholds⟩ := hm.device id' d (hbinds.others id' hid ▸ hd)
      exact ⟨hself, (holds_append told _).mpr (.inr ⟨hholds, by simp [Ne.symm hid], by simp⟩)⟩
  slot := fun id' l' hholds => by
    rw [slot?_insert hslots]
    rcases (holds_append told _).mp hholds with heq | ⟨hholds, -, -⟩
    · simp only [Prod.mk.injEq] at heq
      obtain ⟨rfl, rfl, -⟩ := heq
      exact if_pos rfl
    · have hold : h.slot? l' = some ⟨id', .active⟩ := hm.slot id' l' hholds
      rw [if_neg, hold]
      rintro rfl
      cases hslot.symm.trans hold

theorem down (hm : Mirrors told h) (hslot : h.slot? l = some ⟨id, .active⟩) (hslots : h₁.slots = h.slots.erase l)
    (hreleases : Releases id l h h₁) (hbound : ¬h₁.Bound id l) : Mirrors (told ++ [(l, id, .inactive)]) h₁ where
  device := fun id' d hd => by
    obtain ⟨hself, hholds⟩ := hm.device id' d (hreleases.get?_of_get? hd)
    refine ⟨hself, (holds_append told _).mpr (.inr ⟨hholds, by simp, fun id'' heq => ?_⟩)⟩
    -- a device left on the connection that went down would be that of the slot
    obtain rfl : l = d.link := congrArg Prod.fst heq
    have hslot' : h.slot? d.link = some ⟨id', .active⟩ := hm.slot id' d.link hholds
    rw [hslot] at hslot'
    cases hslot'
    exact hbound ⟨d, hd, rfl⟩
  slot := fun id' l' hholds => by
    rcases (holds_append told _).mp hholds with heq | ⟨hholds, -, hdown⟩
    · simp at heq
    · rw [slot?_erase hslots, if_neg]
      · exact hm.slot id' l' hholds
      · rintro rfl
        exact hdown id rfl

theorem thins (hm : Mirrors told h) (hslots : h₁.slots = h.slots) (hthins : Thins h h₁)
    (hstored : h₁.registry.stored = h.registry.stored) : Mirrors told h₁ where
  device := fun id d' hd' => by
    obtain ⟨d, hd, hid, hlink⟩ := hthins.devices hstored id d' hd'
    obtain ⟨hself, hholds⟩ := hm.device id d hd
    exact ⟨hid.trans hself, hlink ▸ hholds⟩
  slot := fun id l hholds => by
    rw [slot?, hslots]
    exact hm.slot id l hholds

end Mirrors

/-- Devices stay in step with connections as long as only the bridge stores devices. -/
theorem Moves.mirrors {op : Op} {new : List Hearing} (hmoves : Moves h op (h.step now op) new)
    (hstores : StoresNone h (now, op)) (hm : Mirrors told h) : Mirrors (told ++ new) (h.step now op) := by
  cases hmoves with
  | aside hop hslots =>
    rw [List.append_nil]
    refine hm.thins hslots (thins_step h now op) (hstores.resolve_left ?_)
    rw [hop]
    exact Bool.false_ne_true
  | quiet hslots hregistry =>
    rw [List.append_nil]
    exact hm.thins hslots (.of_registry_eq hregistry) (by rw [hregistry])
  | up id l hslot hslots hbinds hbound => exact hm.up hslot hslots hbinds hbound
  | down id l hslot hslots hreleases hbound => exact hm.down hslot hslots hreleases hbound

/-- No id that is held loses its device as long as only the bridge takes devices away. -/
theorem Moves.serves {op : Op} {new : List Hearing} (hmoves : Moves h op (h.step now op) new)
    (hstores : StoresNone h (now, op)) (htakes : TakesNone h (now, op)) (hserves : Serves told h) :
    Serves (told ++ new) (h.step now op) := by
  intro id' l' hholds
  cases hmoves with
  | aside hop hslots =>
    have hreport : ¬op.isReport := by
      rw [hop]
      exact Bool.false_ne_true
    rw [List.append_nil] at hholds
    obtain ⟨d, hd, hlink⟩ := hserves id' l' hholds
    have hthere : (h.step now op).registry.contains id' :=
      htakes.resolve_left hreport id' (by rw [Registry.contains_eq_isSome, hd]; rfl)
    rw [Registry.contains_eq_isSome, Option.isSome_iff_exists] at hthere
    obtain ⟨d', hd'⟩ := hthere
    obtain ⟨d₀, hd₀, -, hlink'⟩ := (thins_step h now op).devices (hstores.resolve_left hreport) id' d' hd'
    obtain rfl := Option.some.inj (hd.symm.trans hd₀)
    exact ⟨d', hd', hlink'.trans hlink⟩
  | quiet hslots hregistry =>
    rw [List.append_nil] at hholds
    rw [Bound, hregistry]
    exact hserves id' l' hholds
  | up id l hslot hslots hbinds hbound =>
    rcases (holds_append told _).mp hholds with heq | ⟨hholds, hup, -⟩
    · simp only [Prod.mk.injEq] at heq
      obtain ⟨rfl, rfl, -⟩ := heq
      exact hbound
    · have hid : id' ≠ id := by
        rintro rfl
        exact hup l rfl
      rw [Bound, hbinds.others id' hid]
      exact hserves id' l' hholds
  | down id l hslot hslots hreleases hbound =>
    rcases (holds_append told _).mp hholds with heq | ⟨hholds, -, hdown⟩
    · simp at heq
    · obtain ⟨d, hd, hlink⟩ := hserves id' l' hholds
      refine ⟨d, hreleases.get?_of_link_ne hd ?_, hlink⟩
      rw [hlink]
      rintro rfl
      exact hdown id rfl

/-- What holds in the course of any run with a bridge. -/
structure Bridged (k : Nat) (h h' : Hub) : Prop where
  settled : h'.Settled
  bridge : IsBridge k h'
  grows : h'.heard k = h.heard k ++ h.hearings k h'

theorem hearings_eq {new : List Hearing} (heq : h₁.heard k = h.heard k ++ new) : h.hearings k h₁ = new := by
  rw [hearings, heq, List.drop_left]

theorem Bridged.start (hslots : h.slots = ∅) (hk : IsBridge k h) : Bridged k h h where
  settled := fun l slot hslot => by
    rw [slot?, hslots, Std.ExtTreeMap.getElem?_empty] at hslot
    cases hslot
  bridge := hk
  grows := by rw [hearings_eq (List.append_nil _).symm, List.append_nil]

theorem Bridged.step (hb : Bridged k h h₁) (now : Int) (op : Op) :
    ∃ new, Moves h₁ op (h₁.step now op) new ∧ h.hearings k (h₁.step now op) = h.hearings k h₁ ++ new ∧
      Bridged k h (h₁.step now op) := by
  obtain ⟨new, hmoves, hheard⟩ := moves_step hb.settled hb.bridge now op
  have hgrows : (h₁.step now op).heard k = h.heard k ++ (h.hearings k h₁ ++ new) := by
    rw [hheard, hb.grows, List.append_assoc]
  refine ⟨new, hmoves, hearings_eq hgrows, hmoves.settled hb.settled, hb.bridge.reaches (reaches_step h₁ op), ?_⟩
  rw [hearings_eq hgrows, hgrows]

theorem Bridged.run (hb : Bridged k h h₁) (calls : List Call) : Bridged k h (h₁.run calls) := by
  induction calls generalizing h₁ with
  | nil => exact hb
  | cons c cs ih =>
    obtain ⟨-, -, -, hb'⟩ := hb.step c.1 c.2
    exact ih hb'

theorem Bridged.mirrors_run (hb : Bridged k h h₁) {calls : List Call} (hstores : Throughout StoresNone h₁ calls)
    (hm : Mirrors (h.hearings k h₁) h₁) : Mirrors (h.hearings k (h₁.run calls)) (h₁.run calls) := by
  induction calls generalizing h₁ with
  | nil => exact hm
  | cons c cs ih =>
    obtain ⟨new, hmoves, heq, hb'⟩ := hb.step c.1 c.2
    refine ih hb' hstores.2 ?_
    rw [heq]
    exact hmoves.mirrors hstores.1 hm

theorem Bridged.serves_run (hb : Bridged k h h₁) {calls : List Call} (hstores : Throughout StoresNone h₁ calls)
    (htakes : Throughout TakesNone h₁ calls) (hserves : Serves (h.hearings k h₁) h₁) :
    Serves (h.hearings k (h₁.run calls)) (h₁.run calls) := by
  induction calls generalizing h₁ with
  | nil => exact hserves
  | cons c cs ih =>
    obtain ⟨new, hmoves, heq, hb'⟩ := hb.step c.1 c.2
    refine ih hb' hstores.2 htakes.2 ?_
    rw [heq]
    exact hmoves.serves hstores.1 htakes.1 hserves

/-- A bridge keeps the registry in step with the connections.  From a hub without slots, whatever is
reported of whatever connections and whatever they answer: if no one but the bridge stores devices, every
device is under its own id, on a connection that is up under it and was the last to come up under
it; if moreover no one else takes devices away, an id has a device on a connection exactly if that was
the last to come up under the id and has not gone down since.  In any run at all, a connection that
goes down takes no device of another connection along, and leaves none of its own under its id. -/
theorem bridge_mirrors (hslots : h.slots = ∅) (hk : IsBridge k h) (calls : List Call) :
    let after := h.run calls
    let told := h.hearings k after
    ((∀ id, h.registry.get? id = none) → Throughout StoresNone h calls →
      (∀ id d, after.registry.get? id = some d → d.id = id ∧ after.slot? d.link = some ⟨id, .active⟩ ∧
        ∃ since, CameUpLast id d.link told since) ∧
      (Throughout TakesNone h calls → ∀ id l, (∃ d, after.registry.get? id = some d ∧ d.link = l) ↔
        ∃ since, CameUpLast id l told since ∧ StaysUp l since)) ∧
    ∀ now l slot, after.slot? l = some slot →
      (∀ id d, after.registry.get? id = some d → d.link ≠ l →
        (after.onInactive now l).2.registry.get? id = some d) ∧
      ∀ d, (after.onInactive now l).2.registry.get? slot.id = some d → d.link ≠ l := by
  intro after told
  have hstart : Bridged k h h := .start hslots hk
  have hb : Bridged k h after := hstart.run calls
  refine ⟨fun hempty hstores => ?_, fun now l slot hslot => ?_⟩
  · have hnone : h.hearings k h = [] := hearings_eq (List.append_nil _).symm
    have hm : Mirrors told after := by
      refine hstart.mirrors_run hstores ⟨fun id d hd => ?_, fun id l hholds => ?_⟩
      · cases (hempty id).symm.trans hd
      · rw [hnone] at hholds
        exact absurd hholds not_holds_nil
    refine ⟨fun id d hd => ?_, fun htakes id l => ⟨?_, fun hholds => ?_⟩⟩
    · obtain ⟨hself, hholds⟩ := hm.device id d hd
      refine ⟨hself, hm.slot id d.link hholds, ?_⟩
      obtain ⟨since, hlast, -⟩ := hholds
      exact ⟨since, hlast⟩
    · rintro ⟨d, hd, rfl⟩
      exact (hm.device id d hd).2
    · refine hstart.serves_run hstores htakes (fun id l hholds => ?_) id l hholds
      rw [hnone] at hholds
      exact absurd hholds not_holds_nil
  · obtain ⟨hreleases, hbound⟩ := releases_onInactive hb.settled hb.bridge now hslot
    exact ⟨fun id d hd hlink => hreleases.get?_of_link_ne hd hlink, fun d hd hlink => hbound ⟨d, hd, hlink⟩⟩

/-- A connection that is reported under a second id, loses the id to another connection and goes down late:
its report changes nothing for the device that has moved on. -/
theorem bridge_mirrors_late_teardown :
    let bridged : Hub := { links := #[.counting {}, .counting {}], watchers := [{}, { role := .bridge }] }
    let calls : List Call := [(0, .reportActive "a" 0), (1, .reportActive "b" 0), (2, .reportActive "a" 1),
      (3, .touch "a"), (4, .reportInactive 0)]
    bridged.slots = ∅ ∧ bridged.IsBridge 1 ∧ Throughout StoresNone bridged calls ∧
      Throughout TakesNone bridged calls ∧
      ∃ d, (bridged.run calls).registry.get? "a" = some d ∧ d.link = 1 := by
  intro bridged calls
  have hslots : bridged.slots = ∅ := rfl
  have hbridge : bridged.IsBridge 1 := ⟨{ role := .bridge }, rfl, rfl, fun _ => rfl⟩
  have hstores : Throughout StoresNone bridged calls := by
    simp only [calls, Throughout, and_true]
    refine ⟨?_, ?_, ?_, ?_, ?_⟩ <;> exact storesNone_of_ne _ _ nofun nofun
  have htakes : Throughout TakesNone bridged calls := by
    simp only [calls, Throughout, and_true]
    refine ⟨.inl rfl, .inl rfl, .inl rfl, .inr fun id => ?_, .inl rfl⟩
    simp only [step, touch, Registry.contains_eq_isSome, Registry.get?_update]
    split <;> simp
  have hheard : bridged.hearings 1 (bridged.run calls) =
      [(0, "a", .active), (1, "a", .active), (0, "a", .inactive)] := by decide +kernel
  refine ⟨hslots, hbridge, hstores, htakes, ?_⟩
  refine (((bridge_mirrors hslots hbridge calls).1 Registry.get?_empty hstores).2 htakes "a" 1).mpr ?_
  exact ⟨[(0, "a", .inactive)], ⟨[(0, "a", .active)], hheard, by simp⟩, by simp [StaysUp]⟩

end Liveness.Hub
