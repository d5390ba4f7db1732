import Liveness.Proofs.Hub.Announce
import Liveness.Proofs.Hub.Run
import Liveness.Proofs.Maps

/-!
# The lifecycle of a connection

Whatever is reported about a connection, and whatever it answers when it is asked
whether it is open, its callbacks come in turn: up under some id, down under the
same id, up again.  The invariant is that a slot is kept exactly for a connection
whose last callback was that it came up (`Tracks`), so every slot between calls is
an active one; a report either leaves all this as it is or adds one callback to
one connection (`onActive_cases`, `onInactive_cases`).
-/

namespace Liveness.Hub

/-- What a watcher is told about a connection. -/
abbrev Callback := DeviceId × LinkState

/-- The id under which a callback leaves its connection up. -/
def Callback.upAs : Callback → Option DeviceId
  | (id, .active) => some id
  | (_, .inactive) => none

/-- The id under which callbacks leave a connection up. -/
def standing (was : Option DeviceId) (cs : List Callback) : Option DeviceId :=
  cs.foldl (fun _ c => c.upAs) was

/-- Callbacks that come in turn, from a connection that is up under an id or down: what goes down goes
down under the id under which it came up. -/
def Alternates : Option DeviceId → List Callback → Prop
  | _, [] => True
  | none, (id, .active) :: cs => Alternates (some id) cs
  | some was, (id, .inactive) :: cs => id = was ∧ Alternates none cs
  | _, _ => False

/-- What a watcher is told about a connection by one entry of the trace. -/
def shownTo? (k : Nat) (l : LinkId) (s : Stamped) : Option Callback :=
  match s.what with
  | .watched j id link state => if j = k ∧ link = l then some (id, state) else none
  | _ => none

/-- All that a watcher was ever told about a connection. -/
def shown (k : Nat) (l : LinkId) (h : Hub) : List Callback := h.seen (shownTo? k l)

/-- The callbacks of a watcher about a connection from one hub to a later one. -/
def callbacks (k : Nat) (l : LinkId) (h h' : Hub) : List Callback :=
  (h'.shown k l).drop (h.shown k l).length

variable {k : Nat} {now : Int} {l : LinkId} {id : DeviceId} {h h₁ h₂ h₃ : Hub}

/-! ## Callbacks in turn -/

theorem standing_append (was : Option DeviceId) (cs : List Callback) (c : Callback) :
    standing was (cs ++ [c]) = c.upAs := by
  simp [standing]

theorem standing_eq_some {cs : List Callback} :
    standing none cs = some id ↔ cs.getLast? = some (id, .active) := by
  rcases List.eq_nil_or_concat cs with rfl | ⟨cs, ⟨id', state⟩, rfl⟩
  · simp [standing]
  · rw [List.concat_eq_append, standing_append, List.getLast?_concat]
    cases state <;> simp [Callback.upAs]

/-- A connection that is down may come up. -/
theorem Alternates.up {was : Option DeviceId} {cs : List Callback} (h : Alternates was cs)
    (hstand : standing was cs = none) (id : DeviceId) : Alternates was (cs ++ [(id, .active)]) := by
  induction cs generalizing was with
  | nil =>
    obtain rfl : was = none := hstand
    exact trivial
  | cons c cs ih =>
    obtain ⟨id', _ | _⟩ := c <;> cases was
    · exact ih (show Alternates (some id') cs from h) hstand
    · exact h.elim
    · exact h.elim
    · exact ⟨h.1, ih (show Alternates none cs from h.2) hstand⟩

/-- A connection that is up may go down under its id. -/
theorem Alternates.down {was : Option DeviceId} {cs : List Callback} (h : Alternates was cs)
    (hstand : standing was cs = some id) : Alternates was (cs ++ [(id, .inactive)]) := by
  induction cs generalizing was with
  | nil =>
    obtain rfl : was = some id := hstand
    exact ⟨rfl, trivial⟩
  | cons c cs ih =>
    obtain ⟨id', _ | _⟩ := c <;> cases was
    · exact ih (show Alternates (some id') cs from h) hstand
    · exact h.elim
    · exact h.elim
    · exact ⟨h.1, ih (show Alternates none cs from h.2) hstand⟩

/-! ## What changes nothing about connections -/

/-- Neither the slots nor what a watcher was told of connections changes. -/
structure Calm (k : Nat) (h h' : Hub) : Prop where
  slots : h'.slots = h.slots
  watchers : h.watchers.length ≤ h'.watchers.length
  shown : ∀ l, h'.shown k l = h.shown k l

namespace Calm

theorem refl (h : Hub) : Calm k h h := ⟨rfl, Nat.le_refl _, fun _ => rfl⟩

theorem trans (h : Calm k h₁ h₂) (h' : Calm k h₂ h₃) : Calm k h₁ h₃ where
  slots := h'.slots.trans h.slots
  watchers := Nat.le_trans h.watchers h'.watchers
  shown := fun l => (h'.shown l).trans (h.shown l)

end Calm

/-- A reader of nothing but what watchers hear. -/
def ReadsWatchers {α : Type} (f : Stamped → Option α) : Prop :=
  ∀ now what, (∀ j id l state, what ≠ .watched j id l state) → f ⟨now, what⟩ = none

theorem readsWatchers_shownTo? : ReadsWatchers (shownTo? k l) := by
  intro now what hwhat
  cases what with
  | watched j id l state => exact absurd rfl (hwhat j id l state)
  | observed | reported | logged => rfl

namespace ReadsWatchers

variable {α : Type} {f : Stamped → Option α}

theorem seen_emit (hf : ReadsWatchers f) {what : Happening}
    (hwhat : ∀ j id l state, what ≠ .watched j id l state) : (h.emit now what).seen f = h.seen f := by
  rw [Hub.seen_emit, hf now what hwhat, Option.toList_none, List.append_nil]

theorem seen_announce (hf : ReadsWatchers f) (r : Registry) (n : Notice) :
    ({ h with registry := r }.announce now n).seen f = h.seen f := by
  have hskips : SkipsLog f := fun now line => hf now _ nofun
  have hnone : ∀ j present, f ⟨now, .observed j n present⟩ = none := fun j present => hf now _ nofun
  rw [hskips.seen_announce]
  simp [hnone, seen]

/-- Only what a watcher hears is read. -/
theorem seen_atom (hf : ReadsWatchers f) (h : Hub) {a : Atom}
    (hhear : ∀ j id l state, a ≠ .hear j id l state) : (h.atom now a).seen f = h.seen f := by
  cases a with
  | store key p => exact hf.seen_announce _ _
  | erase id reason =>
    cases hd : h.registry.get? id with
    | none => rw [atom_erase_of_none reason hd]
    | some d =>
      rw [atom_erase_of_some reason hd]
      exact hf.seen_announce _ _
  | recordSequence id n => cases hd : h.registry.get? id <;> simp [atom, recordSequence, hd, seen]
  | hear j id l state => exact absurd rfl (hhear j id l state)
  | log | report => exact hf.seen_emit (by simp)
  | eraseSilently | touch | openLink | setLink | setSlots | addObserver | addTally | takeTally | addWatcher | poison =>
    rfl

theorem seen_of_reaches (hf : ReadsWatchers f) {P : Atom → Prop}
    (hP : ∀ a, P a → ∀ j id l state, a ≠ .hear j id l state) (h : h₁.Reaches now P h₂) :
    h₂.seen f = h₁.seen f :=
  h.lift (R := fun h h' => h'.seen f = h.seen f) (fun _ => rfl) (fun hab hbc => hbc.trans hab)
    fun h a ha => hf.seen_atom h (hP a ha)

end ReadsWatchers

theorem calm_announce {r : Registry} {n : Notice} : Calm k h ({ h with registry := r }.announce now n) := by
  have hquiet : { h with registry := r }.Undisturbed ({ h with registry := r }.announce now n) :=
    undisturbed_announce _
  exact ⟨hquiet.slots, Nat.le_of_eq (congrArg List.length hquiet.watchers).symm,
    fun l => readsWatchers_shownTo?.seen_announce r n⟩

/-- Whatever neither moves slots nor reaches a watcher is calm. -/
theorem calm_atom (h : Hub) {a : Atom} (hslots : ∀ slots, a ≠ .setSlots slots)
    (hhear : ∀ j id link state, a ≠ .hear j id link state) : Calm k h (h.atom now a) := by
  have hshown : ∀ l, (h.atom now a).shown k l = h.shown k l :=
    fun l => readsWatchers_shownTo?.seen_atom h hhear
  cases a with
  | store key p => exact calm_announce
  | erase id reason =>
    cases hd : h.registry.get? id with
    | none =>
      rw [atom_erase_of_none reason hd]
      exact .refl h
    | some d =>
      rw [atom_erase_of_some reason hd]
      exact calm_announce
  | recordSequence id n =>
    cases hd : h.registry.get? id <;>
      exact ⟨by simp [atom, recordSequence, hd], by simp [atom, recordSequence, hd], hshown⟩
  | setSlots slots => exact absurd rfl (hslots slots)
  | hear j id link state => exact absurd rfl (hhear j id link state)
  | addWatcher w => exact ⟨rfl, by simp [atom, Hub.addWatcher], hshown⟩
  | eraseSilently | touch | openLink | setLink | addObserver | addTally | takeTally | log | report | poison =>
    exact ⟨rfl, Nat.le_refl _, hshown⟩

theorem calm_of_reaches {P : Atom → Prop} (hP : ∀ a, P a → (∀ slots, a ≠ .setSlots slots) ∧
    ∀ j id link state, a ≠ .hear j id link state) (h : h₁.Reaches now P h₂) : Calm k h₁ h₂ :=
  h.lift Calm.refl Calm.trans fun h a ha => calm_atom h (hP a ha).1 (hP a ha).2

/-- Only reports move slots or reach watchers. -/
theorem Op.Makes.aside {op : Op} {a : Atom} (ha : op.Makes a) (hactive : ∀ id l, op ≠ .reportActive id l)
    (hinactive : ∀ l, op ≠ .reportInactive l) :
    (∀ slots, a ≠ .setSlots slots) ∧ ∀ j id link state, a ≠ .hear j id link state := by
  cases op with
  | reportActive id l => exact absurd rfl (hactive id l)
  | reportInactive l => exact absurd rfl (hinactive l)
  | sweep | sweepOver => cases ha <;> simp
  | getOrCreate =>
    obtain ⟨p, -, rfl⟩ | ⟨l, rfl⟩ | rfl := ha <;> simp
  | removeIf =>
    obtain rfl | rfl := ha <;> simp
  | send | close | alter =>
    obtain ⟨l, rfl⟩ := ha
    simp
  | report =>
    obtain rfl | ⟨alarm, churn, rfl⟩ := ha <;> simp
  | _ =>
    obtain rfl := ha
    simp

theorem calm_step (h : Hub) {op : Op} (hactive : ∀ id l, op ≠ .reportActive id l)
    (hinactive : ∀ l, op ≠ .reportInactive l) : Calm k h (h.step now op) :=
  calm_of_reaches (fun _ ha => ha.aside hactive hinactive) (reaches_step h op)

/-! ## Reports -/

/-- Every slot that is kept is an active one. -/
def Settled (h : Hub) : Prop := ∀ l slot, h.slot? l = some slot → slot.phase = .active

/-- A watcher hears of one connection once. -/
structure Tells (k : Nat) (l : LinkId) (c : Callback) (h h' : Hub) : Prop where
  watchers : h.watchers.length ≤ h'.watchers.length
  shown : ∀ l', h'.shown k l' = h.shown k l' ++ if l' = l then [c] else []

theorem calm_tellWatcher (h : Hub) (state : LinkState) (j : Nat) :
    Calm k (h.hear now j id l state) (tellWatcher now id l state h j) := by
  refine calm_of_reaches ?_ (reaches_tellWatcher h id l state j)
  rintro a ((_ | _) | ⟨line, rfl⟩) <;> simp

theorem slots_fire (h : Hub) (id : DeviceId) (l : LinkId) (state : LinkState) :
    (h.fire now id l state).slots = h.slots := by
  unfold fire
  generalize List.range h.watchers.length = js
  induction js generalizing h with
  | nil => rfl
  | cons j js ih => rw [List.foldl_cons, ih, (calm_tellWatcher (k := 0) h state j).slots, slots_hear]

theorem seen_tellWatcher {α : Type} {f : Stamped → Option α} (hf : ReadsWatchers f) (h : Hub) {j : Nat}
    (hj : j < h.watchers.length) (state : LinkState) :
    (tellWatcher now id l state h j).seen f = h.seen f ++ (f ⟨now, .watched j id l state⟩).toList := by
  have hquiet : (tellWatcher now id l state h j).seen f = (h.hear now j id l state).seen f := by
    refine hf.seen_of_reaches ?_ (reaches_tellWatcher h id l state j)
    rintro a ((_ | _) | ⟨line, rfl⟩) <;> simp
  rw [hquiet]
  simp only [hear, List.getElem?_eq_getElem hj]
  exact seen_emit _ _

/-- All that watch hear of a change of a connection, each of them once. -/
theorem seen_fire {α : Type} {f : Stamped → Option α} (hf : ReadsWatchers f) (h : Hub) (id : DeviceId)
    (l : LinkId) (state : LinkState) :
    h.watchers.length ≤ (h.fire now id l state).watchers.length ∧
      (h.fire now id l state).seen f =
        h.seen f ++ (List.range h.watchers.length).filterMap fun j => f ⟨now, .watched j id l state⟩ := by
  suffices ∀ js : List Nat, (∀ j ∈ js, j < h.watchers.length) →
      h.watchers.length ≤ (js.foldl (tellWatcher now id l state) h).watchers.length ∧
      (js.foldl (tellWatcher now id l state) h).seen f =
        h.seen f ++ js.filterMap fun j => f ⟨now, .watched j id l state⟩ from
    this _ fun j => List.mem_range.mp
  intro js
  induction js generalizing h with
  | nil => exact fun _ => ⟨Nat.le_refl _, (List.append_nil _).symm⟩
  | cons j js ih =>
    intro hjs
    have hlen : h.watchers.length ≤ (tellWatcher now id l state h j).watchers.length :=
      Nat.le_trans (by simp) (calm_tellWatcher (k := 0) h state j).watchers
    obtain ⟨hlen', hseen⟩ := ih (tellWatcher now id l state h j)
      fun j' hj' => Nat.lt_of_lt_of_le (hjs j' (List.mem_cons_of_mem j hj')) hlen
    refine ⟨Nat.le_trans hlen hlen', ?_⟩
    rw [List.foldl_cons, hseen, seen_tellWatcher hf h (hjs j List.mem_cons_self), List.append_assoc]
    cases hj : f ⟨now, .watched j id l state⟩ <;> simp [hj]

theorem tells_fire (h : Hub) (hk : k < h.watchers.length) (id : DeviceId) (l : LinkId)
    (state : LinkState) : Tells k l (id, state) h (h.fire now id l state) := by
  refine ⟨(seen_fire (readsWatchers_shownTo? (k := k) (l := l)) h id l state).1, fun l' => ?_⟩
  have hother : ∀ j, j ≠ k → shownTo? k l' ⟨now, .watched j id l state⟩ = none :=
    fun j hj => if_neg fun hc => hj hc.1
  rw [shown, (seen_fire readsWatchers_shownTo? h id l state).2, filterMap_range_pick hk hother]
  by_cases hl : l' = l
  · simp [shownTo?, shown, hl]
  · simp [shownTo?, shown, hl, Ne.symm hl]

/-- A connection comes up if it has no slot and is open both times that it is asked. -/
theorem onActive_cases (h : Hub) (hs : h.Settled) (now : Int) (id : DeviceId) (l : LinkId) :
    (∃ links, h.onActive now id l = (false, { h with links })) ∨
    ∃ links, h.slot? l = none ∧ (h.isLinkOpen l).1 = true ∧ h.onActive now id l =
      (true, { h with links, slots := h.slots.insert l ⟨id, .active⟩ }.fire now id l .active) := by
  rcases hopen : h.isLinkOpen l with ⟨answer, h₁⟩
  obtain ⟨links, rfl⟩ : ∃ links, h₁ = { h with links } := ⟨_, (congrArg Prod.snd hopen).symm⟩
  cases answer with
  | false => exact .inl ⟨links, by simp [onActive, hopen]⟩
  | true =>
    cases hslot : h.slot? l with
    | some slot =>
      have hslot₁ : { h with links }.slot? l = some slot := hslot
      have hkept : { h with links }.setSlot l slot = { h with links } := by
        rw [setSlot, insert_of_getElem? hslot₁]
      exact .inl ⟨links, by simp [onActive, hopen, hslot₁, hs l slot hslot, hkept]⟩
    | none =>
      have hslot₁ : { h with links }.slot? l = none := hslot
      rcases hopen₂ : ({ h with links }.setSlot l ⟨id, .pending⟩).isLinkOpen l with ⟨answer, h₂⟩
      obtain ⟨links₂, rfl⟩ : ∃ links, h₂ = { h.setSlot l ⟨id, .pending⟩ with links } :=
        ⟨_, (congrArg Prod.snd hopen₂).symm⟩
      cases answer with
      | false =>
        have hclosed : h.onActive now id l =
            (false, { h.setSlot l ⟨id, .pending⟩ with links := links₂ }.dropSlot l) := by
          simp [onActive, hopen, hslot₁, hopen₂]
        refine .inl ⟨links₂, ?_⟩
        simp only [hclosed, dropSlot, setSlot, erase_insert (show h.slots[l]? = none from hslot)]
      | true =>
        have hup : h.onActive now id l = (true, ({ h.setSlot l ⟨id, .pending⟩ with links := links₂ }.setSlot l
            ⟨id, .active⟩).fire now id l .active) := by
          simp [onActive, hopen, hslot₁, hopen₂]
        refine .inr ⟨links₂, rfl, rfl, ?_⟩
        simp only [hup, setSlot, insert_insert]

/-- A connection with a slot goes down under the id of the slot. -/
theorem onInactive_cases (h : Hub) (hs : h.Settled) (now : Int) (l : LinkId) :
    h.slot? l = none ∧ h.onInactive now l = (false, h) ∨
    ∃ id, h.slot? l = some ⟨id, .active⟩ ∧ h.onInactive now l =
      (true, ({ h with slots := h.slots.insert l ⟨id, .closed⟩ }.fire now id l .inactive).dropSlot l) := by
  cases hslot : h.slot? l with
  | none => exact .inl ⟨rfl, by simp [onInactive, hslot]⟩
  | some slot =>
    obtain ⟨id, phase⟩ := slot
    obtain rfl : phase = .active := hs l _ hslot
    exact .inr ⟨id, rfl, by simp [onInactive, hslot, setSlot]⟩

/-! ## Runs -/

theorem callbacks_eq {cs : List Callback} (h : h₂.shown k l = h₁.shown k l ++ cs) :
    h₁.callbacks k l h₂ = cs := by
  rw [callbacks, h, List.drop_left]

theorem Calm.callbacks (h : Calm k h₁ h₂) (l : LinkId) : h₁.callbacks k l h₂ = [] :=
  callbacks_eq ((h.shown l).trans (List.append_nil _).symm)

/-- From one hub to a later one, the callbacks about each connection come in turn, and a slot is kept for
those connections that they leave up. -/
structure Tracks (k : Nat) (h h' : Hub) : Prop where
  watchers : k < h'.watchers.length
  shown : ∀ l, h'.shown k l = h.shown k l ++ h.callbacks k l h'
  alternates : ∀ l, Alternates none (h.callbacks k l h')
  slot : ∀ l, h'.slot? l = (standing none (h.callbacks k l h')).map (⟨·, .active⟩)

namespace Tracks

theorem start (hfresh : h.slots = ∅) (hk : k < h.watchers.length) : Tracks k h h where
  watchers := hk
  shown := fun l => by rw [(Calm.refl h).callbacks, List.append_nil]
  alternates := fun l => by rw [(Calm.refl h).callbacks]; trivial
  slot := fun l => by rw [(Calm.refl h).callbacks, slot?, hfresh]; exact Std.ExtTreeMap.getElem?_empty

theorem settled (ht : Tracks k h h₁) : h₁.Settled := by
  intro l slot hslot
  rw [ht.slot, Option.map_eq_some_iff] at hslot
  obtain ⟨id, -, rfl⟩ := hslot
  rfl

theorem slot_eq_some (ht : Tracks k h h₁) {slot : Slot} (hslot : h₁.slot? l = some slot) :
    standing none (h.callbacks k l h₁) = some slot.id := by
  rw [ht.slot, Option.map_eq_some_iff] at hslot
  obtain ⟨id, hid, rfl⟩ := hslot
  exact hid

theorem slot_eq_none (ht : Tracks k h h₁) (hslot : h₁.slot? l = none) :
    standing none (h.callbacks k l h₁) = none := by
  rwa [ht.slot, Option.map_eq_none_iff] at hslot

theorem callbacks_append (ht : Tracks k h h₁) {cs : List Callback}
    (hcs : h₂.shown k l = h₁.shown k l ++ cs) : h.callbacks k l h₂ = h.callbacks k l h₁ ++ cs :=
  callbacks_eq (by rw [hcs, ht.shown, List.append_assoc])

theorem calm (ht : Tracks k h h₁) (hc : Calm k h₁ h₂) : Tracks k h h₂ := by
  have hsame : ∀ l, h.callbacks k l h₂ = h.callbacks k l h₁ := fun l => by
    rw [callbacks, callbacks, hc.shown]
  refine ⟨Nat.lt_of_lt_of_le ht.watchers hc.watchers, fun l => ?_, fun l => ?_, fun l => ?_⟩
  · rw [hsame, hc.shown, ht.shown]
  · rw [hsame]
    exact ht.alternates l
  · rw [hsame, slot?, hc.slots]
    exact ht.slot l

/-- A callback in its turn, by which the slot of its connection comes or goes. -/
theorem tells (ht : Tracks k h h₁) {c : Callback} (htells : Tells k l c h₁ h₂)
    (hturn : Alternates none (h.callbacks k l h₁ ++ [c]))
    (hslot : ∀ l', h₂.slot? l' = if l' = l then c.upAs.map (⟨·, .active⟩) else h₁.slot? l') :
    Tracks k h h₂ := by
  have hother : ∀ l', l' ≠ l → h.callbacks k l' h₂ = h.callbacks k l' h₁ := fun l' hl => by
    rw [ht.callbacks_append (htells.shown l'), if_neg hl, List.append_nil]
  have hown : h.callbacks k l h₂ = h.callbacks k l h₁ ++ [c] := by
    rw [ht.callbacks_append (htells.shown l), if_pos rfl]
  refine ⟨Nat.lt_of_lt_of_le ht.watchers htells.watchers, fun l' => ?_, fun l' => ?_, fun l' => ?_⟩
  · rw [ht.callbacks_append (htells.shown l'), htells.shown, ht.shown, List.append_assoc]
  · by_cases hl : l' = l
    · rw [hl, hown]
      exact hturn
    · rw [hother l' hl]
      exact ht.alternates l'
  · by_cases hl : l' = l
    · rw [hslot, if_pos hl, hl, hown, standing_append]
    · rw [hslot, if_neg hl, hother l' hl]
      exact ht.slot l'

end Tracks

theorem slot?_insert (hslots : h₂.slots = h₁.slots.insert l ⟨id, .active⟩) (l' : LinkId) :
    h₂.slot? l' = if l' = l then some ⟨id, .active⟩ else h₁.slot? l' := by
  simp only [slot?, hslots, Std.ExtTreeMap.getElem?_insert, Std.compare_eq_iff_eq, eq_comm (a := l)]

theorem slot?_erase (hslots : h₂.slots = h₁.slots.erase l) (l' : LinkId) :
    h₂.slot? l' = if l' = l then none else h₁.slot? l' := by
  simp only [slot?, hslots, Std.ExtTreeMap.getElem?_erase, Std.compare_eq_iff_eq, eq_comm (a := l)]

theorem tracks_onActive (ht : Tracks k h h₁) (now : Int) (id : DeviceId) (l : LinkId) :
    Tracks k h (h₁.onActive now id l).2 ∧
      (∀ l', (h₁.onActive now id l).2.shown k l' = h₁.shown k l' ++
        if (h₁.onActive now id l).1 ∧ l' = l then [(id, .active)] else []) ∧
      ((h₁.onActive now id l).1 → (h₁.isLinkOpen l).1 = true ∧ h₁.slot? l = none) := by
  obtain ⟨links, heq⟩ | ⟨links, hslot, hopen, heq⟩ := onActive_cases h₁ ht.settled now id l
  · have hcalm : Calm k h₁ { h₁ with links } := ⟨rfl, Nat.le_refl _, fun _ => rfl⟩
    rw [heq]
    exact ⟨ht.calm hcalm, fun l' => by simp [hcalm.shown], fun hc => by simp at hc⟩
  · let h₂ : Hub := { h₁ with links, slots := h₁.slots.insert l ⟨id, .active⟩ }
    have hfire : Tells k l (id, .active) h₂ (h₂.fire now id l .active) := tells_fire h₂ ht.watchers id l .active
    have htells : Tells k l (id, .active) h₁ (h₂.fire now id l .active) := ⟨hfire.watchers, hfire.shown⟩
    have hslots : (h₂.fire now id l .active).slots = h₁.slots.insert l ⟨id, .active⟩ := slots_fire h₂ id l .active
    have hturn : Alternates none (h.callbacks k l h₁ ++ [(id, .active)]) :=
      (ht.alternates l).up (ht.slot_eq_none hslot) id
    rw [heq]
    refine ⟨ht.tells htells hturn (slot?_insert hslots), fun l' => ?_, fun _ => ⟨hopen, hslot⟩⟩
    rw [htells.shown]
    simp

theorem tracks_onInactive (ht : Tracks k h h₁) (now : Int) (l : LinkId) :
    Tracks k h (h₁.onInactive now l).2 ∧
      ∃ id, (∀ l', (h₁.onInactive now l).2.shown k l' = h₁.shown k l' ++
        if (h₁.onInactive now l).1 ∧ l' = l then [(id, .inactive)] else []) ∧
      ((h₁.onInactive now l).1 → standing none (h.callbacks k l h₁) = some id) := by
  obtain ⟨-, heq⟩ | ⟨id, hslot, heq⟩ := onInactive_cases h₁ ht.settled now l
  · rw [heq]
    exact ⟨ht, "", fun l' => by simp, fun hc => by simp at hc⟩
  · let h₂ : Hub := { h₁ with slots := h₁.slots.insert l ⟨id, .closed⟩ }
    have hfire : Tells k l (id, .inactive) h₂ (h₂.fire now id l .inactive) :=
      tells_fire h₂ ht.watchers id l .inactive
    have htells : Tells k l (id, .inactive) h₁ ((h₂.fire now id l .inactive).dropSlot l) :=
      ⟨hfire.watchers, hfire.shown⟩
    have hslots : ((h₂.fire now id l .inactive).dropSlot l).slots = h₁.slots.erase l := by
      rw [dropSlot, slots_fire, erase_insert_eq_erase]
    have hstand : standing none (h.callbacks k l h₁) = some id := ht.slot_eq_some hslot
    rw [heq]
    refine ⟨ht.tells htells ((ht.alternates l).down hstand) (slot?_erase hslots), id, fun l' => ?_,
      fun _ => hstand⟩
    rw [htells.shown]
    simp

/-- What a call may do to a connection: nothing, or it comes up or goes down, each by a report of its
own. -/
inductive Turn (h : Hub) (l : LinkId) (was : Option DeviceId) : Op → List Callback → Prop
  | nothing (op : Op) : Turn h l was op []
  | up (id : DeviceId) : (h.isLinkOpen l).1 = true → was = none →
      Turn h l was (.reportActive id l) [(id, .active)]
  | down (id : DeviceId) : was = some id → Turn h l was (.reportInactive l) [(id, .inactive)]

/-- Every call keeps track of the connections, and moves a connection at most in its turn. -/
theorem tracks_step (ht : Tracks k h h₁) (now : Int) (op : Op) :
    Tracks k h (h₁.step now op) ∧ ∀ l, ∃ cs, h₁.Turn l (standing none (h.callbacks k l h₁)) op cs ∧
      h.callbacks k l (h₁.step now op) = h.callbacks k l h₁ ++ cs := by
  by_cases hreport : (∃ id l, op = .reportActive id l) ∨ ∃ l, op = .reportInactive l
  · obtain ⟨id, l, rfl⟩ | ⟨l, rfl⟩ := hreport
    · obtain ⟨ht', hcs, hup⟩ := tracks_onActive ht now id l
      refine ⟨ht', fun l' => ⟨_, ?_, ht.callbacks_append (hcs l')⟩⟩
      split
      · rename_i hc
        obtain ⟨hfired, rfl⟩ := hc
        exact .up id (hup hfired).1 (ht.slot_eq_none (hup hfired).2)
      · exact .nothing _
    · obtain ⟨ht', id, hcs, hdown⟩ := tracks_onInactive ht now l
      refine ⟨ht', fun l' => ⟨_, ?_, ht.callbacks_append (hcs l')⟩⟩
      split
      · rename_i hc
        obtain ⟨hfired, rfl⟩ := hc
        exact .down id (hdown hfired)
      · exact .nothing _
  · rw [not_or] at hreport
    have hcalm : Calm k h₁ (h₁.step now op) :=
      calm_step h₁ (fun id l hop => hreport.1 ⟨id, l, hop⟩) fun l hop => hreport.2 ⟨l, hop⟩
    refine ⟨ht.calm hcalm, fun l => ⟨[], .nothing op, ht.callbacks_append ?_⟩⟩
    rw [hcalm.shown, List.append_nil]

theorem tracks_run (ht : Tracks k h h₁) (calls : List Call) : Tracks k h (h₁.run calls) := by
  induction calls generalizing h₁ with
  | nil => exact ht
  | cons c cs ih => exact ih (tracks_step ht c.1 c.2).1

theorem isActive_iff (ht : Tracks k h h₁) (l : LinkId) :
    h₁.isActive l ↔ ∃ id, (h.callbacks k l h₁).getLast? = some (id, .active) := by
  rw [isActive, ht.slot, Option.any_map]
  cases hstand : standing none (h.callbacks k l h₁) with
  | none => simp [← standing_eq_some, hstand]
  | some id => simp [← standing_eq_some, hstand]

/-- The count of the connections that are up is the number of those whose last callback says so. -/
theorem activeConnections_eq (ht : Tracks k h h₁) :
    ∃ up : List LinkId, up.Nodup ∧
      (∀ l, l ∈ up ↔ ∃ id, (h.callbacks k l h₁).getLast? = some (id, .active)) ∧
      h₁.activeConnections = up.length := by
  obtain ⟨up, hnodup, hmem, hlen⟩ := length_filter_values h₁.slots fun slot => slot.phase == .active
  refine ⟨up, hnodup, fun l => ?_, hlen⟩
  rw [hmem, ← isActive_iff ht, isActive, slot?, Option.any_eq_true]

/-! ## A connection that closes for good -/

/-- The callbacks of a connection that comes up at most once and then goes down at most once. -/
def Brief (cs : List Callback) : Prop :=
  cs = [] ∨ ∃ id, cs = [(id, .active)] ∨ cs = [(id, .active), (id, .inactive)]

/-- As long as it is not reported down, a connection comes up at most once. -/
theorem callbacks_before_inactive (ht : Tracks k h h₁) (calls : List Call)
    (hcalls : ∀ c ∈ calls, c.2 ≠ .reportInactive l)
    (hcs : h.callbacks k l h₁ = [] ∨ ∃ id, h.callbacks k l h₁ = [(id, .active)]) :
    h.callbacks k l (h₁.run calls) = [] ∨ ∃ id, h.callbacks k l (h₁.run calls) = [(id, .active)] := by
  induction calls generalizing h₁ with
  | nil => exact hcs
  | cons c calls ih =>
    obtain ⟨ht', hturn⟩ := tracks_step ht c.1 c.2
    refine ih ht' (fun c' hc' => hcalls c' (List.mem_cons_of_mem c hc')) ?_
    obtain ⟨cs, hcs', heq⟩ := hturn l
    rw [heq]
    generalize hop : c.2 = op at hcs'
    cases hcs' with
    | nothing => rwa [List.append_nil]
    | up id _ hdown =>
      rcases hcs with hcs | ⟨id', hcs⟩
      · exact .inr ⟨id, by rw [hcs]; rfl⟩
      · rw [hcs] at hdown
        cases hdown
    | down id _ => exact absurd hop (hcalls c List.mem_cons_self)

/-- Once it is never found open again, a connection does not come up again. -/
theorem brief_after_close (ht : Tracks k h h₁) (calls : List Call)
    (hcalls : ∀ mid t id rest, calls = mid ++ (t, .reportActive id l) :: rest →
      ((h₁.run mid).isLinkOpen l).1 = false)
    (hcs : Brief (h.callbacks k l h₁)) : Brief (h.callbacks k l (h₁.run calls)) := by
  induction calls generalizing h₁ with
  | nil => exact hcs
  | cons c calls ih =>
    obtain ⟨ht', hturn⟩ := tracks_step ht c.1 c.2
    refine ih ht' (fun mid t id rest heq => hcalls (c :: mid) t id rest (by rw [heq]; rfl)) ?_
    obtain ⟨cs, hcs', heq⟩ := hturn l
    rw [heq]
    generalize hop : c.2 = op at hcs'
    cases hcs' with
    | nothing => rwa [List.append_nil]
    | up id hopen _ =>
      have hclosed : (h₁.isLinkOpen l).1 = false := hcalls [] c.1 id calls (by rw [← hop]; rfl)
      rw [hclosed] at hopen
      cases hopen
    | down id hup =>
      rcases hcs with hcs | ⟨id', hcs | hcs⟩
      · rw [hcs] at hup
        cases hup
      · rw [hcs] at hup ⊢
        obtain rfl : id' = id := Option.some.inj hup
        exact .inr ⟨id', .inr rfl⟩
      · rw [hcs] at hup
        cases hup

/-- The lifecycle of every connection, for a watcher that is there before anything is reported.  Whatever
calls are made, whatever connections answer and whatever other listeners do: the callbacks about a
connection come in turn, each down under the id of its up; the last of them says whether the connection
is active, and how many are; only active connections keep a slot; a report answers whether it fired its
one callback, and fires no other; and a connection that is found closed from before its first
report down has at most one callback of each kind, the up one first. -/
theorem lifecycle (h : Hub) (hfresh : h.slots = ∅) (hk : k < h.watchers.length) (calls : List Call)
    (l : LinkId) :
    let after := h.run calls
    Alternates none (h.callbacks k l after) ∧
    (after.isActive l ↔ ∃ id, (h.callbacks k l after).getLast? = some (id, .active)) ∧
    (∃ up : List LinkId, up.Nodup ∧
      (∀ l', l' ∈ up ↔ ∃ id, (h.callbacks k l' after).getLast? = some (id, .active)) ∧
      after.activeConnections = up.length) ∧
    (∀ slot, after.slot? l = some slot → after.isActive l) ∧
    (∀ t id l', after.callbacks k l' (after.onActive t id l).2 =
      if (after.onActive t id l).1 ∧ l' = l then [(id, .active)] else []) ∧
    (∀ t, ∃ id, ∀ l', after.callbacks k l' (after.onInactive t l).2 =
      if (after.onInactive t l).1 ∧ l' = l then [(id, .inactive)] else []) ∧
    (∀ pre post, calls = pre ++ post → (∀ c ∈ pre, c.2 ≠ .reportInactive l) →
      (∀ mid t id rest, post = mid ++ (t, .reportActive id l) :: rest →
        ((h.run (pre ++ mid)).isLinkOpen l).1 = false) →
      Brief (h.callbacks k l after)) := by
  intro after
  have hstart : Tracks k h h := .start hfresh hk
  have ht : Tracks k h after := tracks_run hstart calls
  refine ⟨ht.alternates l, isActive_iff ht l, activeConnections_eq ht, fun slot hslot => ?_,
    fun t id l' => ?_, fun t => ?_, ?_⟩
  · rw [isActive, hslot, Option.any_some, ht.settled l slot hslot]
    rfl
  · exact callbacks_eq ((tracks_onActive ht t id l).2.1 l')
  · obtain ⟨-, id, hcs, -⟩ := tracks_onInactive ht t l
    exact ⟨id, fun l' => callbacks_eq (hcs l')⟩
  · rintro pre post rfl hpre hpost
    have hcs : h.callbacks k l (h.run pre) = [] ∨ ∃ id, h.callbacks k l (h.run pre) = [(id, .active)] :=
      callbacks_before_inactive hstart pre hpre (.inl ((Calm.refl h).callbacks l))
    have hbrief : Brief (h.callbacks k l (h.run pre)) :=
      hcs.imp_right fun ⟨id, hid⟩ => ⟨id, .inl hid⟩
    simp only [after, run_append]
    refine brief_after_close (tracks_run hstart pre) post (fun mid t id rest heq => ?_) hbrief
    rw [← run_append]
    exact hpost mid t id rest heq

/-- A connection that is reported up under two ids, goes down and is reported up once more: its watcher
is told of the first id both times, and the late report is of no account. -/
theorem lifecycle_of_late_reports :
    let watched : Hub := { links := #[.counting {}], watchers := [{}] }
    let calls : List Call := [(0, .reportActive "a" 0), (1, .reportActive "b" 0), (2, .close 0),
      (3, .reportInactive 0), (4, .reportActive "b" 0)]
    Alternates none (watched.callbacks 0 0 (watched.run calls)) ∧
      watched.callbacks 0 0 (watched.run calls) = [("a", .active), ("a", .inactive)] := by
  exact ⟨(lifecycle _ rfl (by decide) _ 0).1, by decide +kernel⟩

end Liveness.Hub
