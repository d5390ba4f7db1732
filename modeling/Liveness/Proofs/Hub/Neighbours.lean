import Liveness.Proofs.Hub.Bridge
import Liveness.Proofs.Hub.Expiry

/-!
# What happens to one peer and not to its neighbours

A peer shows in the device under its id, in its connection, and in what those who listen
are told of either.  An atom that is about another id leaves the one alone
(`SameDevice`), and one about another connection leaves the other (`SameLink`).  The rest
of this file says what does happen to the peer that a report or a sweep is about.
-/

namespace Liveness.Hub

/-! ## What is told of one id -/

/-- What an observer is told of an id by one entry of the trace. -/
def eventTo? (i : Nat) (id : DeviceId) (s : Stamped) : Option DeviceEvent :=
  match s.what with
  | .observed j n _ => if j = i ∧ n.id = id then some n.event else none
  | _ => none

/-- All that an observer was ever told of an id. -/
def events (i : Nat) (id : DeviceId) (h : Hub) : List DeviceEvent := h.seen (eventTo? i id)

variable {now asOf : Int} {limit : Span} {id : DeviceId} {l : LinkId} {k : Nat} {n : Notice} {h h₁ h₂ h₃ : Hub}

theorem skipsLog_eventTo? {i : Nat} : SkipsLog (eventTo? i id) := fun _ _ => rfl

/-- A reader of nothing but what observers are told of an id. -/
def ReadsNotices {α : Type} (id : DeviceId) (f : Stamped → Option α) : Prop :=
  ∀ s, (∀ j n present, s.what = .observed j n present → n.id ≠ id) → f s = none

theorem readsNotices_eventTo? {i : Nat} : ReadsNotices id (eventTo? i id) := by
  rintro ⟨t, what⟩ hs
  cases what with
  | observed j n present => exact if_neg fun hj => hs j n present rfl hj.2
  | watched | reported | logged => rfl

namespace ReadsNotices

variable {α : Type} {f : Stamped → Option α}

theorem skipsLog (hf : ReadsNotices id f) : SkipsLog f := fun _ _ => hf _ nofun

theorem seen_emit (hf : ReadsNotices id f) {what : Happening} (hwhat : ∀ j n present, what ≠ .observed j n present) :
    (h.emit now what).seen f = h.seen f := by
  rw [Hub.seen_emit, hf _ fun j n present heq => absurd heq (hwhat j n present)]
  exact List.append_nil _

theorem seen_announce_of_ne (hf : ReadsNotices id f) (h : Hub) (hn : n.id ≠ id) :
    (h.announce now n).seen f = h.seen f := by
  have hnone : ∀ j present, f ⟨now, .observed j n present⟩ = none := by
    intro j present
    apply hf
    intro j' n' present' heq
    cases heq
    exact hn
  rw [hf.skipsLog.seen_announce]
  simp [hnone]

theorem seen_hear (hf : ReadsNotices id f) (h : Hub) (j : Nat) (id' : DeviceId) (l : LinkId) (state : LinkState) :
    (h.hear now j id' l state).seen f = h.seen f := by
  unfold hear
  split
  · rfl
  · exact hf.seen_emit nofun

end ReadsNotices

theorem events_announce (h : Hub) {i : Nat} (hi : i < h.observers.length) :
    (h.announce now n).events i n.id = h.events i n.id ++ [n.event] := by
  have hself : ∀ j present, eventTo? i n.id ⟨now, .observed j n present⟩ = if j = i then some n.event else none := by
    intro j present
    simp [eventTo?]
  rw [events, skipsLog_eventTo?.seen_announce, filterMap_range_pick hi fun j hj => by rw [hself, if_neg hj]]
  rw [hself, if_pos rfl]
  rfl

/-! ## What leaves a device alone -/

/-- Neither the device under an id changes nor what observers were told of it. -/
structure SameDevice (id : DeviceId) (h h' : Hub) : Prop where
  get? : h'.registry.get? id = h.registry.get? id
  seen : ∀ {α : Type} {f : Stamped → Option α}, ReadsNotices id f → h'.seen f = h.seen f
  observers : h.observers.length ≤ h'.observers.length

namespace SameDevice

theorem events (h : SameDevice id h₁ h₂) (i : Nat) : h₂.events i id = h₁.events i id := h.seen readsNotices_eventTo?

theorem refl (h : Hub) : SameDevice id h h := ⟨rfl, fun _ => rfl, Nat.le_refl _⟩

theorem trans (h : SameDevice id h₁ h₂) (h' : SameDevice id h₂ h₃) : SameDevice id h₁ h₃ where
  get? := h'.get?.trans h.get?
  seen := fun hf => (h'.seen hf).trans (h.seen hf)
  observers := Nat.le_trans h.observers h'.observers

end SameDevice

/-- The id that an atom is about. -/
def Atom.id? : Atom → Option DeviceId
  | .store id _ | .erase id _ | .eraseSilently id | .touch id | .recordSequence id _ => some id
  | _ => none

theorem sameDevice_announce {r : Registry} (hr : r.get? id = h.registry.get? id) (hn : n.id ≠ id) :
    SameDevice id h ({ h with registry := r }.announce now n) := by
  have hquiet : { h with registry := r }.Undisturbed ({ h with registry := r }.announce now n) :=
    undisturbed_announce _
  refine ⟨?_, fun hf => hf.seen_announce_of_ne _ hn, Nat.le_of_eq hquiet.observers.symm⟩
  rw [hquiet.registry]
  exact hr

theorem sameDevice_atom (h : Hub) {a : Atom} (ha : a.id? ≠ some id) : SameDevice id h (h.atom now a) := by
  have hne : ∀ {key}, a.id? = some key → key ≠ id := by
    rintro key hkey rfl
    exact ha hkey
  cases a with
  | store key p =>
    refine sameDevice_announce (r := (h.registry.store key p now).2.2) ?_ (hne rfl)
    rw [Registry.get?_store, if_neg (hne rfl)]
  | erase key reason =>
    cases hd : h.registry.get? key with
    | none =>
      rw [atom_erase_of_none reason hd]
      exact .refl h
    | some d =>
      rw [atom_erase_of_some reason hd]
      exact sameDevice_announce (by rw [Registry.get?_erase, if_neg (hne rfl)]) (hne rfl)
  | eraseSilently key =>
    exact ⟨by simp [atom, Registry.get?_erase, hne rfl], fun _ => rfl, Nat.le_refl _⟩
  | touch key => exact ⟨by simp [atom, touch, Registry.get?_update, hne rfl], fun _ => rfl, Nat.le_refl _⟩
  | recordSequence key m =>
    cases hd : h.registry.get? key with
    | none => simpa [atom, recordSequence, hd] using SameDevice.refl h
    | some d =>
      refine ⟨?_, fun _ => ?_, ?_⟩ <;> simp [atom, recordSequence, hd, Registry.get?_update, hne rfl, Hub.seen]
  | hear j id' l state =>
    exact ⟨congrArg (Registry.get? · id) (registry_hear ..), fun hf => hf.seen_hear h j id' l state,
      Nat.le_of_eq (congrArg List.length (observers_hear ..)).symm⟩
  | addObserver o => exact ⟨rfl, fun _ => rfl, by simp [atom, Hub.addObserver]⟩
  | addTally => exact ⟨rfl, fun _ => rfl, by simp [atom, Hub.addTally]⟩
  | log line => exact ⟨rfl, fun hf => hf.skipsLog.seen_log h line, Nat.le_refl _⟩
  | report alarm churn =>
    refine ⟨rfl, fun hf => hf.seen_emit ?_, Nat.le_refl _⟩
    rintro j n present ⟨⟩
  | openLink | setLink | setSlots | takeTally | addWatcher | poison => exact ⟨rfl, fun _ => rfl, Nat.le_refl _⟩

theorem sameDevice_of_reaches {P : Atom → Prop} (hP : ∀ a, P a → a.id? ≠ some id) (h : h₁.Reaches now P h₂) :
    SameDevice id h₁ h₂ :=
  h.lift .refl .trans fun h a ha => sameDevice_atom h (hP a ha)

/-! ## What leaves a connection alone -/

/-- Neither a connection changes nor what is kept of it, and no watcher is told of it. -/
structure SameLink (l : LinkId) (h h' : Hub) : Prop where
  link : h'.links[l]? = h.links[l]?
  slot : h'.slot? l = h.slot? l
  shown : ∀ k, h'.shown k l = h.shown k l
  watchers : h.watchers.length ≤ h'.watchers.length

namespace SameLink

theorem refl (h : Hub) : SameLink l h h := ⟨rfl, rfl, fun _ => rfl, Nat.le_refl _⟩

theorem trans (h : SameLink l h₁ h₂) (h' : SameLink l h₂ h₃) : SameLink l h₁ h₃ where
  link := h'.link.trans h.link
  slot := h'.slot.trans h.slot
  shown := fun k => (h'.shown k).trans (h.shown k)
  watchers := Nat.le_trans h.watchers h'.watchers

end SameLink

/-- An atom that neither changes a connection nor tells of it. -/
def Atom.Misses (l : LinkId) : Atom → Prop
  | .setLink l' _ | .hear _ _ l' _ => l' ≠ l
  | .openLink _ | .setSlots _ => False
  | _ => True

theorem sameLink_of_links (hlinks : h₁.links[l]? = h.links[l]?) (hcalm : ∀ k, Calm k h h₁) : SameLink l h h₁ where
  link := hlinks
  slot := congrArg (·[l]?) (hcalm 0).slots
  shown := fun k => (hcalm k).shown l
  watchers := (hcalm 0).watchers

theorem sameLink_hear (h : Hub) {j : Nat} {l' : LinkId} (hl : l' ≠ l) (id : DeviceId) (state : LinkState) :
    SameLink l h (h.hear now j id l' state) := by
  unfold hear
  split
  · exact .refl h
  · refine ⟨rfl, rfl, fun k => ?_, by simp [emit]⟩
    have hnone : shownTo? k l ⟨now, .watched j id l' state⟩ = none := if_neg fun hk => hl hk.2
    rw [shown, seen_emit, hnone]
    exact List.append_nil _

theorem sameLink_atom (h : Hub) {a : Atom} (ha : a.Misses l) : SameLink l h (h.atom now a) := by
  by_cases hhear : ∃ j id l' state, a = .hear j id l' state
  · obtain ⟨j, id, l', state, rfl⟩ := hhear
    exact sameLink_hear h ha id state
  · have hcalm : ∀ k, Calm k h (h.atom now a) := by
      refine fun k => calm_atom h ?_ fun j id l' state heq => hhear ⟨j, id, l', state, heq⟩
      rintro slots rfl
      exact ha
    refine sameLink_of_links ?_ hcalm
    cases a with
    | store key p => exact congrArg (·[l]?) (undisturbed_announce _).links
    | erase key reason =>
      cases hd : h.registry.get? key with
      | none => rw [atom_erase_of_none reason hd]
      | some d => rw [atom_erase_of_some reason hd, (undisturbed_announce _).links]
    | recordSequence key m => cases hd : h.registry.get? key <;> simp [atom, recordSequence, hd]
    | setLink l' x =>
      change (h.links.setIfInBounds l' x)[l]? = _
      rw [Array.getElem?_setIfInBounds_ne ha]
    | hear j id l' state => exact absurd ⟨j, id, l', state, rfl⟩ hhear
    | openLink | setSlots => exact ha.elim
    | eraseSilently | touch | addObserver | addTally | takeTally | addWatcher | log | report | poison => rfl

theorem sameLink_of_reaches {P : Atom → Prop} (hP : ∀ a, P a → a.Misses l) (h : h₁.Reaches now P h₂) :
    SameLink l h₁ h₂ :=
  h.lift .refl .trans fun h a ha => sameLink_atom h (hP a ha)

/-! ## Sweeps -/

/-- A device has been evicted: observers were told of it and its connection was asked to close. -/
structure Evicted (id : DeviceId) (l : LinkId) (h h' : Hub) : Prop where
  was : ∃ d, h.registry.get? id = some d
  get? : h'.registry.get? id = none
  events : ∀ i < h.observers.length, h'.events i id = h.events i id ++ [.removed id .expired]
  observers : h.observers.length ≤ h'.observers.length
  link : h'.links[l]? = (h.links[l]?).map fun x => x.close.2
  slot : h'.slot? l = h.slot? l
  shown : ∀ k, h'.shown k l = h.shown k l
  watchers : h.watchers.length ≤ h'.watchers.length

namespace Evicted

theorem of_same (hd : SameDevice id h₁ h₂) (hl : SameLink l h₁ h₂) (h' : Evicted id l h₂ h₃) :
    Evicted id l h₁ h₃ where
  was := hd.get? ▸ h'.was
  get? := h'.get?
  events := fun i hi => by rw [h'.events i (Nat.lt_of_lt_of_le hi hd.observers), hd.events]
  observers := Nat.le_trans hd.observers h'.observers
  link := by rw [h'.link, hl.link]
  slot := h'.slot.trans hl.slot
  shown := fun k => (h'.shown k).trans (hl.shown k)
  watchers := Nat.le_trans hl.watchers h'.watchers

theorem same (h : Evicted id l h₁ h₂) (hd : SameDevice id h₂ h₃) (hl : SameLink l h₂ h₃) :
    Evicted id l h₁ h₃ where
  was := h.was
  get? := hd.get?.trans h.get?
  events := fun i hi => (hd.events i).trans (h.events i hi)
  observers := Nat.le_trans h.observers hd.observers
  link := hl.link.trans h.link
  slot := hl.slot.trans h.slot
  shown := fun k => (hl.shown k).trans (h.shown k)
  watchers := Nat.le_trans h.watchers hl.watchers

end Evicted

/-- A dismissed device has its connection asked to close, and the log says so. -/
theorem reaches_dismiss_own (h : Hub) (now asOf : Int) (d : Device) :
    h.Reaches now (fun a => (∃ line, a = .log line) ∨ ∃ x, a = .setLink d.link x) (h.dismiss now asOf d) ∧
      (h.dismiss now asOf d).links = (h.closeLink d.link).2.links := by
  have hlog : h.Reaches now (fun a => (∃ line, a = .log line) ∨ ∃ x, a = .setLink d.link x)
      (h.log now (.deviceExpired d.id (d.clock.idleFor asOf))) := .single (a := .log _) (.inl ⟨_, rfl⟩)
  unfold dismiss
  split
  · rename_i hc
    obtain rfl := (Prod.ext_iff.mp hc).2
    exact ⟨hlog.trans (reaches_callLink _ _ _ fun x => .inr ⟨x, rfl⟩), rfl⟩
  · rename_i hc
    obtain rfl := (Prod.ext_iff.mp hc).2
    refine ⟨(hlog.trans (reaches_callLink _ _ _ fun x => .inr ⟨x, rfl⟩)).snoc (.log _) (.inl ⟨_, rfl⟩), rfl⟩

/-- What is asked of a connection changes that one. -/
theorem getElem?_callLink {α : Type} (h : Hub) (l : LinkId) (f : Link → α × Link) :
    (h.callLink l f).2.links[l]? = (h.links[l]?).map fun x => (f x).2 := by
  simp only [callLink, Array.getElem?_setIfInBounds_self]
  cases hl : h.links[l]? with
  | none => rw [if_neg (Nat.not_lt.mpr (Array.getElem?_eq_none_iff.mp hl)), Option.map_none]
  | some x => rw [if_pos (Array.getElem?_eq_some_iff.mp hl).1]; rfl

/-- The device of a connection of its own is evicted. -/
theorem evicted_device {d : Device} (hd : h.registry.get? d.id = some d) :
    Evicted d.id d.link h ((h.atom now (.erase d.id .expired)).dismiss now asOf d) := by
  obtain ⟨hreaches, hlinks⟩ := reaches_dismiss_own (h.atom now (.erase d.id .expired)) now asOf d
  have herase : SameLink d.link h (h.atom now (.erase d.id .expired)) := sameLink_atom h trivial
  have hdevice : SameDevice d.id (h.atom now (.erase d.id .expired))
      ((h.atom now (.erase d.id .expired)).dismiss now asOf d) := by
    refine sameDevice_of_reaches ?_ hreaches
    rintro a (⟨line, rfl⟩ | ⟨x, rfl⟩) <;> exact nofun
  have hcalm : ∀ k, Calm k (h.atom now (.erase d.id .expired))
      ((h.atom now (.erase d.id .expired)).dismiss now asOf d) := by
    refine fun k => calm_of_reaches ?_ hreaches
    rintro a (⟨line, rfl⟩ | ⟨x, rfl⟩) <;> exact ⟨nofun, nofun⟩
  have hquiet : { h with registry := h.registry.erase d.id }.Undisturbed
      ({ h with registry := h.registry.erase d.id }.announce now (.removed d.id d .expired)) :=
    undisturbed_announce _
  refine ⟨⟨d, hd⟩, ?_, fun i hi => ?_, ?_, ?_, ?_, fun k => ?_, ?_⟩
  · rw [hdevice.get?, atom_erase_of_some _ hd, hquiet.registry, Registry.get?_erase, if_pos rfl]
  · rw [hdevice.events, atom_erase_of_some _ hd]
    exact events_announce { h with registry := h.registry.erase d.id } (n := .removed d.id d .expired) hi
  · refine Nat.le_trans ?_ hdevice.observers
    rw [atom_erase_of_some _ hd]
    exact Nat.le_of_eq hquiet.observers.symm
  · rw [hlinks, closeLink, getElem?_callLink, herase.link]
  · exact (congrArg (·[d.link]?) (hcalm 0).slots).trans herase.slot
  · exact ((hcalm k).shown d.link).trans (herase.shown k)
  · exact Nat.le_trans herase.watchers (hcalm 0).watchers

/-- The next device of a sweep is the peer itself, which goes, or one that has nothing to do with it. -/
theorem peer_sweepDevice (hown : ∀ d, h.registry.get? id = some d → d.id = id ∧ d.link = l)
    (halone : ∀ id' d, h.registry.get? id' = some d → d.link = l → id' = id) (report : SweepReport) (d : Device) :
    SameDevice id h (sweepDevice now asOf limit (h, report) d).1 ∧
        SameLink l h (sweepDevice now asOf limit (h, report) d).1 ∨
      Evicted id l h (sweepDevice now asOf limit (h, report) d).1 := by
  by_cases he : ∃ current, h.Evicts asOf limit d current
  · obtain ⟨current, he⟩ := he
    have hcurrent : h.registry.get? d.id = some current := he.1
    rw [sweepDevice_evict h report he]
    by_cases hid : d.id = id
    · subst hid
      obtain ⟨hself, rfl⟩ := hown current hcurrent
      rw [← hself] at hcurrent ⊢
      exact .inr (evicted_device hcurrent)
    · have hlink : current.link ≠ l := fun hl => hid (halone d.id current hcurrent hl)
      obtain ⟨hreaches, -⟩ := reaches_dismiss_own (h.atom now (.erase d.id .expired)) now asOf current
      refine .inl ⟨?_, ?_⟩
      · refine (sameDevice_atom h (a := .erase d.id .expired) fun heq => hid (Option.some.inj heq)).trans
          (sameDevice_of_reaches ?_ hreaches)
        rintro a (⟨line, rfl⟩ | ⟨x, rfl⟩) <;> exact nofun
      · refine (sameLink_atom h (a := .erase d.id .expired) trivial).trans (sameLink_of_reaches ?_ hreaches)
        rintro a (⟨line, rfl⟩ | ⟨x, rfl⟩)
        · trivial
        · exact hlink
  · rw [sweepDevice_spare h report (not_exists.mp he)]
    exact .inl ⟨.refl h, .refl h⟩

theorem get?_of_sweepDevice {report : SweepReport} {d d' : Device}
    (hd' : (sweepDevice now asOf limit (h, report) d).1.registry.get? id = some d') : h.registry.get? id = some d' := by
  by_cases he : ∃ current, h.Evicts asOf limit d current
  · obtain ⟨current, he⟩ := he
    rw [sweepDevice_evict h report he, (dismiss_quiet _ _ _ _).1, atom_erase_of_some _ he.1,
      (undisturbed_announce _).registry, Registry.get?_erase] at hd'
    split at hd'
    · cases hd'
    · exact hd'
  · rwa [sweepDevice_spare h report (not_exists.mp he)] at hd'

/-- In a sweep a peer that is alone on its connection is evicted or left alone. -/
theorem peer_foldl_sweepDevice (hown : ∀ d, h.registry.get? id = some d → d.id = id ∧ d.link = l)
    (halone : ∀ id' d, h.registry.get? id' = some d → d.link = l → id' = id) (ds : List Device)
    (report : SweepReport) :
    SameDevice id h (ds.foldl (sweepDevice now asOf limit) (h, report)).1 ∧
        SameLink l h (ds.foldl (sweepDevice now asOf limit) (h, report)).1 ∨
      Evicted id l h (ds.foldl (sweepDevice now asOf limit) (h, report)).1 := by
  induction ds generalizing h report with
  | nil => exact .inl ⟨.refl h, .refl h⟩
  | cons d ds ih =>
    rw [List.foldl_cons]
    have hthins : ∀ id' d', (sweepDevice now asOf limit (h, report) d).1.registry.get? id' = some d' →
        h.registry.get? id' = some d' := fun id' d' hd' => get?_of_sweepDevice hd'
    have hrest := ih (h := (sweepDevice now asOf limit (h, report) d).1) (fun d' hd' => hown d' (hthins id d' hd'))
      (fun id' d' hd' => halone id' d' (hthins id' d' hd')) (sweepDevice now asOf limit (h, report) d).2
    rcases peer_sweepDevice hown halone report d with ⟨hd, hl⟩ | hevicted
    · rcases hrest with ⟨hd', hl'⟩ | hevicted
      · exact .inl ⟨hd.trans hd', hl.trans hl'⟩
      · exact .inr (hevicted.of_same hd hl)
    · rcases hrest with ⟨hd', hl'⟩ | ⟨⟨d', hd'⟩, -⟩
      · exact .inr (hevicted.same hd' hl')
      · -- what has gone does not go again
        cases hevicted.get?.symm.trans hd'

/-- A peer that is alone on its connection goes in a sweep just if its device has expired. -/
theorem peer_sweep (hn : h.census.Numbered) {d : Device} (hd : h.registry.get? id = some d) (hid : d.id = id)
    (hl : d.link = l) (halone : ∀ id' d, h.registry.get? id' = some d → d.link = l → id' = id) (now asOf : Int)
    (limit : Span) :
    if d.clock.isExpired asOf limit then Evicted id l h (h.sweep now asOf limit).1
    else SameDevice id h (h.sweep now asOf limit).1 ∧ SameLink l h (h.sweep now asOf limit).1 := by
  have hown : ∀ d', h.registry.get? id = some d' → d'.id = id ∧ d'.link = l := by
    intro d' hd'
    obtain rfl := Option.some.inj (hd.symm.trans hd')
    exact ⟨hid, hl⟩
  have hpeer : SameDevice id h (h.sweep now asOf limit).1 ∧ SameLink l h (h.sweep now asOf limit).1 ∨
      Evicted id l h (h.sweep now asOf limit).1 := peer_foldl_sweepDevice hown halone h.snapshot _
  have hget := get?_sweep hn hd hid now asOf limit
  split
  · rename_i hexpired
    rw [if_pos hexpired] at hget
    rcases hpeer with ⟨hsame, -⟩ | hevicted
    · cases (hsame.get?.trans hd).symm.trans hget
    · exact hevicted
  · rename_i hfresh
    rw [if_neg hfresh] at hget
    rcases hpeer with hsame | hevicted
    · exact hsame
    · cases hevicted.get?.symm.trans hget

/-- A peer that has no device is left alone by sweeps. -/
theorem absent_sweep (hnone : h.registry.get? id = none)
    (halone : ∀ id' d, h.registry.get? id' = some d → d.link = l → id' = id) (now asOf : Int) (limit : Span) :
    SameDevice id h (h.sweep now asOf limit).1 ∧ SameLink l h (h.sweep now asOf limit).1 := by
  have hown : ∀ d', h.registry.get? id = some d' → d'.id = id ∧ d'.link = l := fun d' hd' => by
    cases hnone.symm.trans hd'
  rcases peer_foldl_sweepDevice hown halone h.snapshot { scanned := h.snapshot.length } with
    hsame | ⟨⟨d, hd⟩, -⟩
  · exact hsame
  · cases hnone.symm.trans hd

/-! ## Reports -/

theorem sameDevice_fire (h : Hub) {id' : DeviceId} (hid : id' ≠ id) (l : LinkId) (state : LinkState) :
    SameDevice id h (h.fire now id' l state) := by
  refine sameDevice_of_reaches ?_ (reaches_fire h id' l state)
  have hne : some id' ≠ some id := fun heq => hid (Option.some.inj heq)
  rintro a (_ | _ | (_ | _))
  · exact nofun
  · exact nofun
  · exact hne
  · exact hne

theorem sameLink_fire (h : Hub) (id : DeviceId) {l' : LinkId} (hl : l' ≠ l) (state : LinkState) :
    SameLink l h (h.fire now id l' state) := by
  refine sameLink_of_reaches ?_ (reaches_fire h id l' state)
  rintro a (_ | _ | (_ | _))
  · exact hl
  · trivial
  · trivial
  · trivial

/-- Watchers do nothing to connections. -/
theorem links_fire (h : Hub) (id : DeviceId) (l : LinkId) (state : LinkState) :
    (h.fire now id l state).links = h.links := by
  refine (reaches_fire h id l state).lift (R := fun h h' => h'.links = h.links) (fun _ => rfl)
    (fun hab hbc => hbc.trans hab) fun h a ha => ?_
  obtain _ | _ | (_ | _) := ha
  · simp only [atom, hear]
    split <;> rfl
  · rfl
  · exact (undisturbed_announce _).links
  · cases hd : h.registry.get? id with
    | none => rw [atom_erase_of_none .disconnected hd]
    | some d => rw [atom_erase_of_some .disconnected hd, (undisturbed_announce _).links]

/-- A watcher hears of a connection, and may write to the log or do the work of a bridge. -/
theorem tellWatcher_eq (h : Hub) (now : Int) (id : DeviceId) (l : LinkId) (state : LinkState) (j : Nat) :
    tellWatcher now id l state h j = h.hear now j id l state ∨
      (∃ line, tellWatcher now id l state h j = (h.hear now j id l state).log now line) ∨
      tellWatcher now id l state h j = (h.hear now j id l state).bridge now id l state := by
  cases hj : h.watchers[j]? with
  | none => exact .inl (by simp [tellWatcher, hear, hj])
  | some w =>
    simp only [tellWatcher, hear, hj]
    split
    · exact .inr (.inr rfl)
    · exact .inl rfl
    · exact .inl rfl
    · exact .inr (.inl ⟨_, rfl⟩)

theorem sameDevice_hear (h : Hub) (j : Nat) (id' : DeviceId) (l : LinkId) (state : LinkState) :
    SameDevice id h (h.hear now j id' l state) := sameDevice_atom h (a := .hear j id' l state) nofun

/-- Where a bridge would find nothing to do, a watcher that is told leaves the device of the peer alone. -/
theorem sameDevice_tellWatcher {j : Nat} {l : LinkId} {state : LinkState}
    (hidle : (h.hear now j id l state).bridge now id l state = h.hear now j id l state) :
    SameDevice id h (tellWatcher now id l state h j) := by
  have hhear : SameDevice id h (h.hear now j id l state) := sameDevice_hear h j id l state
  rcases tellWatcher_eq h now id l state j with heq | ⟨line, heq⟩ | heq
  · rwa [heq]
  · rw [heq]
    exact hhear.trans (sameDevice_atom _ (a := .log line) nofun)
  · rwa [heq, hidle]

/-- A peer that has no device is not told of when its connection goes down. -/
theorem sameDevice_fire_inactive (h : Hub) (l : LinkId) (hnone : h.registry.get? id = none) :
    SameDevice id h (h.fire now id l .inactive) := by
  unfold fire
  generalize List.range h.watchers.length = js
  induction js generalizing h with
  | nil => exact .refl h
  | cons j js ih =>
    have hsame : SameDevice id h (tellWatcher now id l .inactive h j) :=
      sameDevice_tellWatcher (by simp [bridge, removeIf, hnone])
    exact hsame.trans (ih _ (hsame.get?.trans hnone))

/-- A peer whose device is bound to a connection is not told of again when that comes up. -/
theorem sameDevice_foldl_active {l : LinkId} (hbound : h.Bound id l) (js : List Nat) :
    SameDevice id h (js.foldl (tellWatcher now id l .active) h) := by
  induction js generalizing h with
  | nil => exact .refl h
  | cons j js ih =>
    have ⟨d, hd, hlink⟩ := hbound
    have hsame : SameDevice id h (tellWatcher now id l .active h j) :=
      sameDevice_tellWatcher (by simp [bridge, hd, hlink])
    exact hsame.trans (ih (by rwa [Bound, hsame.get?]))

/-- A peer has come into the registry, and observers were told of it once. -/
structure Joined (now : Int) (id : DeviceId) (l : LinkId) (h h' : Hub) : Prop where
  device : ∃ d, h'.registry.get? id = some d ∧ d.id = id ∧ d.link = l ∧ d.clock = .startingAt now ∧ d.sequence = .none
  events : ∀ i < h.observers.length, h'.events i id = h.events i id ++ [.added id false]
  observers : h.observers.length ≤ h'.observers.length

theorem joined_put (hnone : h.registry.get? id = none) : Joined now id l h (h.put now { id, link := l }).2 := by
  rw [put_eq]
  have hquiet : { h with registry := (h.registry.store id { id, link := l } now).2.2 }.Undisturbed
      (h.storeAs now id { id, link := l }).2.2 := undisturbed_announce _
  refine ⟨⟨Device.appear (h.registry.stored + 1) { id, link := l } now, ?_, rfl, rfl, rfl, rfl⟩, fun i hi => ?_,
    Nat.le_of_eq hquiet.observers.symm⟩
  · rw [hquiet.registry, Registry.get?_store, if_pos rfl]
  · refine (events_announce { h with registry := (h.registry.store id { id, link := l } now).2.2 }
      (n := .added id (h.registry.store id { id, link := l } now).1 _) hi).trans ?_
    show h.events i id ++ [.added id (h.registry.get? id).isSome] = _
    rw [hnone]
    rfl

theorem Joined.same (h : Joined now id l h₁ h₂) (hd : SameDevice id h₂ h₃) : Joined now id l h₁ h₃ where
  device := hd.get?.symm ▸ h.device
  events := fun i hi => (hd.events i).trans (h.events i hi)
  observers := Nat.le_trans h.observers hd.observers

theorem SameDevice.joined (hd : SameDevice id h₁ h₂) (h : Joined now id l h₂ h₃) : Joined now id l h₁ h₃ where
  device := h.device
  events := fun i hi => (h.events i (Nat.lt_of_lt_of_le hi hd.observers)).trans (by rw [hd.events])
  observers := Nat.le_trans hd.observers h.observers

theorem joined_tellWatcher (hnone : h.registry.get? id = none) (l : LinkId) (j : Nat) :
    SameDevice id h (tellWatcher now id l .active h j) ∨ Joined now id l h (tellWatcher now id l .active h j) := by
  have hhear : SameDevice id h (h.hear now j id l .active) := sameDevice_hear h j id l .active
  rcases tellWatcher_eq h now id l .active j with heq | ⟨line, heq⟩ | heq
  · exact .inl (by rwa [heq])
  · rw [heq]
    exact .inl (hhear.trans (sameDevice_atom _ (a := .log line) nofun))
  · have hput : (h.hear now j id l .active).bridge now id l .active =
        ((h.hear now j id l .active).put now { id, link := l }).2 := by
      simp [bridge, hnone]
    rw [heq, hput]
    exact .inr (hhear.joined (joined_put (hhear.get?.trans hnone)))

theorem joined_foldl_active (hnone : h.registry.get? id = none) (l : LinkId) (js : List Nat) :
    SameDevice id h (js.foldl (tellWatcher now id l .active) h) ∨
      Joined now id l h (js.foldl (tellWatcher now id l .active) h) := by
  induction js generalizing h with
  | nil => exact .inl (.refl h)
  | cons j js ih =>
    rcases joined_tellWatcher hnone l j with hsame | hjoined
    · exact (ih (hsame.get?.trans hnone)).imp hsame.trans hsame.joined
    · obtain ⟨d, hd, -, hlink, -⟩ := hjoined.device
      exact .inr (hjoined.same (sameDevice_foldl_active ⟨d, hd, hlink⟩ js))

/-- However many bridges hear of it, a peer whose connection comes up joins the registry once. -/
theorem joined_fire_active (hk : IsBridge k h) (l : LinkId) (hnone : h.registry.get? id = none) :
    Joined now id l h (h.fire now id l .active) := by
  rcases joined_foldl_active hnone l (List.range h.watchers.length) with hsame | hjoined
  · -- a bridge is among those who heard
    obtain ⟨d, hd, -⟩ := (binds_fire hk now id l).2
    cases (hsame.get?.trans hnone).symm.trans hd
  · exact hjoined

/-! ## Slots -/

theorem sameLink_setSlot (h : Hub) {l' : LinkId} (hl : l' ≠ l) (slot : Slot) : SameLink l h (h.setSlot l' slot) where
  link := rfl
  slot := by simp [slot?, setSlot, Std.ExtTreeMap.getElem?_insert, hl]
  shown := fun _ => rfl
  watchers := Nat.le_refl _

theorem sameLink_dropSlot (h : Hub) {l' : LinkId} (hl : l' ≠ l) : SameLink l h (h.dropSlot l') where
  link := rfl
  slot := by simp [slot?, dropSlot, Std.ExtTreeMap.getElem?_erase, hl]
  shown := fun _ => rfl
  watchers := Nat.le_refl _

theorem sameDevice_setSlot (h : Hub) (l : LinkId) (slot : Slot) : SameDevice id h (h.setSlot l slot) :=
  ⟨rfl, fun _ => rfl, Nat.le_refl _⟩

theorem sameDevice_dropSlot (h : Hub) (l : LinkId) : SameDevice id h (h.dropSlot l) :=
  ⟨rfl, fun _ => rfl, Nat.le_refl _⟩

/-- An open connection that counts its traffic comes up if it has no slot. -/
theorem onActive_of_open {x : CountingLink} (hlink : h.links[l]? = some (.counting x)) (hopen : x.closed = false)
    (hslot : h.slot? l = none) :
    (h.onActive now id l).2 = (h.setSlot l ⟨id, .active⟩).fire now id l .active := by
  have hasked : ∀ {h : Hub}, h.links[l]? = some (.counting x) → h.isLinkOpen l = (true, h) := by
    intro h hlink
    obtain ⟨hlt, hx⟩ := Array.getElem?_eq_some_iff.mp hlink
    have hsame : h.links.setIfInBounds l (.counting x) = h.links := by
      rw [Array.setIfInBounds, dif_pos hlt, ← hx, Array.set_getElem_self]
    simp [isLinkOpen, callLink, hlink, Link.isOpen, hopen, hsame]
  have hasked' : (h.setSlot l ⟨id, .pending⟩).isLinkOpen l = (true, h.setSlot l ⟨id, .pending⟩) :=
    hasked (h := h.setSlot l ⟨id, .pending⟩) hlink
  simp only [onActive, hasked hlink, hslot, Option.getD_none, ne_eq, not_true, if_false, hasked']
  simp only [setSlot, insert_insert]

/-- A connection that is up goes down under the id of its slot. -/
theorem onInactive_of_active (hslot : h.slot? l = some ⟨id, .active⟩) :
    (h.onInactive now l).2 = ((h.setSlot l ⟨id, .closed⟩).fire now id l .inactive).dropSlot l := by
  simp [onInactive, hslot]

theorem sameDevice_onInactive {id' : DeviceId} (hslot : h.slot? l = some ⟨id', .active⟩) (hid : id' ≠ id) :
    SameDevice id h (h.onInactive now l).2 := by
  rw [onInactive_of_active hslot]
  exact (sameDevice_setSlot h l _).trans ((sameDevice_fire _ hid l .inactive).trans (sameDevice_dropSlot _ l))

theorem sameLink_onInactive {l' : LinkId} (hslot : h.slot? l' = some ⟨id, .active⟩) (hl : l' ≠ l) :
    SameLink l h (h.onInactive now l').2 := by
  rw [onInactive_of_active hslot]
  exact (sameLink_setSlot h hl _).trans ((sameLink_fire _ id hl .inactive).trans (sameLink_dropSlot _ hl))

/-- A connection has gone down whose device had gone before: watchers were told, and observers were not. -/
structure WentDown (id : DeviceId) (l : LinkId) (h h' : Hub) : Prop extends SameDevice id h h' where
  link : h'.links[l]? = h.links[l]?
  slot : h'.slot? l = none
  shown : ∀ k < h.watchers.length, h'.shown k l = h.shown k l ++ [(id, .inactive)]
  watchers : h.watchers.length ≤ h'.watchers.length

theorem wentDown_onInactive (hslot : h.slot? l = some ⟨id, .active⟩) (hnone : h.registry.get? id = none) :
    WentDown id l h (h.onInactive now l).2 := by
  rw [onInactive_of_active hslot]
  have hfire : SameDevice id (h.setSlot l ⟨id, .closed⟩) ((h.setSlot l ⟨id, .closed⟩).fire now id l .inactive) :=
    sameDevice_fire_inactive (h.setSlot l ⟨id, .closed⟩) l hnone
  have hwatchers : h.watchers.length ≤ ((h.setSlot l ⟨id, .closed⟩).fire now id l .inactive).watchers.length :=
    (seen_fire (readsWatchers_shownTo? (k := 0) (l := l)) (h.setSlot l ⟨id, .closed⟩) id l .inactive).1
  refine ⟨(sameDevice_setSlot h l _).trans (hfire.trans (sameDevice_dropSlot _ l)), ?_, ?_, fun k hk => ?_, hwatchers⟩
  · exact congrArg (·[l]?) (links_fire (h.setSlot l ⟨id, .closed⟩) id l .inactive)
  · simp [slot?, dropSlot]
  · have htells : Tells k l (id, .inactive) (h.setSlot l ⟨id, .closed⟩)
        ((h.setSlot l ⟨id, .closed⟩).fire now id l .inactive) :=
      tells_fire (h.setSlot l ⟨id, .closed⟩) hk id l .inactive
    have hshown := htells.shown l
    rw [if_pos rfl] at hshown
    exact hshown

end Liveness.Hub
