import Liveness.Proofs.Hub.Naming
import Liveness.Proofs.Hub.Neighbours
import Liveness.Proofs.Hub.Sweep

/-!
# Two hubs that are alike in one id

Two hubs are *twins* in an id if, up to a naming, the device under it is the same and the
observers heard the same of it.  Calls on that id keep twins and answer alike (`Hub.matches_step`), and so do
all calls that are about no id; calls on other ids do not count (`Hub.Twins.skip`).
-/

namespace Liveness

/-- The maker opens a connection on its own. -/
def Recipe.opensLink : Recipe → Bool
  | .makeOnNewLink .. => true
  | _ => false

namespace Hub

/-! ## Calls and ids -/

/-- The id that a call on the registry is about. -/
def Op.id? : Op → Option DeviceId
  | .put p => some p.id
  | .getOrCreate id _ | .remove id _ | .removeIf id _ _ | .removeSilently id | .touch id | .recordSequence id _ =>
    some id
  | _ => none

/-- A call with faithful makers that leaves it to callers to put and remove devices: no transport reports one. -/
def Op.IsRegular : Op → Prop
  | .sweepOver .. | .reportActive .. | .reportInactive _ => False
  | op => op.IsFaithful

/-- A call whose answer tells of no more than one id: no sweep, and nothing that is asked of a tally or a
connection. -/
def Op.tellsOfOne : Op → Bool
  | .sweep .. | .sweepOver .. | .send .. | .close _ | .reportActive .. | .reportInactive _ | .addTally | .takeTally _
  | .report .. => false
  | _ => true

/-- What an observer heard of an id by one entry of the trace. -/
def sighted? (id : DeviceId) (s : Stamped) : Option Sighting :=
  match s.what with
  | .observed j n present => if n.id = id then some ⟨s.time, j, n, present⟩ else none
  | _ => none

/-- All that observers ever heard of an id. -/
def sightings (id : DeviceId) (h : Hub) : List Sighting := h.seen (sighted? id)

variable {ν : Naming} {x id : DeviceId} {now asOf : Int} {limit : Span} {n : Notice} {h h' h₁ h₁' : Hub}

theorem readsNotices_sighted? : ReadsNotices id (sighted? id) := by
  rintro ⟨t, what⟩ hs
  cases what with
  | observed j n present => exact if_neg (hs j n present rfl)
  | watched | reported | logged => rfl

theorem sightings_announce (h : Hub) (hn : n.id = id) :
    (h.announce now n).sightings id =
      h.sightings id ++ (List.range h.observers.length).map fun j => ⟨now, j, n, h.registry.contains id⟩ := by
  subst hn
  have hself : ∀ j, sighted? n.id ⟨now, .observed j n (h.registry.contains n.id)⟩ =
      some ⟨now, j, n, h.registry.contains n.id⟩ := fun j => if_pos rfl
  rw [sightings, readsNotices_sighted?.skipsLog.seen_announce]
  simp only [hself, List.filterMap_eq_map']
  rfl

/-! ## Twins -/

/-- Two hubs are alike in one id, up to a naming. -/
structure Twins (ν : Naming) (x : DeviceId) (h h' : Hub) : Prop where
  device : h'.registry.get? x = (h.registry.get? x).map ν.device
  sightings : h'.sightings x = (h.sightings x).map ν.sighting
  observers : h'.observers.length = h.observers.length

namespace Twins

/-- Each of the two does something that has nothing to do with the id. -/
theorem aside (ht : Twins ν x h h') (hs : SameDevice x h h₁) (hs' : SameDevice x h' h₁')
    (hobservers : h₁'.observers.length = h₁.observers.length) : Twins ν x h₁ h₁' where
  device := by rw [hs'.get?, hs.get?, ht.device]
  sightings := by
    rw [Hub.sightings, Hub.sightings, hs'.seen readsNotices_sighted?, hs.seen readsNotices_sighted?]
    exact ht.sightings
  observers := hobservers

theorem withRegistry (ht : Twins ν x h h') {r r' : Registry} (hr : r'.get? x = (r.get? x).map ν.device) :
    Twins ν x { h with registry := r } { h' with registry := r' } where
  device := hr
  sightings := ht.sightings
  observers := ht.observers

/-- Both announce the same, up to the naming. -/
theorem announce (ht : Twins ν x h h') (now : Int) (hn : n.id = x) :
    Twins ν x (h.announce now n) (h'.announce now (ν.notice n)) where
  device := by rw [(undisturbed_announce h).registry, (undisturbed_announce h').registry, ht.device]
  sightings := by
    have hpresent : h'.registry.contains x = h.registry.contains x := by
      rw [Registry.contains_eq_isSome, Registry.contains_eq_isSome, ht.device, Option.isSome_map]
    rw [sightings_announce h hn, sightings_announce h' ((ν.id_notice n).trans hn), ht.sightings, ht.observers, hpresent,
      List.map_append, List.map_map]
    rfl
  observers := by rw [(undisturbed_announce h).observers, (undisturbed_announce h').observers, ht.observers]

end Twins

/-- What a naming has to say of the numbers that a call gives out. -/
structure Fresh (ν : Naming) (h h' after : Hub) : Prop where
  serial : h.registry.stored < after.registry.stored → ν.serial (h.registry.stored + 1) = h'.registry.stored + 1
  link : h.links.size < after.links.size → ν.link h.links.size = h'.links.size

/-- Two hubs go on as twins, and give out as many numbers. -/
structure Abreast (ν : Naming) (x : DeviceId) (h h' h₁ h₁' : Hub) : Prop where
  twins : Twins ν x h₁ h₁'
  stored : h₁'.registry.stored + h.registry.stored = h'.registry.stored + h₁.registry.stored
  links : h₁'.links.size + h.links.size = h'.links.size + h₁.links.size

theorem Abreast.calm (htwins : Twins ν x h₁ h₁') (hstored : h₁.registry.stored = h.registry.stored)
    (hstored' : h₁'.registry.stored = h'.registry.stored) (hlinks : h₁.links.size = h.links.size)
    (hlinks' : h₁'.links.size = h'.links.size) : Abreast ν x h h' h₁ h₁' where
  twins := htwins
  stored := by rw [hstored, hstored']
  links := by rw [hlinks, hlinks']

theorem Abreast.trans {h₂ h₂' : Hub} (ha : Abreast ν x h h' h₁ h₁') (ha' : Abreast ν x h₁ h₁' h₂ h₂') :
    Abreast ν x h h' h₂ h₂' where
  twins := ha'.twins
  stored := by
    have hstored := ha.stored
    have hstored' := ha'.stored
    omega
  links := by
    have hlinks := ha.links
    have hlinks' := ha'.links
    omega

/-- Two calls on twins that answer alike. -/
structure Matches {α : Type} (ν : Naming) (x : DeviceId) (rename : α → α) (h h' : Hub) (r r' : α × Hub) : Prop
    extends Abreast ν x h h' r.2 r'.2 where
  answer : r'.1 = rename r.1

theorem Matches.reply {α : Type} {rename : α → α} {r r' : α × Hub} (hm : Matches ν x rename h h' r r') {f : α → Reply}
    (hf : ∀ a, f (rename a) = ν.reply (f a)) : Matches ν x ν.reply h h' (f r.1, r.2) (f r'.1, r'.2) where
  toAbreast := hm.toAbreast
  answer := by rw [hm.answer, hf]

/-- Two calls that give out no numbers. -/
theorem Matches.calm {α : Type} {rename : α → α} {r r' : α × Hub} (hanswer : r'.1 = rename r.1)
    (htwins : Twins ν x r.2 r'.2) (hstored : r.2.registry.stored = h.registry.stored)
    (hstored' : r'.2.registry.stored = h'.registry.stored) (hlinks : r.2.links = h.links)
    (hlinks' : r'.2.links = h'.links) : Matches ν x rename h h' r r' where
  toAbreast := .calm htwins hstored hstored' (congrArg Array.size hlinks) (congrArg Array.size hlinks')
  answer := hanswer

/-! ## Calls on the id -/

theorem device_appear (hserial : ν.serial (h.registry.stored + 1) = h'.registry.stored + 1) (p : Profile) :
    Device.appear (h'.registry.stored + 1) (ν.profile p) now = ν.device (.appear (h.registry.stored + 1) p now) := by
  rw [← hserial]
  rfl

namespace Twins

theorem storeAs (ht : Twins ν x h h') (now : Int) (p : Profile)
    (hserial : ν.serial (h.registry.stored + 1) = h'.registry.stored + 1) :
    let r := h.storeAs now x p
    let r' := h'.storeAs now x (ν.profile p)
    r'.1 = ν.device r.1 ∧ r'.2.1 = r.2.1.map ν.device ∧ Twins ν x r.2.2 r'.2.2 := by
  intro r r'
  have hdevice : r'.1 = ν.device r.1 := device_appear hserial p
  refine ⟨hdevice, ht.device, ?_⟩
  have hstored : (h'.registry.store x (ν.profile p) now).2.2.get? x =
      ((h.registry.store x p now).2.2.get? x).map ν.device := by
    rw [Registry.get?_store, Registry.get?_store, if_pos rfl, if_pos rfl, device_appear hserial]
    rfl
  have hannounced := (ht.withRegistry hstored).announce now
    (n := .added x (h.registry.store x p now).1 (h.registry.get? x)) rfl
  have hnotice : ν.notice (.added x (h.registry.store x p now).1 (h.registry.get? x)) =
      .added x (h'.registry.store x (ν.profile p) now).1 (h'.registry.get? x) := by
    rw [Naming.notice, ← ht.device]
    exact congrArg (Notice.added x · (h'.registry.get? x)) hdevice.symm
  rw [hnotice] at hannounced
  exact hannounced

end Twins

theorem stored_storeAs (h : Hub) (now : Int) (key : DeviceId) (p : Profile) :
    (h.storeAs now key p).2.2.registry.stored = h.registry.stored + 1 :=
  congrArg Registry.stored (undisturbed_announce { h with registry := (h.registry.store key p now).2.2 }).registry

theorem links_storeAs (h : Hub) (now : Int) (key : DeviceId) (p : Profile) :
    (h.storeAs now key p).2.2.links = h.links :=
  (undisturbed_announce { h with registry := (h.registry.store key p now).2.2 }).links

theorem matches_put (ht : Twins ν x h h') {p : Profile} (hp : p.id = x) (hfresh : Fresh ν h h' (h.put now p).2) :
    Matches ν x (Option.map ν.device) h h' (h.put now p) (h'.put now (ν.profile p)) := by
  subst hp
  rw [put_eq] at hfresh
  rw [put_eq, put_eq]
  have hgrows : h.registry.stored < (h.storeAs now p.id p).2.2.registry.stored :=
    (stored_storeAs h now p.id p).symm ▸ Nat.lt_succ_self _
  obtain ⟨-, hold, htwins⟩ := ht.storeAs now p (hfresh.serial hgrows)
  refine ⟨⟨htwins, ?_, ?_⟩, hold⟩
  · have hstored := stored_storeAs h now p.id p
    have hstored' := stored_storeAs h' now p.id (ν.profile p)
    change (h'.storeAs now p.id (ν.profile p)).2.2.registry.stored + _ = _ + (h.storeAs now p.id p).2.2.registry.stored
    omega
  · change (h'.storeAs now p.id (ν.profile p)).2.2.links.size + _ = _ + (h.storeAs now p.id p).2.2.links.size
    rw [links_storeAs, links_storeAs]

/-- A device is made for a caller. -/
theorem matches_make (ht : Twins ν x h h') (now : Int) (p : Profile)
    (hserial : ν.serial (h.registry.stored + 1) = h'.registry.stored + 1) :
    let r := h.storeAs now x p
    let r' := h'.storeAs now x (ν.profile p)
    Matches ν x ν.creation h h' (.made r.1, r.2.2) (.made r'.1, r'.2.2) := by
  intro r r'
  obtain ⟨hmade, -, htwins⟩ := ht.storeAs now p hserial
  have hstored : r.2.2.registry.stored = h.registry.stored + 1 := stored_storeAs h now x p
  have hstored' : r'.2.2.registry.stored = h'.registry.stored + 1 := stored_storeAs h' now x (ν.profile p)
  have hlinks : r.2.2.links = h.links := links_storeAs h now x p
  have hlinks' : r'.2.2.links = h'.links := links_storeAs h' now x (ν.profile p)
  refine ⟨⟨htwins, ?_, ?_⟩, congrArg Creation.made hmade⟩
  · dsimp only
    omega
  · dsimp only
    rw [hlinks, hlinks']

theorem matches_getOrCreate (ht : Twins ν x h h') {recipe : Recipe}
    (hfresh : Fresh ν h h' (h.getOrCreate now x recipe).2) :
    Matches ν x ν.creation h h' (h.getOrCreate now x recipe) (h'.getOrCreate now x (ν.recipe recipe)) := by
  have hdevice := ht.device
  cases hd : h.registry.get? x with
  | some d =>
    rw [hd, Option.map_some] at hdevice
    rw [getOrCreate_of_some h recipe hd, getOrCreate_of_some h' (ν.recipe recipe) hdevice]
    exact .calm rfl ht rfl rfl rfl rfl
  | none =>
    rw [hd, Option.map_none] at hdevice
    rw [getOrCreate_of_none h recipe hd] at hfresh
    rw [getOrCreate_of_none h recipe hd, getOrCreate_of_none h' (ν.recipe recipe) hdevice]
    cases recipe with
    | make p =>
      have hgrows : h.registry.stored < (h.storeAs now x p).2.2.registry.stored :=
        (stored_storeAs h now x p).symm ▸ Nat.lt_succ_self _
      exact matches_make ht now p (hfresh.serial hgrows)
    | makeOnNewLink own attributes =>
      let opened (h : Hub) : Hub := { h with links := h.links.push (.counting {}) }
      let p : Profile := { id := own, link := h.links.size, attributes }
      have hopened : Twins ν x (opened h) (opened h') := ⟨ht.device, ht.sightings, ht.observers⟩
      have hstored : ((opened h).storeAs now x p).2.2.registry.stored = h.registry.stored + 1 := stored_storeAs ..
      have hlinks : ((opened h).storeAs now x p).2.2.links.size = h.links.size + 1 :=
        (congrArg Array.size (links_storeAs ..)).trans (Array.size_push _)
      have hprofile : ν.profile p = { id := own, link := h'.links.size, attributes } := by
        rw [← hfresh.link (hlinks.symm ▸ Nat.lt_succ_self _)]
        rfl
      have hmade := matches_make hopened now p (hfresh.serial (hstored.symm ▸ Nat.lt_succ_self _))
      rw [hprofile] at hmade
      obtain ⟨⟨htwins, hcount, hcount'⟩, hanswer⟩ := hmade
      refine ⟨⟨htwins, hcount, ?_⟩, hanswer⟩
      have hsize : ∀ h : Hub, (opened h).links.size = h.links.size + 1 := fun h => Array.size_push _
      rw [hsize, hsize] at hcount'
      change ((opened h').storeAs now x { id := own, link := h'.links.size, attributes }).2.2.links.size + _ =
        _ + ((opened h).storeAs now x p).2.2.links.size
      dsimp only at hcount'
      omega
    | fail reason => exact .calm rfl ht rfl rfl rfl rfl
    | panic message => exact .calm rfl ⟨ht.device, ht.sightings, ht.observers⟩ rfl rfl rfl rfl

/-- A check under the other numbers comes to the same for the device that stands for the one it looks at. -/
theorem matches_removeIf (ht : Twins ν x h h') (reason : RemovalReason) (check : Device → Verdict) :
    Matches ν x ν.removal h h' (h.removeIf now x reason check)
      (h'.removeIf now x reason fun d => check (ν.inverse.device d)) := by
  have hdevice := ht.device
  cases hd : h.registry.get? x with
  | none =>
    rw [hd, Option.map_none] at hdevice
    rw [removeIf_absent h reason check hd, removeIf_absent h' reason _ hdevice]
    exact .calm rfl ht rfl rfl rfl rfl
  | some d =>
    rw [hd, Option.map_some] at hdevice
    have hcheck : check (ν.inverse.device (ν.device d)) = check d := by rw [Naming.inverse_device]
    cases hverdict : check d with
    | keep =>
      rw [removeIf_keep h reason hd hverdict, removeIf_keep h' reason hdevice (hcheck.trans hverdict)]
      exact .calm rfl ht rfl rfl rfl rfl
    | panic message =>
      rw [removeIf_panic h reason hd hverdict, removeIf_panic h' reason hdevice (hcheck.trans hverdict)]
      exact .calm rfl ⟨ht.device, ht.sightings, ht.observers⟩ rfl rfl rfl rfl
    | drop =>
      rw [removeIf_drop h hd hverdict, removeIf_drop h' hdevice (hcheck.trans hverdict), atom_erase_of_some reason hd,
        atom_erase_of_some reason hdevice]
      have herased : (h'.registry.erase x).get? x = ((h.registry.erase x).get? x).map ν.device := by
        rw [Registry.get?_erase, Registry.get?_erase, if_pos rfl, if_pos rfl]
        rfl
      have htwins := (ht.withRegistry herased).announce now (n := .removed x d reason) rfl
      have hstored : ∀ (h : Hub) (d : Device), ({ h with registry := h.registry.erase x }.announce now
          (.removed x d reason)).registry.stored = h.registry.stored := by
        intro h d
        rw [(undisturbed_announce _).registry]
        rfl
      have hlinks : ∀ (h : Hub) (d : Device), ({ h with registry := h.registry.erase x }.announce now
          (.removed x d reason)).links = h.links :=
        fun h d => (undisturbed_announce { h with registry := h.registry.erase x }).links
      exact .calm rfl htwins (hstored h d) (hstored h' _) (hlinks h d) (hlinks h' _)

theorem matches_remove (ht : Twins ν x h h') (reason : RemovalReason) :
    Matches ν x (Option.map ν.device) h h' (h.remove now x reason) (h'.remove now x reason) := by
  have hremoved : Matches ν x ν.removal h h' (h.removeIf now x reason fun _ => .drop)
      (h'.removeIf now x reason fun _ => .drop) := matches_removeIf ht reason fun _ => .drop
  obtain ⟨habreast, hanswer⟩ := hremoved
  unfold remove
  generalize h.removeIf now x reason (fun _ => .drop) = r at *
  generalize h'.removeIf now x reason (fun _ => .drop) = r' at *
  obtain ⟨removal, h₁⟩ := r
  obtain ⟨removal', h₁'⟩ := r'
  obtain rfl : removal' = ν.removal removal := hanswer
  cases removal with
  | removed d => exact ⟨habreast, rfl⟩
  | absent | kept | panicked => exact ⟨habreast, rfl⟩

theorem matches_removeSilently (ht : Twins ν x h h') :
    Matches ν x (Option.map ν.device) h h' (h.removeSilently x) (h'.removeSilently x) := by
  rw [removeSilently_eq, removeSilently_eq]
  refine .calm ht.device (ht.withRegistry ?_) rfl rfl rfl rfl
  rw [Registry.get?_erase, Registry.get?_erase, if_pos rfl, if_pos rfl]
  rfl

/-- A change of a device that does not look at its numbers. -/
theorem get?_update_twin (ht : Twins ν x h h') {g g' : Device → Device}
    (hg : ∀ d, h.registry.get? x = some d → g' (ν.device d) = ν.device (g d)) :
    (h'.registry.update x g').get? x = ((h.registry.update x g).get? x).map ν.device := by
  rw [Registry.get?_update, Registry.get?_update, if_pos rfl, if_pos rfl, ht.device]
  cases hd : h.registry.get? x with
  | none => rfl
  | some d => exact congrArg some (hg d hd)

theorem matches_touch (ht : Twins ν x h h') :
    Matches ν x (fun known => known) h h' (h.touch now x) (h'.touch now x) := by
  have hknown : h'.registry.contains x = h.registry.contains x := by
    rw [Registry.contains_eq_isSome, Registry.contains_eq_isSome, ht.device, Option.isSome_map]
  exact .calm hknown (ht.withRegistry (get?_update_twin ht fun d _ => rfl)) rfl rfl rfl rfl

theorem matches_recordSequence (ht : Twins ν x h h') (m : UInt64) :
    Matches ν x (Option.map fun a => (a.1, ν.device a.2)) h h' (h.recordSequence x m) (h'.recordSequence x m) := by
  have hdevice := ht.device
  unfold recordSequence
  cases hd : h.registry.get? x with
  | none =>
    rw [hd, Option.map_none] at hdevice
    rw [hdevice]
    exact .calm rfl ht rfl rfl rfl rfl
  | some d =>
    rw [hd, Option.map_some] at hdevice
    rw [hdevice]
    exact .calm rfl (ht.withRegistry (get?_update_twin ht fun d _ => rfl)) rfl rfl rfl rfl

/-! ## Sweeps -/

/-- Of devices with different ids, one at most counts for what is about one id. -/
theorem flatMap_of_ids {β : Type} {gone : List Device} {d : Device} (hids : (gone.map (·.id)).Nodup) (hd : d ∈ gone)
    {g : Device → List β} (hg : ∀ d', d'.id ≠ d.id → g d' = []) : gone.flatMap g = g d := by
  obtain ⟨before, later, rfl⟩ := List.append_of_mem hd
  rw [List.map_append, List.map_cons, List.perm_middle.nodup_iff, List.nodup_cons, ← List.map_append] at hids
  have hothers : ∀ d' ∈ before ++ later, g d' = [] := by
    intro d' hd'
    apply hg
    intro heq
    exact hids.1 (heq ▸ List.mem_map_of_mem hd')
  have hbefore : before.flatMap g = [] :=
    List.flatMap_eq_nil_iff.mpr fun d' hd' => hothers d' (List.mem_append_left _ hd')
  have hlater : later.flatMap g = [] :=
    List.flatMap_eq_nil_iff.mpr fun d' hd' => hothers d' (List.mem_append_right _ hd')
  rw [List.flatMap_append, List.flatMap_cons, hbefore, hlater, List.nil_append, List.append_nil]

/-- What observers hear of a device that expires, if there is one. -/
def farewell (now : Int) (observers : Nat) (d? : Option Device) : List Sighting :=
  match d? with
  | none => []
  | some d => (List.range observers).map fun j => ⟨now, j, .removed d.id d .expired, false⟩

/-- Of an id, observers hear in a sweep that its device expired, or nothing. -/
theorem sightings_sweep (hk : h.Keyed) (now asOf : Int) (limit : Span) (x : DeviceId) :
    (h.sweep now asOf limit).1.sightings x =
      h.sightings x ++
        farewell now h.observers.length ((h.registry.get? x).filter fun d => d.clock.isExpired asOf limit) := by
  obtain ⟨hmem, hids, -⟩ := hk.spec_snapshot h.perm_snapshot
  obtain ⟨hsheds, -⟩ := sheds_sweepOver hk now asOf limit h.perm_snapshot
  have hgone : ((expired asOf limit h.snapshot).map (·.id)).Nodup := hids.sublist (List.filter_sublist.map _)
  have hgoes : ∀ d, d ∈ expired asOf limit h.snapshot ↔
      h.registry.get? d.id = some d ∧ d.clock.isExpired asOf limit := by
    intro d
    rw [expired, List.mem_filter, hmem]
  have hother : ∀ d : Device, d.id ≠ x → (expiries now h.observers.length d).filterMap (sighted? x) = [] := by
    intro d hne
    rw [expiries, List.filterMap_map, List.filterMap_eq_nil_iff]
    intro j _
    exact if_neg hne
  have hown : ∀ d : Device, d.id = x → (expiries now h.observers.length d).filterMap (sighted? x) =
      (List.range h.observers.length).map fun j => ⟨now, j, .removed d.id d .expired, false⟩ := by
    rintro d rfl
    have hself : ∀ j, sighted? d.id ⟨now, .observed j (.removed d.id d .expired) false⟩ =
        some ⟨now, j, .removed d.id d .expired, false⟩ := fun j => if_pos rfl
    simp only [expiries, List.filterMap_map, Function.comp_def, hself, List.filterMap_eq_map']
  rw [sightings, sweep, hsheds.seen readsNotices_sighted?.skipsLog, List.filterMap_flatMap]
  congr 1
  -- one device at most of those that expire has the id
  by_cases hexpires : ∃ d, h.registry.get? x = some d ∧ d.clock.isExpired asOf limit
  · obtain ⟨d, hd, hexpired⟩ := hexpires
    obtain rfl : d.id = x := hk x d hd
    rw [flatMap_of_ids hgone ((hgoes d).mpr ⟨hd, hexpired⟩) fun d' hne => hother d' hne, hown d rfl, hd,
      Option.filter_some, if_pos hexpired]
    rfl
  · have hnone : (h.registry.get? x).filter (fun d => d.clock.isExpired asOf limit) = none := by
      rw [Option.filter_eq_none_iff]
      exact fun d hd hexpired => hexpires ⟨d, hd, hexpired⟩
    rw [hnone, farewell, List.flatMap_eq_nil_iff]
    intro d hd
    apply hother
    rintro rfl
    exact hexpires ⟨d, (hgoes d).mp hd⟩

/-- Renaming looks at no clock. -/
theorem filter_map_device (d? : Option Device) (p : LastSeen → Bool) :
    (d?.map ν.device).filter (fun d => p d.clock) = (d?.filter fun d => p d.clock).map ν.device := by
  cases d? with
  | none => rfl
  | some d =>
    rw [Option.map_some, Option.filter_some, Option.filter_some]
    cases hp : p d.clock with
    | true => rw [if_pos (show p (ν.device d).clock = true from hp), if_pos rfl, Option.map_some]
    | false => rw [if_neg (show ¬p (ν.device d).clock = true by simp [Naming.device, hp]), if_neg (by simp)]; rfl

theorem farewell_map_device (now : Int) (k : Nat) (d? : Option Device) :
    farewell now k (d?.map ν.device) = (farewell now k d?).map ν.sighting := by
  cases d? with
  | none => rfl
  | some d =>
    simp only [Option.map_some, farewell, List.map_map]
    rfl

/-- A sweep goes over each hub in its own order, over its own devices. -/
theorem Twins.sweep (ht : Twins ν x h h') (hk : h.Keyed) (hk' : h'.Keyed) (now asOf : Int) (limit : Span) :
    Twins ν x (h.sweep now asOf limit).1 (h'.sweep now asOf limit).1 where
  device := by
    rw [Hub.sweep, Hub.sweep, hk.get?_sweepOver now asOf limit h.perm_snapshot,
      hk'.get?_sweepOver now asOf limit h'.perm_snapshot,
      ht.device]
    exact filter_map_device (h.registry.get? x) fun c => !c.isExpired asOf limit
  sightings := by
    rw [sightings_sweep hk, sightings_sweep hk', ht.sightings, ht.observers, ht.device, List.map_append,
      ← farewell_map_device]
    exact congrArg (fun d? => (h.sightings x).map ν.sighting ++ farewell now h.observers.length d?)
      (filter_map_device (h.registry.get? x) fun c => c.isExpired asOf limit)
  observers := by
    obtain ⟨hsheds, -⟩ := sheds_sweepOver hk now asOf limit h.perm_snapshot
    obtain ⟨hsheds', -⟩ := sheds_sweepOver hk' now asOf limit h'.perm_snapshot
    exact hsheds'.observers.trans (ht.observers.trans hsheds.observers.symm)

theorem size_closeAll (links : Array Link) (is : List LinkId) : (closeAll links is).2.size = links.size := by
  induction is generalizing links with
  | nil => rfl
  | cons i is ih =>
    rw [closeAll]
    exact (ih _).trans Array.size_setIfInBounds

/-- A sweep gives out no numbers. -/
theorem stored_sweep (hk : h.Keyed) (now asOf : Int) (limit : Span) :
    (h.sweep now asOf limit).1.registry.stored = h.registry.stored ∧
      (h.sweep now asOf limit).1.links.size = h.links.size := by
  obtain ⟨hsheds, -⟩ := sheds_sweepOver hk now asOf limit h.perm_snapshot
  refine ⟨?_, ?_⟩
  · rw [sweep, hsheds.registry, stored_foldl_erase]
  · rw [sweep, hsheds.links, size_closeAll]

theorem Twins.abreast_sweep (ht : Twins ν x h h') (hk : h.Keyed) (hk' : h'.Keyed) (now asOf : Int) (limit : Span) :
    Abreast ν x h h' (h.sweep now asOf limit).1 (h'.sweep now asOf limit).1 := by
  obtain ⟨hstored, hlinks⟩ := stored_sweep hk now asOf limit
  obtain ⟨hstored', hlinks'⟩ := stored_sweep hk' now asOf limit
  exact .calm (ht.sweep hk hk' now asOf limit) hstored hstored' hlinks hlinks'

/-! ## Calls that have nothing to do with the id -/

/-- An atom about an id leaves connections alone and brings no observer. -/
theorem links_observers_atom (h : Hub) {a : Atom} {y : DeviceId} (ha : a.id? = some y) :
    (h.atom now a).links = h.links ∧ (h.atom now a).observers.length = h.observers.length := by
  cases a with
  | store key p => exact ⟨links_storeAs h now key p, (undisturbed_announce _).observers⟩
  | erase key reason =>
    cases hd : h.registry.get? key with
    | none =>
      rw [atom_erase_of_none reason hd]
      exact ⟨rfl, rfl⟩
    | some d =>
      rw [atom_erase_of_some reason hd]
      exact ⟨(undisturbed_announce _).links, (undisturbed_announce _).observers⟩
  | recordSequence key m => cases hd : h.registry.get? key <;> simp [Hub.atom, recordSequence, hd]
  | eraseSilently | touch => exact ⟨rfl, rfl⟩
  | _ => cases ha

/-- What a call about an id comes to. -/
theorem Op.Makes.id?_eq {op : Op} {a : Atom} (ha : op.Makes a) {y : DeviceId} (hop : op.id? = some y) :
    a.id? = some y ∨ a = .poison ∨ ∃ l, a = .openLink l := by
  cases op with
  | put | remove | removeSilently | touch | recordSequence =>
    cases ha
    exact .inl hop
  | removeIf id reason check =>
    obtain rfl | hpoison := ha
    · exact .inl hop
    · exact .inr (.inl hpoison)
  | getOrCreate id recipe =>
    obtain ⟨p, -, rfl⟩ | hopen | hpoison := ha
    · exact .inl hop
    · exact .inr (.inr hopen)
    · exact .inr (.inl hpoison)
  | _ => cases hop

/-- A call about another id does not count. -/
theorem Twins.skip (ht : Twins ν x h h') {op : Op} {y : DeviceId} (hop : op.id? = some y) (hne : y ≠ x) :
    Twins ν x (h.step now op) h' := by
  have hreaches := (reaches_step h op : h.Reaches now op.Makes _)
  have hsame : SameDevice x h (h.step now op) := by
    refine sameDevice_of_reaches (fun a ha => ?_) hreaches
    rcases ha.id?_eq hop with hid | rfl | ⟨l, rfl⟩
    · rw [hid]
      exact fun heq => hne (Option.some.inj heq)
    · exact nofun
    · exact nofun
  have hobservers : (h.step now op).observers.length = h.observers.length := by
    refine hreaches.lift (R := fun h h' => h'.observers.length = h.observers.length) (fun _ => rfl)
      (fun hab hbc => hbc.trans hab) fun h a ha => ?_
    rcases ha.id?_eq hop with hid | rfl | ⟨l, rfl⟩
    · exact (links_observers_atom h hid).2
    · rfl
    · rfl
  exact ht.aside hsame (.refl h') (ht.observers.trans hobservers.symm)

/-- Both hubs do something that is about no id. -/
theorem Twins.atom (ht : Twins ν x h h') (now : Int) (a a' : Atom) (ha : a.id? = none) (ha' : a'.id? = none)
    (hobservers : (h'.atom now a').observers.length = (h.atom now a).observers.length) :
    Twins ν x (h.atom now a) (h'.atom now a') := by
  refine ht.aside (sameDevice_atom h ?_) (sameDevice_atom h' ?_) hobservers
  · rw [ha]
    exact nofun
  · rw [ha']
    exact nofun

theorem size_links_le_step (h : Hub) (now : Int) (op : Op) : h.links.size ≤ (h.step now op).links.size := by
  refine (reaches_step h op).lift (R := fun h h' => h.links.size ≤ h'.links.size) (fun _ => Nat.le_refl _)
    Nat.le_trans ?_
  intro h a _
  cases a with
  | store | erase | eraseSilently | touch | recordSequence =>
    exact Nat.le_of_eq (congrArg Array.size (links_observers_atom h rfl).1).symm
  | openLink l => exact Nat.le_of_lt (by simp [Hub.atom, openLink])
  | setLink link l => exact Nat.le_of_eq (Array.size_setIfInBounds).symm
  | hear k id link state =>
    simp only [Hub.atom, hear]
    split <;> exact Nat.le_refl _
  | _ => exact Nat.le_refl _

/-- A call that leaves it to others to open connections, and whose check does not look at the number of a device. -/
def Op.IsPlain : Op → Prop
  | .getOrCreate _ recipe => recipe.opensLink = false
  | .removeIf _ _ check => ∀ d n, check { d with serial := n } = check d
  | _ => True

theorem links_getOrCreate (h : Hub) (now : Int) (id : DeviceId) {recipe : Recipe} (hrecipe : recipe.opensLink = false) :
    (h.getOrCreate now id recipe).2.links = h.links := by
  cases hd : h.registry.get? id with
  | some d => rw [getOrCreate_of_some h recipe hd]
  | none =>
    rw [getOrCreate_of_none h recipe hd]
    cases recipe with
    | make p => exact links_storeAs h now id p
    | makeOnNewLink => cases hrecipe
    | fail | panic => rfl

theorem links_step (h : Hub) (now : Int) {op : Op} {y : DeviceId} (hop : op.id? = some y) (hplain : op.IsPlain) :
    (h.step now op).links = h.links := by
  by_cases hcreates : ∃ id recipe, op = .getOrCreate id recipe
  · obtain ⟨id, recipe, rfl⟩ := hcreates
    exact links_getOrCreate h now id hplain
  · refine (reaches_step h op).lift (R := fun h h' => h'.links = h.links) (fun _ => rfl)
      (fun hab hbc => hbc.trans hab) fun h a ha => ?_
    rcases ha.id?_eq hop with hid | rfl | ⟨l, rfl⟩
    · exact (links_observers_atom h hid).1
    · rfl
    · cases op with
      | getOrCreate id recipe => exact absurd ⟨id, recipe, rfl⟩ hcreates
      | removeIf => rcases ha with ha | ha <;> cases ha
      | put | remove | removeSilently | touch | recordSequence => cases ha
      | _ => cases hop

/-! ## A step of both -/

theorem Matches.step {r r' : Reply × Hub} (hm : Matches ν x ν.reply h h' r r') {P : Prop} :
    (P → r'.1 = ν.reply r.1) ∧ Abreast ν x h h' r.2 r'.2 :=
  ⟨fun _ => hm.answer, hm.toAbreast⟩

/-- A call on the id, or on none, keeps twins, and answers alike if it tells of one id only. -/
theorem matches_step (ht : Twins ν x h h') (hk : h.Keyed) (hk' : h'.Keyed) {op : Op} (hregular : op.IsRegular)
    (hop : ∀ y ∈ op.id?, y = x) (hfresh : Fresh ν h h' (h.step now op)) :
    (op.tellsOfOne → h'.reply now (ν.op op) = ν.reply (h.reply now op)) ∧
      Abreast ν x h h' (h.step now op) (h'.step now (ν.op op)) := by
  have hsilent : ∀ {P : Prop}, false = true → P := fun hfalse => absurd hfalse Bool.false_ne_true
  cases op with
  | put p => exact ((matches_put ht (hop _ rfl) hfresh).reply (f := .found) fun _ => rfl).step
  | getOrCreate id recipe =>
    obtain rfl := hop _ rfl
    exact ((matches_getOrCreate ht hfresh).reply (f := .creation) fun _ => rfl).step
  | remove id reason =>
    obtain rfl := hop _ rfl
    exact ((matches_remove ht reason).reply (f := .found) fun _ => rfl).step
  | removeIf id reason check =>
    obtain rfl := hop _ rfl
    exact ((matches_removeIf ht reason check).reply (f := .removal) fun _ => rfl).step
  | removeSilently id =>
    obtain rfl := hop _ rfl
    exact ((matches_removeSilently ht).reply (f := .found) fun _ => rfl).step
  | touch id =>
    obtain rfl := hop _ rfl
    exact ((matches_touch ht).reply (f := .known) fun _ => rfl).step
  | recordSequence id m =>
    obtain rfl := hop _ rfl
    exact ((matches_recordSequence ht m).reply (f := .sequence) fun _ => rfl).step
  | sweep asOf limit => exact ⟨hsilent, ht.abreast_sweep hk hk' now asOf limit⟩
  | openLink l =>
    have hsize : ∀ h : Hub, (h.step now (.openLink l)).links.size = h.links.size + 1 := fun h => Array.size_push _
    refine ⟨fun _ => ?_, ht.atom now (.openLink l) (.openLink l) rfl rfl ht.observers, rfl, ?_⟩
    · exact congrArg Reply.link (hfresh.link (hsize h ▸ Nat.lt_succ_self _)).symm
    · have hsize' := hsize h'
      have hsize := hsize h
      change (h'.step now (.openLink l)).links.size + _ = _
      omega
  | send link size | close link =>
    refine ⟨hsilent, .calm (ht.atom now (.setLink _ _) (.setLink _ _) rfl rfl ht.observers) rfl rfl ?_ ?_⟩
    · exact Array.size_setIfInBounds
    · exact Array.size_setIfInBounds
  | alter link l =>
    refine ⟨fun _ => rfl, .calm (ht.atom now (.setLink _ _) (.setLink _ _) rfl rfl ht.observers) rfl rfl ?_ ?_⟩
    · exact Array.size_setIfInBounds
    · exact Array.size_setIfInBounds
  | addObserver o =>
    refine ⟨fun _ => rfl, .calm (ht.atom now (.addObserver o) (.addObserver o) rfl rfl ?_) rfl rfl rfl rfl⟩
    simp [Hub.atom, Hub.addObserver, ht.observers]
  | addTally =>
    refine ⟨hsilent, .calm (ht.atom now .addTally .addTally rfl rfl ?_) rfl rfl rfl rfl⟩
    simp [Hub.atom, Hub.addTally, ht.observers]
  | takeTally k =>
    exact ⟨hsilent, .calm (ht.atom now (.takeTally k) (.takeTally k) rfl rfl ht.observers) rfl rfl rfl rfl⟩
  | addWatcher w =>
    exact ⟨fun _ => rfl, .calm (ht.atom now (.addWatcher w) (.addWatcher w) rfl rfl ht.observers) rfl rfl rfl rfl⟩
  | log line =>
    exact ⟨fun _ => rfl, .calm (ht.atom now (.log line) (.log line) rfl rfl ht.observers) rfl rfl rfl rfl⟩
  | report k load =>
    have htaken : Twins ν x (h.atom now (.takeTally k)) (h'.atom now (.takeTally k)) :=
      ht.atom now (.takeTally k) (.takeTally k) rfl rfl ht.observers
    have hreported := htaken.atom now (.report load.alarm (h.takeTally k).1)
      (.report load.alarm (h'.takeTally k).1) rfl rfl htaken.observers
    refine ⟨hsilent, ?_⟩
    rw [show ν.op (.report k load) = .report k load from rfl, step_report, step_report]
    exact .calm hreported rfl rfl rfl rfl
  | sweepOver | reportActive | reportInactive => exact hregular.elim

end Hub

end Liveness
