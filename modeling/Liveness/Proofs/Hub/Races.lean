import Liveness.Proofs.Hub.Churn
import Liveness.Race
import Mathlib.Data.List.Dedup

/-!
# Races come to the same in every order

Calls of several callers take effect in some order that keeps the calls of each in theirs
(`Merge`).  After any number of calls the registry is a stock: it holds the devices that
were made and have not been removed, one at most for each id, and each was announced once
when it came and once when it went (`RaceCall.Stock`).  So what all calls come to can be
told from the ids alone (`RaceCall.totals_of_merge`).
-/

namespace Liveness

/-- An order for the calls of several callers, each of whom makes one call after the other. -/
inductive Merge {α : Type} : List (List α) → List α → Prop
  | done {callers : List (List α)} : (∀ calls ∈ callers, calls = []) → Merge callers []
  | next {callers : List (List α)} (k : Nat) {call : α} {later order : List α} :
    callers[k]? = some (call :: later) → Merge (callers.set k later) order → Merge callers (call :: order)

/-- Every call takes effect once. -/
theorem Merge.perm {α : Type} {callers : List (List α)} {order : List α} (h : Merge callers order) :
    order.Perm callers.flatten := by
  induction h with
  | done hdone => rw [List.flatten_eq_nil_iff.mpr hdone]
  | @next callers k call later order hk _ ih =>
    obtain ⟨hlt, hget⟩ := List.getElem?_eq_some_iff.mp hk
    have hcallers : callers.flatten =
        (callers.take k).flatten ++ call :: (later ++ (callers.drop (k + 1)).flatten) := by
      conv_lhs => rw [← List.take_append_drop k callers, ← List.getElem_cons_drop hlt, hget]
      simp
    have hset : (callers.set k later).flatten =
        (callers.take k).flatten ++ (later ++ (callers.drop (k + 1)).flatten) := by
      rw [List.set_eq_take_append_cons_drop, if_pos hlt]
      simp
    rw [hcallers]
    exact ((hset ▸ ih).cons call).trans List.perm_middle.symm

namespace RaceCall

/-- The id that a call is about. -/
def id : RaceCall → DeviceId
  | .create id | .remove id => id

/-- The device that a call answers. -/
def reply (h : Hub) : RaceCall → Option Device
  | .create id =>
    match (h.getOrCreate 0 id (.makeOnNewLink id [])).1 with
    | .found d | .made d => some d
    | _ => none
  | .remove id => (h.remove 0 id .explicit).1

/-- The devices that calls answer one after the other. -/
def replies : Hub × RaceTotals → List RaceCall → List (Option Device)
  | _, [] => []
  | x, c :: cs => c.reply x.1 :: replies (apply x c) cs

/-- What observers are told when a device comes that replaces none. -/
def came (d : Device) : Movement := .told (.added d.id d none) true

/-- What observers are told when a device is removed. -/
def went (d : Device) : Movement := .told (.removed d.id d .explicit) false

/-- A hub on which some devices were made, one at most for each id, and some of them have been removed. -/
structure Stock (made gone : List Device) (h : Hub) : Prop where
  keeps : h.Keeps 0 0
  get? : ∀ id, h.registry.get? id = if id ∈ gone.map Device.id then none else made.find? (·.id == id)
  size : h.registry.size + gone.length = made.length
  told : h.told 0 = made.map came ++ gone.map went
  tally : h.tallies[0]? = some (.ofNotices ((made.map came ++ gone.map went).filterMap Movement.notice?))
  ids : (made.map Device.id).Nodup
  serials : (made.map Device.serial).Nodup
  stored : ∀ d ∈ made, d.serial ≤ h.registry.stored
  links : h.links.size = made.length
  nodup : (gone.map Device.id).Nodup
  subset : gone ⊆ made

variable {made gone : List Device} {h : Hub} {id : DeviceId} {d : Device} {t : RaceTotals}

theorem stock_start : Stock [] [] ({} : Hub).addTally.2 where
  keeps := Hub.keeps_addTally (h := {}) ⟨by simp [Hub.parts], by simp [Hub.parts], by simp [Hub.parts]⟩
  get? := fun id => by simp [Hub.addTally]
  size := rfl
  told := rfl
  tally := rfl
  ids := .nil
  serials := .nil
  stored := nofun
  links := rfl
  nodup := .nil
  subset := List.nil_subset []

/-- A notice to a stock. -/
theorem Stock.announce (hs : Stock made gone h) (r : Registry) (n : Notice) (links : Array Link) (now : Int) :
    let h' := { h with registry := r, links }.announce now n
    h'.Keeps 0 0 ∧ h'.registry = r ∧ h'.links = links ∧ h'.told 0 = h.told 0 ++ [.told n (r.contains n.id)] ∧
      h'.tallies[0]? = (h.tallies[0]?).map (·.count n) := by
  intro h'
  have hk : Hub.Keeps 0 0 { h with registry := r, links } := hs.keeps.of_eq rfl rfl
  have hquiet : Hub.Undisturbed { h with registry := r, links } h' := Hub.undisturbed_announce _
  refine ⟨hk.of_eq (Hub.parts_announce _ n).1 (Hub.parts_announce _ n).2, hquiet.registry, hquiet.links, ?_,
    Hub.tallies_announce hk n⟩
  exact Hub.told_announce (hk.lt_observers (Nat.le_refl 0))

/-- A device comes that replaces none. -/
theorem Stock.store (hs : Stock made [] h) (hd : made.find? (·.id == id) = none) (l : Link) {link : LinkId} :
    let links := h.links.push l
    let p : Profile := { id, link }
    let d := (h.registry.store id p 0).1
    Stock (made ++ [d]) []
      ({ h with registry := (h.registry.store id p 0).2.2, links }.announce 0 (.added id d none)) := by
  intro links p d
  obtain ⟨hkeeps, hregistry, hlinks, htold, htally⟩ :=
    hs.announce (h.registry.store id p 0).2.2 (.added id d none) links 0
  have hnew : ∀ d' ∈ made, d'.id ≠ id := by simpa using hd
  have hpresent : (h.registry.store id p 0).2.2.contains (Notice.added id d none).id = true := by
    simp [Registry.contains_eq_isSome, Registry.get?_store, Notice.id]
  refine { keeps := hkeeps, get? := fun id' => ?_, size := ?_, told := ?_, tally := ?_, ids := ?_, serials := ?_,
           stored := fun d' hd' => ?_, links := by simp [hlinks, links, hs.links], nodup := .nil,
           subset := List.nil_subset _ }
  · rw [hregistry, Registry.get?_store, List.find?_append, hs.get?]
    by_cases hid : id = id'
    · subst hid
      simp [hd, d, p, Registry.store, Device.appear]
    · simp [hid, d, p, Registry.store, Device.appear]
  · have hcontains : h.registry.entries.contains id = false := by
      have hget : h.registry.get? id = none := (hs.get? id).trans hd
      have hsome := h.registry.contains_eq_isSome id
      rwa [hget] at hsome
    have hsize : (h.registry.store id p 0).2.2.size = h.registry.size + 1 :=
      Std.ExtTreeMap.size_insert.trans (if_neg (by simp [hcontains]))
    rw [hregistry, hsize, List.length_append, ← hs.size]
    rfl
  · rw [htold, hs.told, hpresent]
    simp [came, d, p, Registry.store, Device.appear]
  · rw [htally, hs.tally]
    simp [came, Movement.notice?, Churn.ofNotices, d, p, Registry.store, Device.appear]
  · simp only [List.map_append, List.map_cons, List.map_nil, List.nodup_append', hs.ids, true_and]
    simpa [d, p, Registry.store, Device.appear] using hnew
  · have hlt : ∀ d' ∈ made, d'.serial ≠ h.registry.stored + 1 := fun d' hd' => by
      have := hs.stored d' hd'
      omega
    simp only [List.map_append, List.map_cons, List.map_nil, List.nodup_append', hs.serials, true_and]
    simpa [d, p, Registry.store, Device.appear] using hlt
  · rw [hregistry]
    rcases List.mem_append.mp hd' with hd' | hd'
    · exact Nat.le_succ_of_le (hs.stored d' hd')
    · rw [List.mem_singleton.mp hd']
      exact Nat.le_refl _

/-- A device goes that was made and had not gone. -/
theorem Stock.erase (hs : Stock made gone h) (hd : h.registry.get? id = some d) :
    d.id = id ∧ d ∈ made ∧
      Stock made (gone ++ [d])
        ({ h with registry := h.registry.erase id }.announce 0 (.removed id d .explicit)) := by
  obtain ⟨hkeeps, hregistry, hlinks, htold, htally⟩ :=
    hs.announce (h.registry.erase id) (.removed id d .explicit) h.links 0
  have hfound : id ∉ gone.map Device.id ∧ made.find? (·.id == id) = some d := by
    have hget := hs.get? id
    rw [hd] at hget
    split at hget
    · cases hget
    · exact ⟨‹_›, hget.symm⟩
  have hid : d.id = id := by simpa using List.find?_some hfound.2
  have hmade : d ∈ made := List.mem_of_find?_eq_some hfound.2
  have habsent : (h.registry.erase id).contains (Notice.removed id d .explicit).id = false := by
    simp [Registry.contains_eq_isSome, Registry.get?_erase, Notice.id]
  refine ⟨hid, hmade, hkeeps, fun id' => ?_, ?_, ?_, ?_, hs.ids, hs.serials, by rw [hregistry]; exact hs.stored,
    by rw [hlinks]; exact hs.links, ?_, ?_⟩
  · rw [hregistry, Registry.get?_erase, hs.get?]
    by_cases heq : id = id'
    · simp [heq, hid]
    · simp [heq, hid, Ne.symm heq]
  · have hsize : (h.registry.erase id).size + 1 = h.registry.size := Hub.size_erase hd
    rw [hregistry, ← hs.size, ← hsize, List.length_append, List.length_singleton]
    omega
  · rw [htold, hs.told, habsent]
    simp [went, hid]
  · rw [htally, hs.tally]
    simp [went, hid, Movement.notice?, Churn.ofNotices]
  · simp only [List.map_append, List.map_cons, List.map_nil, List.nodup_append', hs.nodup, true_and]
    simpa [hid] using hfound.1
  · exact List.append_subset.mpr ⟨hs.subset, by simpa using hmade⟩

/-! ## One call -/

theorem Stock.create_of_some (hs : Stock made [] h) (hd : made.find? (·.id == id) = some d) :
    apply (h, t) (.create id) = (h, { t with got := t.got + 1 }) ∧ reply h (.create id) = some d := by
  have hget : h.registry.get? id = some d := (hs.get? id).trans hd
  simp [apply, reply, Hub.getOrCreate, hget]

theorem Stock.create_of_none (hs : Stock made [] h) (hd : made.find? (·.id == id) = none) :
    ∃ d h', d.id = id ∧ apply (h, t) (.create id) = (h', { t with made := t.made + 1, got := t.got + 1 }) ∧
      reply h (.create id) = some d ∧ Stock (made ++ [d]) [] h' := by
  have hget : h.registry.get? id = none := (hs.get? id).trans hd
  let links := h.links.push (.counting {})
  let p : Profile := { id, link := h.links.size }
  let d := (h.registry.store id p 0).1
  let h' := { h with registry := (h.registry.store id p 0).2.2, links }.announce 0 (.added id d none)
  have hcreate : h.getOrCreate 0 id (.makeOnNewLink id []) = (.made d, h') := by
    rw [Hub.getOrCreate_of_none h _ hget]
    simp only [Hub.create, Hub.openLink, Hub.storeAs, hget, Registry.store]
    rfl
  exact ⟨d, h', rfl, by simp [apply, hcreate], by simp [reply, hcreate], hs.store hd (.counting {})⟩

theorem remove_of_none (hd : h.registry.get? id = none) : apply (h, t) (.remove id) = (h, t) := by
  simp [apply, Hub.remove, Hub.removeIf, hd]

theorem remove_of_some (hd : h.registry.get? id = some d) :
    apply (h, t) (.remove id) =
      ({ h with registry := h.registry.erase id }.announce 0 (.removed id d .explicit),
        { t with removed := t.removed + 1 }) := by
  simp [apply, Hub.remove, Hub.removeIf, hd]

/-! ## Many calls -/

/-- Whoever asks for devices first makes those that are missing, and all are answered by what there is in the end. -/
theorem Stock.create_all (hs : Stock made [] h) (order : List DeviceId) :
    ∃ new h', (order.map create).foldl apply (h, t) =
        (h', { t with made := t.made + new.length, got := t.got + order.length }) ∧
      Stock (made ++ new) [] h' ∧
      (∀ id, id ∈ (made ++ new).map Device.id ↔ id ∈ made.map Device.id ∨ id ∈ order) ∧
      replies (h, t) (order.map create) = order.map fun id => (made ++ new).find? (·.id == id) := by
  induction order generalizing h made t with
  | nil => exact ⟨[], h, by simp, by simpa using hs, by simp, rfl⟩
  | cons id order ih =>
    cases hd : made.find? (·.id == id) with
    | some d =>
      obtain ⟨happly, hreply⟩ := hs.create_of_some (t := t) hd
      obtain ⟨new, h', hfold, hs', hids, hreplies⟩ := ih (t := { t with got := t.got + 1 }) hs
      have hid : id ∈ made.map Device.id :=
        List.mem_map.mpr ⟨d, List.mem_of_find?_eq_some hd, by simpa using List.find?_some hd⟩
      refine ⟨new, h', ?_, hs', fun id' => ?_, ?_⟩
      · rw [List.map_cons, List.foldl_cons, happly, hfold, List.length_cons]
        simp [Nat.add_assoc, Nat.add_comm 1]
      · rw [hids, List.mem_cons]
        constructor
        · rintro (hid' | hid')
          · exact .inl hid'
          · exact .inr (.inr hid')
        · rintro (hid' | rfl | hid')
          · exact .inl hid'
          · exact .inl hid
          · exact .inr hid'
      · rw [List.map_cons, replies, happly, hreply, hreplies, List.map_cons, List.find?_append, hd, Option.some_or]
    | none =>
      obtain ⟨d, h₁, hid, happly, hreply, hs₁⟩ := hs.create_of_none (t := t) hd
      obtain ⟨new, h', hfold, hs', hids, hreplies⟩ := ih (t := { t with made := t.made + 1, got := t.got + 1 }) hs₁
      have hnew : made ++ [d] ++ new = made ++ d :: new := by simp
      rw [hnew] at hs' hids hreplies
      refine ⟨d :: new, h', ?_, hs', fun id' => ?_, ?_⟩
      · rw [List.map_cons, List.foldl_cons, happly, hfold]
        simp [Nat.add_assoc, Nat.add_comm 1]
      · rw [hids, List.map_append, List.mem_append, List.map_singleton, List.mem_singleton, hid, List.mem_cons, or_assoc]
      · rw [List.map_cons, replies, happly, hreply, hreplies, List.map_cons, List.find?_append, hd, Option.none_or,
          List.find?_cons_of_pos (by simpa using hid)]

/-- Whoever removes devices first gets those that are left. -/
theorem Stock.remove_all (hs : Stock made gone h) (order : List DeviceId) :
    ∃ more h', (order.map remove).foldl apply (h, t) = (h', { t with removed := t.removed + more.length }) ∧
      Stock made (gone ++ more) h' ∧
      ∀ d ∈ made, d.id ∈ (gone ++ more).map Device.id ↔ d.id ∈ gone.map Device.id ∨ d.id ∈ order := by
  induction order generalizing h gone t with
  | nil => exact ⟨[], h, by simp, by simpa using hs, by simp⟩
  | cons id order ih =>
    cases hd : h.registry.get? id with
    | none =>
      obtain ⟨more, h', hfold, hs', hgone⟩ := ih (t := t) hs
      refine ⟨more, h', ?_, hs', fun d hmade => ?_⟩
      · rw [List.map_cons, List.foldl_cons, remove_of_none hd, hfold]
      · have hfound : d.id = id → d.id ∈ gone.map Device.id := by
          rintro rfl
          have hget := (hs.get? d.id).symm.trans hd
          split at hget
          · assumption
          · simpa using List.find?_eq_none.mp hget d hmade
        rw [hgone d hmade, List.mem_cons, ← or_assoc, or_iff_left_of_imp hfound]
    | some d =>
      obtain ⟨hid, -, hs₁⟩ := hs.erase hd
      obtain ⟨more, h', hfold, hs', hgone⟩ := ih (t := { t with removed := t.removed + 1 }) hs₁
      have hmore : gone ++ [d] ++ more = gone ++ d :: more := by simp
      rw [hmore] at hs' hgone
      refine ⟨d :: more, h', ?_, hs', fun d' hmade => ?_⟩
      · rw [List.map_cons, List.foldl_cons, remove_of_some hd, hfold]
        simp [Nat.add_assoc, Nat.add_comm 1]
      · rw [hgone d' hmade, List.map_append, List.mem_append, List.map_singleton, List.mem_singleton, hid, List.mem_cons,
          or_assoc]

/-- Devices that come and go are counted apart. -/
theorem ofNotices_came_went (made gone : List Device) :
    Churn.ofNotices ((made.map came ++ gone.map went).filterMap Movement.notice?) =
      { added := .ofNat made.length, removed := .ofNat gone.length } := by
  have hcame : ∀ (ds : List Device) (c : Churn), ((ds.map came).filterMap Movement.notice?).foldl Churn.count c =
      { c with added := c.added + .ofNat ds.length } := by
    intro ds
    induction ds with
    | nil => simp
    | cons d ds ih =>
      intro c
      rw [List.map_cons, List.filterMap_cons_some (rfl : (came d).notice? = some _), List.foldl_cons, ih]
      simp [Churn.count, UInt64.ofNat_add, UInt64.add_assoc, UInt64.add_comm 1]
  have hwent : ∀ (ds : List Device) (c : Churn), ((ds.map went).filterMap Movement.notice?).foldl Churn.count c =
      { c with removed := c.removed + .ofNat ds.length } := by
    intro ds
    induction ds with
    | nil => simp
    | cons d ds ih =>
      intro c
      rw [List.map_cons, List.filterMap_cons_some (rfl : (went d).notice? = some _), List.foldl_cons, ih]
      simp [Churn.count, UInt64.ofNat_add, UInt64.add_assoc, UInt64.add_comm 1]
  rw [Churn.ofNotices, List.filterMap_append, List.foldl_append, hcame, hwent]
  simp

/-- Calls in any order are those of some ids. -/
theorem eq_map_of_perm {f : DeviceId → RaceCall} (hf : ∀ id, (f id).id = id) {calls : List RaceCall}
    {order : List DeviceId} (h : calls.Perm (order.map f)) :
    calls = (calls.map RaceCall.id).map f ∧ (calls.map RaceCall.id).Perm order := by
  constructor
  · rw [List.map_map]
    refine (List.map_id' calls).symm.trans (List.map_congr_left fun c hc => ?_)
    obtain ⟨id, -, rfl⟩ := List.mem_map.mp (h.mem_iff.mp hc)
    rw [Function.comp_apply, hf]
  · have hids := h.map RaceCall.id
    rwa [List.map_map, show RaceCall.id ∘ f = (fun id => id) from funext hf, List.map_id'] at hids

/-- What some calls come to on a registry that counts its changes, by the ids that they were about: the first
of them asked for devices, and the others removed them. -/
structure Comes (ids : List DeviceId) (creates removals : List RaceCall) (devices left : List Device) : Prop where
  /-- A device for each id. -/
  ids : (devices.map Device.id).Perm ids.dedup
  serials : (devices.map Device.serial).Nodup
  /-- Who asks for a device gets the one that stands for its id. -/
  replies : replies (run []) creates = creates.map fun c => devices.find? (·.id == c.id)
  answered : ∀ c ∈ creates, (devices.find? (·.id == c.id)).isSome
  /-- The maker runs once for each device, and a removal that answers takes one device away. -/
  totals : (run (creates ++ removals)).2 = { made := devices.length, got := creates.length, removed := left.length }
  links : (run (creates ++ removals)).1.links.size = devices.length
  /-- Each device comes once and replaces none, and each that is removed goes once. -/
  told : (run (creates ++ removals)).1.told 0 = devices.map came ++ left.map went
  tally : (run (creates ++ removals)).1.tallies[0]? =
    some { added := .ofNat devices.length, removed := .ofNat left.length }
  size : (run (creates ++ removals)).1.registry.size + left.length = devices.length

/-- Calls in two phases, in any order in each. -/
theorem comes_of_perm {order gone : List DeviceId} {creates removals : List RaceCall}
    (hcreates : creates.Perm (order.map create)) (hremovals : removals.Perm (gone.map remove)) :
    ∃ devices left, Comes order creates removals devices left ∧ left.Perm (devices.filter (·.id ∈ gone)) := by
  obtain ⟨hcalls, hids⟩ := eq_map_of_perm (fun _ => rfl) hcreates
  obtain ⟨hcalls', hids'⟩ := eq_map_of_perm (fun _ => rfl) hremovals
  obtain ⟨devices, h₁, hfold, hs, hmem, hreplies⟩ := stock_start.create_all (t := {}) (creates.map RaceCall.id)
  obtain ⟨left, h₂, hfold', hs', hgone⟩ :=
    hs.remove_all (t := { made := 0 + devices.length, got := 0 + (creates.map RaceCall.id).length })
      (removals.map RaceCall.id)
  rw [← hcalls] at hfold hreplies
  rw [← hcalls'] at hfold'
  have hrun : run (creates ++ removals) =
      (h₂, { made := devices.length, got := creates.length, removed := left.length }) := by
    rw [run, List.foldl_append, hfold]
    simpa using hfold'
  simp only [List.nil_append] at hmem hs hs' hreplies hgone
  refine ⟨devices, left, ⟨?_, hs.serials, ?_, fun c hc => ?_, ?_, ?_, ?_, ?_, ?_⟩, ?_⟩
  · refine (List.perm_ext_iff_of_nodup hs.ids (List.nodup_dedup order)).mpr fun id => ?_
    rw [hmem, List.mem_dedup, hids.mem_iff]
    simp
  · rw [List.map_map] at hreplies
    exact hreplies
  · obtain ⟨d, hd, hid⟩ := List.mem_map.mp ((hmem c.id).mpr (.inr (List.mem_map_of_mem hc)))
    exact List.find?_isSome.mpr ⟨d, hd, by simpa using hid⟩
  · rw [hrun]
  · rw [hrun]
    exact hs'.links
  · rw [hrun]
    exact hs'.told
  · rw [hrun]
    exact hs'.tally.trans (congrArg some (ofNotices_came_went devices left))
  · rw [hrun]
    exact hs'.size
  · refine (List.perm_ext_iff_of_nodup (.of_map _ hs'.nodup) (.filter _ (.of_map _ hs.ids))).mpr fun d => ?_
    have hid : d ∈ devices → (d.id ∈ left.map Device.id ↔ d.id ∈ gone) := fun hd =>
      (hgone d hd).trans (by simp [hids'.mem_iff])
    rw [List.mem_filter, decide_eq_true_iff]
    constructor
    · exact fun hd => ⟨hs'.subset hd, (hid (hs'.subset hd)).mp (List.mem_map_of_mem hd)⟩
    · rintro ⟨hd, hd'⟩
      obtain ⟨e, he, heq⟩ := List.mem_map.mp ((hid hd).mpr hd')
      exact List.inj_on_of_nodup_map hs.ids (hs'.subset he) hd heq ▸ he

/-- Several callers make all calls of a kind. -/
theorem perm_of_merge {n : Nat} {ids : List DeviceId} {f : DeviceId → RaceCall} {calls : List RaceCall}
    (h : Merge (List.replicate n (ids.map f)) calls) : calls.Perm ((List.replicate n ids).flatten.map f) := by
  simpa [List.map_flatten] using h.perm

theorem mem_flatten_replicate {n : Nat} (hn : 1 ≤ n) {ids : List DeviceId} {id : DeviceId} :
    id ∈ (List.replicate n ids).flatten ↔ id ∈ ids := by
  simp [List.mem_flatten, List.mem_replicate, Nat.ne_of_gt hn]

section Callers

variable {n : Nat} {ids : List DeviceId} {removes : Bool} {creates removals : List RaceCall}

/-- What several callers come to, of whom all ask for all ids, and all remove them if they are to. -/
theorem comes_of_callers (hn : 1 ≤ n) (hcreates : creates.Perm ((List.replicate n ids).flatten.map create))
    (hremovals : removals.Perm ((List.replicate (if removes then n else 0) ids).flatten.map remove)) :
    ∃ devices left, Comes ids creates removals devices left ∧ devices.length = ids.dedup.length ∧
      left.Perm (if removes then devices else []) := by
  obtain ⟨devices, left, hcomes, hleft⟩ := comes_of_perm hcreates hremovals
  have hids : (devices.map Device.id).Perm ids.dedup :=
    hcomes.ids.trans ((List.perm_ext_iff_of_nodup (List.nodup_dedup _) (List.nodup_dedup _)).mpr fun id => by
      rw [List.mem_dedup, List.mem_dedup, mem_flatten_replicate hn])
  refine ⟨devices, left, { hcomes with ids := hids }, by simpa using hids.length_eq, hleft.trans ?_⟩
  cases removes with
  | false => simp
  | true =>
    have hall : ∀ d ∈ devices, d.id ∈ (List.replicate n ids).flatten := fun d hd =>
      (mem_flatten_replicate hn).mpr (List.mem_dedup.mp (hids.mem_iff.mp (List.mem_map_of_mem hd)))
    simp only [if_true]
    rw [List.filter_eq_self.mpr (by simpa using hall)]

theorem totals_of_callers (hn : 1 ≤ n) (hcreates : creates.Perm ((List.replicate n ids).flatten.map create))
    (hremovals : removals.Perm ((List.replicate (if removes then n else 0) ids).flatten.map remove)) :
    (run (creates ++ removals)).2 = { made := ids.dedup.length, got := n * ids.length,
                                      removed := if removes then ids.dedup.length else 0 } := by
  obtain ⟨devices, left, hcomes, hk, hleft⟩ := comes_of_callers hn hcreates hremovals
  rw [hcomes.totals, hk, hleft.length_eq, hcreates.length_eq]
  cases removes <;> simp [hk]

/-- Callers that compete for the same devices come to the same in whichever order their calls take effect: one
device is made for each id and comes once, each call is answered by the one device that stands for its id, and
if all remove the devices then each goes once and none is left.  These are the totals of the callers one after
the other. -/
theorem totals_of_merge (hn : 1 ≤ n) (hcreates : Merge (List.replicate n (ids.map create)) creates)
    (hremovals : Merge (List.replicate (if removes then n else 0) (ids.map remove)) removals) :
    let k := ids.dedup.length
    let gone := if removes then k else 0
    let (hub, totals) := run (creates ++ removals)
    creates.length = n * ids.length ∧
    (∃ devices left, Comes ids creates removals devices left ∧ left.Perm (if removes then devices else [])) ∧
    totals = { made := k, got := n * ids.length, removed := gone } ∧
    hub.tallies[0]? = some { added := .ofNat k, removed := .ofNat gone } ∧
    hub.registry.size = k - gone ∧
    totals = (run (ofCallers n ids removes)).2 := by
  intro k gone
  have hcreates' := perm_of_merge hcreates
  have hremovals' := perm_of_merge hremovals
  have hofCallers : (run (ofCallers n ids removes)).2 = { made := k, got := n * ids.length, removed := gone } := by
    refine totals_of_callers hn (.of_eq (by simp [List.map_flatten])) (.of_eq ?_)
    cases removes <;> simp [List.map_flatten]
  obtain ⟨devices, left, hcomes, hk, hleft⟩ := comes_of_callers hn hcreates' hremovals'
  have hlength : left.length = gone := by
    rw [hleft.length_eq]
    cases removes <;> simp [gone, k, hk]
  have htotals := totals_of_callers hn hcreates' hremovals'
  refine ⟨?_, ⟨devices, left, hcomes, hleft⟩, htotals, ?_, ?_, htotals.trans hofCallers.symm⟩
  · simpa using hcreates'.length_eq
  · have htally := hcomes.tally
    rw [hk, hlength] at htally
    exact htally
  · have hsize := hcomes.size
    rw [hk, hlength] at hsize
    exact Nat.eq_sub_of_add_eq hsize

/-- Two callers ask for the same peer twice, and get in between each other. -/
theorem totals_of_merge_two_callers :
    let creates := ["a", "a", "b", "b", "a", "a"].map create
    let removals := ["a", "b", "a", "b", "a", "a"].map remove
    Merge (List.replicate 2 (["a", "b", "a"].map create)) creates ∧
    Merge (List.replicate 2 (["a", "b", "a"].map remove)) removals ∧
    (run (creates ++ removals)).2 = { made := 2, got := 6, removed := 2 } ∧
    (run (creates ++ removals)).1.registry.size = 0 := by
  intro creates removals
  have hcreates : Merge (List.replicate 2 (["a", "b", "a"].map create)) creates :=
    .next 0 rfl (.next 1 rfl (.next 1 rfl (.next 0 rfl (.next 0 rfl (.next 1 rfl (.done (by simp)))))))
  have hremovals : Merge (List.replicate 2 (["a", "b", "a"].map remove)) removals :=
    .next 1 rfl (.next 1 rfl (.next 0 rfl (.next 0 rfl (.next 1 rfl (.next 0 rfl (.done (by simp)))))))
  have hboth : Merge (List.replicate (if true then 2 else 0) (["a", "b", "a"].map remove)) removals := hremovals
  have htotals := totals_of_merge (by decide) hcreates hboth
  exact ⟨hcreates, hremovals, htotals.2.2.1, htotals.2.2.2.2.1⟩

end Callers

end RaceCall

end Liveness
