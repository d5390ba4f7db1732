import Liveness.Proofs.Hub.Churn
import Liveness.Proofs.Hub.Keys
import Mathlib.Logic.Function.Iterate

/-!
# One sweep, exactly

Where every device is under its own id, a sweep comes down to evicting the devices
that have expired, one after the other (`Hub.foldl_sweepDevice`).  `Hub.Sheds` says all that
this changes, so `Hub.sweep_exact` can say what becomes of the registry, what is told, which
connections are asked to close, and what the report counts, in whatever order the
devices are gone over.
-/

namespace Liveness

/-! ## Connections that are closed in turn -/

/-- Connections are asked to close one after the other: their answers, and the connections afterwards. -/
def closeAll : Array Link → List LinkId → List Delivery × Array Link
  | links, [] => ([], links)
  | links, i :: is =>
    let (answer, l) := ((links[i]?).getD (.bare false)).close
    let (answers, links) := closeAll (links.setIfInBounds i l) is
    (answer :: answers, links)

/-- What one more connection that was asked to close adds to a report. -/
def SweepReport.count (report : SweepReport) : Delivery → SweepReport
  | .ok _ => { report with evicted := report.evicted + 1 }
  | .error _ => { report with evicted := report.evicted + 1, closeFailures := report.closeFailures + 1 }

variable {links : Array Link} {is is' : List LinkId}

/-- Each connection is asked to close as often as it stands in the list. -/
theorem getElem?_closeAll (links : Array Link) (is : List LinkId) (i : LinkId) :
    (closeAll links is).2[i]? = (links[i]?).map ((fun l : Link => l.close.2)^[is.count i]) := by
  induction is generalizing links with
  | nil => simp [closeAll]
  | cons j is ih =>
    simp only [closeAll, ih]
    by_cases hij : j = i
    · subst j
      rw [List.count_cons_self, Function.iterate_succ, Array.getElem?_setIfInBounds_self]
      cases hl : links[i]? with
      | none => rw [if_neg (Nat.not_lt.mpr (Array.getElem?_eq_none_iff.mp hl)), Option.map_none, Option.map_none]
      | some l =>
        rw [if_pos (Array.getElem?_eq_some_iff.mp hl).1]
        rfl
    · rw [List.count_cons_of_ne hij, Array.getElem?_setIfInBounds_ne hij]

theorem length_closeAll (links : Array Link) (is : List LinkId) : (closeAll links is).1.length = is.length := by
  induction is generalizing links with
  | nil => rfl
  | cons i is ih =>
    rw [closeAll]
    exact congrArg (· + 1) (ih _)

/-- The order in which connections are asked to close does not matter, not even for those asked twice. -/
theorem closeAll_perm (hperm : is.Perm is') (links : Array Link) :
    (closeAll links is).1.Perm (closeAll links is').1 ∧ (closeAll links is).2 = (closeAll links is').2 := by
  induction hperm generalizing links with
  | nil => exact ⟨.refl _, rfl⟩
  | cons i _ ih =>
    simp only [closeAll]
    exact ⟨(ih _).1.cons _, (ih _).2⟩
  | swap i j is =>
    by_cases hij : i = j
    · subst i
      exact ⟨.refl _, rfl⟩
    · simp only [closeAll, Array.getElem?_setIfInBounds_ne hij, Array.getElem?_setIfInBounds_ne (Ne.symm hij),
        Array.setIfInBounds_comm _ _ hij]
      exact ⟨.swap _ _ _, trivial⟩
  | trans _ _ ih₁ ih₂ => exact ⟨(ih₁ links).1.trans (ih₂ links).1, (ih₁ links).2.trans (ih₂ links).2⟩

theorem foldl_count (report : SweepReport) (answers : List Delivery) :
    answers.foldl SweepReport.count report =
      { report with
        evicted := report.evicted + answers.length
        closeFailures := report.closeFailures + answers.countP (!·.isOk) } := by
  induction answers generalizing report with
  | nil => rfl
  | cons answer answers ih =>
    rw [List.foldl_cons, ih]
    cases answer with
    | ok _ =>
      simp only [SweepReport.count, SweepReport.mk.injEq, List.length_cons, true_and]
      refine ⟨by omega, ?_⟩
      rw [List.countP_cons_of_neg (by simp [Except.isOk, Except.toBool])]
    | error e =>
      simp only [SweepReport.count, SweepReport.mk.injEq, List.length_cons, true_and]
      refine ⟨by omega, ?_⟩
      rw [List.countP_cons_of_pos (by simp [Except.isOk, Except.toBool])]
      omega

namespace Hub

variable {now asOf : Int} {limit : Span} {h h₁ h₂ h₃ : Hub} {d : Device} {gone gone' snapshot : List Device}

/-! ## Evictions -/

/-- A device is removed because it expired, and its connection is asked to close. -/
def evict (now asOf : Int) (h : Hub) (d : Device) : Hub := (h.atom now (.erase d.id .expired)).dismiss now asOf d

/-- The happenings at which the observers receive the notice that a device expired. -/
def expiries (now : Int) (observers : Nat) (d : Device) : List Stamped :=
  (List.range observers).map fun j => ⟨now, .observed j (.removed d.id d .expired) false⟩

/-- Devices have been evicted: all that this changes, but for lines in the log. -/
structure Sheds (now : Int) (gone : List Device) (h h' : Hub) : Prop where
  registry : h'.registry = gone.foldl (fun r d => r.erase d.id) h.registry
  channel : h'.channel = gone.foldl (fun c d => c.send (.removed d.id .expired)) h.channel
  links : h'.links = (closeAll h.links (gone.map (·.link))).2
  slots : h'.slots = h.slots
  watchers : h'.watchers = h.watchers
  observers : h'.observers.length = h.observers.length
  seen : ∀ {α : Type} {f : Stamped → Option α}, SkipsLog f →
    h'.seen f = h.seen f ++ (gone.flatMap (expiries now h.observers.length)).filterMap f

namespace Sheds

theorem refl (h : Hub) : Sheds now [] h h where
  registry := rfl
  channel := rfl
  links := rfl
  slots := rfl
  watchers := rfl
  observers := rfl
  seen := fun _ => by simp

theorem cons (h : Sheds now [d] h₁ h₂) (h' : Sheds now gone h₂ h₃) : Sheds now (d :: gone) h₁ h₃ where
  registry := by rw [h'.registry, h.registry]; rfl
  channel := by rw [h'.channel, h.channel]; rfl
  links := by rw [h'.links, h.links]; rfl
  slots := h'.slots.trans h.slots
  watchers := h'.watchers.trans h.watchers
  observers := h'.observers.trans h.observers
  seen := fun hf => by
    rw [h'.seen hf, h.seen hf, h.observers, List.append_assoc, ← List.filterMap_append]
    simp

end Sheds

theorem sheds_erase (now : Int) (hd : h.registry.get? d.id = some d) :
    let h' := h.atom now (.erase d.id .expired)
    h'.registry = h.registry.erase d.id ∧ h'.channel = h.channel.send (.removed d.id .expired) ∧ h'.links = h.links ∧
      h'.slots = h.slots ∧ h'.watchers = h.watchers ∧ h'.observers.length = h.observers.length ∧
      ∀ {α : Type} {f : Stamped → Option α}, SkipsLog f →
        h'.seen f = h.seen f ++ (expiries now h.observers.length d).filterMap f := by
  have hquiet : { h with registry := h.registry.erase d.id }.Undisturbed
      ({ h with registry := h.registry.erase d.id }.announce now (.removed d.id d .expired)) :=
    undisturbed_announce _
  have habsent : (h.registry.erase d.id).contains d.id = false := by
    rw [Registry.contains_eq_isSome, Registry.get?_erase, if_pos rfl]
    rfl
  intro h'
  have heq : h' = { h with registry := h.registry.erase d.id }.announce now (.removed d.id d .expired) :=
    atom_erase_of_some .expired hd
  rw [heq]
  refine ⟨hquiet.registry, channel_announce _ _, hquiet.links, hquiet.slots, hquiet.watchers, hquiet.observers, ?_⟩
  intro α f hf
  rw [hf.seen_announce, expiries, List.filterMap_map]
  simp only [Notice.id, habsent]
  rfl

theorem sheds_dismiss (h : Hub) (now asOf : Int) (d : Device) :
    let h' := h.dismiss now asOf d
    h'.registry = h.registry ∧ h'.channel = h.channel ∧ h'.links = (closeAll h.links [d.link]).2 ∧ h'.slots = h.slots ∧
      h'.watchers = h.watchers ∧ h'.observers = h.observers ∧
      ∀ {α : Type} {f : Stamped → Option α}, SkipsLog f → h'.seen f = h.seen f := by
  intro h'
  have hseen : ∀ {α : Type} {f : Stamped → Option α}, SkipsLog f →
      ((h.log now (.deviceExpired d.id (d.clock.idleFor asOf))).closeLink d.link).2.seen f = h.seen f := by
    intro α f hf
    exact hf.seen_log h _
  unfold h' dismiss
  split
  · rename_i hclose
    obtain rfl := (Prod.ext_iff.mp hclose).2
    exact ⟨rfl, rfl, rfl, rfl, rfl, rfl, hseen⟩
  · rename_i hclose
    obtain rfl := (Prod.ext_iff.mp hclose).2
    refine ⟨rfl, rfl, rfl, rfl, rfl, rfl, ?_⟩
    intro α f hf
    rw [hf.seen_log, hseen hf]

theorem sheds_evict (hd : h.registry.get? d.id = some d) (asOf : Int) : Sheds now [d] h (h.evict now asOf d) := by
  obtain ⟨hregistry, hchannel, hlinks, hslots, hwatchers, hobservers, hseen⟩ := sheds_erase now hd
  obtain ⟨hregistry', hchannel', hlinks', hslots', hwatchers', hobservers', hseen'⟩ :=
    sheds_dismiss (h.atom now (.erase d.id .expired)) now asOf d
  constructor
  · exact hregistry'.trans hregistry
  · exact hchannel'.trans hchannel
  · exact hlinks'.trans (by rw [hlinks]; rfl)
  · exact hslots'.trans hslots
  · exact hwatchers'.trans hwatchers
  · exact (congrArg List.length hobservers').trans hobservers
  · intro α f hf
    rw [List.flatMap_singleton, ← hseen hf]
    exact hseen' hf

/-- A device that has expired and is under its own id is evicted, and the answer of its connection is counted. -/
theorem sweepDevice_of_expired (hd : h.registry.get? d.id = some d) (hexpired : d.clock.isExpired asOf limit)
    (report : SweepReport) :
    sweepDevice now asOf limit (h, report) d =
      (h.evict now asOf d, report.count ((h.links[d.link]?).getD (.bare false)).close.1) := by
  have hdrop : h.removeIf now d.id .expired (fun current =>
      if current.serial = d.serial && current.clock.isExpired asOf limit then .drop else .keep) =
        (.removed d, h.atom now (.erase d.id .expired)) :=
    removeIf_drop h hd (by simp [hexpired])
  obtain ⟨-, -, hlinks, -⟩ := sheds_erase now hd
  simp only [sweepDevice, hexpired, hdrop, evict, dismiss, Bool.not_true, Bool.false_eq_true, if_false]
  have hanswer : (((h.atom now (.erase d.id .expired)).log now
      (.deviceExpired d.id (d.clock.idleFor asOf))).closeLink d.link).1 =
        ((h.links[d.link]?).getD (.bare false)).close.1 := by
    rw [← hlinks]
    rfl
  rw [← hanswer]
  split <;> rename_i hclose <;> rw [hclose] <;> rfl

theorem sweepDevice_of_fresh (hexpired : d.clock.isExpired asOf limit = false) (report : SweepReport) :
    sweepDevice now asOf limit (h, report) d = (h, report) := by
  simp [sweepDevice, hexpired]

/-! ## A whole sweep -/

/-- The devices of a list that have expired. -/
def expired (asOf : Int) (limit : Span) (ds : List Device) : List Device :=
  ds.filter fun d => d.clock.isExpired asOf limit

theorem expired_cons_of_pos {ds : List Device} (hexpired : d.clock.isExpired asOf limit) :
    expired asOf limit (d :: ds) = d :: expired asOf limit ds :=
  List.filter_cons_of_pos (p := fun d : Device => d.clock.isExpired asOf limit) hexpired

theorem expired_cons_of_neg {ds : List Device} (hexpired : ¬d.clock.isExpired asOf limit) :
    expired asOf limit (d :: ds) = expired asOf limit ds :=
  List.filter_cons_of_neg (p := fun d : Device => d.clock.isExpired asOf limit) hexpired

/-- Devices that are under their own ids and have expired go one after the other, and nothing else happens. -/
theorem foldl_sweepDevice (now asOf : Int) (limit : Span) {ds : List Device}
    (hds : ∀ d ∈ ds, h.registry.get? d.id = some d) (hids : (ds.map (·.id)).Nodup) (report : SweepReport) :
    let swept := ds.foldl (sweepDevice now asOf limit) (h, report)
    Sheds now (expired asOf limit ds) h swept.1 ∧
      swept.2 = (closeAll h.links ((expired asOf limit ds).map (·.link))).1.foldl SweepReport.count report := by
  induction ds generalizing h report with
  | nil => exact ⟨.refl h, rfl⟩
  | cons d ds ih =>
    have hd : h.registry.get? d.id = some d := hds d List.mem_cons_self
    rw [List.map_cons, List.nodup_cons] at hids
    obtain ⟨hnew, hids⟩ := hids
    rw [List.foldl_cons]
    by_cases hexpired : d.clock.isExpired asOf limit
    · have hsheds : Sheds now [d] h (h.evict now asOf d) := sheds_evict hd asOf
      have hrest : ∀ d' ∈ ds, (h.evict now asOf d).registry.get? d'.id = some d' := by
        intro d' hd'
        have hne : d.id ≠ d'.id := fun heq => hnew (heq ▸ List.mem_map_of_mem hd')
        rw [hsheds.registry]
        change (h.registry.erase d.id).get? d'.id = some d'
        rw [Registry.get?_erase, if_neg hne]
        exact hds d' (List.mem_cons_of_mem d hd')
      obtain ⟨hsheds', hreport⟩ := ih hrest hids (report.count ((h.links[d.link]?).getD (.bare false)).close.1)
      rw [sweepDevice_of_expired hd hexpired, expired_cons_of_pos hexpired]
      refine ⟨hsheds.cons hsheds', ?_⟩
      rw [hreport, hsheds.links]
      rfl
    · rw [sweepDevice_of_fresh (Bool.not_eq_true _ ▸ hexpired), expired_cons_of_neg hexpired]
      exact ih (fun d' hd' => hds d' (List.mem_cons_of_mem d hd')) hids report

/-- The registry without some devices that are under their own ids. -/
theorem get?_foldl_erase (r : Registry) (gone : List Device) (id : DeviceId) :
    (gone.foldl (fun r d => r.erase d.id) r).get? id = if id ∈ gone.map (·.id) then none else r.get? id := by
  induction gone generalizing r with
  | nil => simp
  | cons d gone ih =>
    rw [List.foldl_cons, ih, Registry.get?_erase]
    by_cases hid : d.id = id
    · simp [hid]
    · simp [hid, Ne.symm hid]

theorem stored_foldl_erase (r : Registry) (gone : List Device) :
    (gone.foldl (fun r d => r.erase d.id) r).stored = r.stored := by
  induction gone generalizing r with
  | nil => rfl
  | cons d gone ih =>
    rw [List.foldl_cons, ih]
    rfl

theorem size_foldl_erase {r : Registry} (hgone : ∀ d ∈ gone, r.get? d.id = some d) (hids : (gone.map (·.id)).Nodup) :
    (gone.foldl (fun r d => r.erase d.id) r).size + gone.length = r.size := by
  induction gone generalizing r with
  | nil => rfl
  | cons d gone ih =>
    rw [List.map_cons, List.nodup_cons] at hids
    have hrest : ∀ d' ∈ gone, (r.erase d.id).get? d'.id = some d' := by
      intro d' hd'
      have hne : d.id ≠ d'.id := fun heq => hids.1 (heq ▸ List.mem_map_of_mem hd')
      rw [Registry.get?_erase, if_neg hne]
      exact hgone d' (List.mem_cons_of_mem d hd')
    have hsize : (r.erase d.id).size + 1 = r.size := size_erase (hgone d List.mem_cons_self)
    rw [List.foldl_cons, List.length_cons, ← hsize, ← ih hrest hids.2]
    omega

theorem registry_ext {r r' : Registry} (hget : ∀ id, r.get? id = r'.get? id) (hstored : r.stored = r'.stored) :
    r = r' := by
  obtain ⟨entries, stored⟩ := r
  obtain ⟨entries', stored'⟩ := r'
  obtain rfl : stored = stored' := hstored
  obtain rfl : entries = entries' := Std.ExtTreeMap.ext_getElem? hget
  rfl

/-- What a snapshot of a registry whose devices are under their own ids holds. -/
theorem Keyed.spec_snapshot (hk : h.Keyed) (hsnapshot : snapshot.Perm h.registry.devices) :
    (∀ d, d ∈ snapshot ↔ h.registry.get? d.id = some d) ∧ (snapshot.map (·.id)).Nodup ∧
      snapshot.length = h.registry.size := by
  have hmem : ∀ d, d ∈ snapshot ↔ h.registry.get? d.id = some d := by
    intro d
    rw [hsnapshot.mem_iff, mem_devices]
    constructor
    · rintro ⟨id, hd⟩
      rwa [hk id d hd]
    · exact fun hd => ⟨d.id, hd⟩
  have hkeys : h.registry.devices.map (·.id) = h.registry.entries.toList.map Prod.fst := by
    rw [Registry.devices, values_eq_map_snd_toList, List.map_map]
    apply List.map_congr_left
    rintro ⟨id, d⟩ hd
    exact hk id d (Std.ExtTreeMap.mem_toList_iff_getElem?_eq_some.mp hd)
  refine ⟨hmem, ?_, ?_⟩
  · rw [(hsnapshot.map _).nodup_iff, hkeys]
    exact nodup_map_fst_toList _
  · rw [hsnapshot.length_eq, ← List.length_map (f := (·.id)), hkeys, List.length_map]
    exact Std.ExtTreeMap.length_toList

theorem sheds_sweepOver (hk : h.Keyed) (now asOf : Int) (limit : Span)
    (hsnapshot : snapshot.Perm h.registry.devices) :
    Sheds now (expired asOf limit snapshot) h (h.sweepOver now asOf limit snapshot).1 ∧
      (h.sweepOver now asOf limit snapshot).2 =
        { scanned := h.registry.size
          evicted := (expired asOf limit snapshot).length
          closeFailures :=
            (closeAll h.links ((expired asOf limit snapshot).map (·.link))).1.countP (!·.isOk) } := by
  obtain ⟨hmem, hids, hlength⟩ := hk.spec_snapshot hsnapshot
  obtain ⟨hsheds, hreport⟩ := foldl_sweepDevice now asOf limit (fun d hd => (hmem d).mp hd) hids
    { scanned := snapshot.length }
  refine ⟨hsheds, hreport.trans ?_⟩
  rw [foldl_count, length_closeAll, List.length_map, hlength]
  simp

theorem Sheds.told {i : Nat} (hs : Sheds now gone h h₁) (hi : i < h.observers.length) :
    h₁.told i = h.told i ++ gone.map expiry := by
  have hone : ∀ d, (expiries now h.observers.length d).filterMap (toldTo? i) = [expiry d] := by
    intro d
    have hself : ∀ j, toldTo? i ⟨now, .observed j (.removed d.id d .expired) false⟩ =
        if j = i then some (expiry d) else none := fun j => rfl
    rw [expiries, List.filterMap_map]
    refine (filterMap_range_pick hi fun j hj => (hself j).trans (if_neg hj)).trans ?_
    rw [hself, if_pos rfl]
    rfl
  rw [Hub.told, hs.seen skipsLog_toldTo?, ← Hub.told, List.filterMap_flatMap]
  simp only [hone]
  rw [List.map_eq_flatMap]

theorem Keyed.get?_sweepOver (hk : h.Keyed) (now asOf : Int) (limit : Span)
    (hsnapshot : snapshot.Perm h.registry.devices) (id : DeviceId) :
    (h.sweepOver now asOf limit snapshot).1.registry.get? id =
      (h.registry.get? id).filter fun d => !d.clock.isExpired asOf limit := by
  obtain ⟨hmem, -, -⟩ := hk.spec_snapshot hsnapshot
  rw [(sheds_sweepOver hk now asOf limit hsnapshot).1.registry, get?_foldl_erase]
  cases hd : h.registry.get? id with
  | none => simp
  | some d =>
    obtain rfl : d.id = id := hk id d hd
    have hgone : d.id ∈ (expired asOf limit snapshot).map (·.id) ↔ d.clock.isExpired asOf limit := by
      constructor
      · intro hin
        obtain ⟨d', hd', hid⟩ := List.mem_map.mp hin
        obtain ⟨hthere, hexpired⟩ := List.mem_filter.mp hd'
        have heq := (hmem d').mp hthere
        rw [hid, hd] at heq
        exact Option.some.inj heq ▸ hexpired
      · intro hexpired
        exact List.mem_map_of_mem (List.mem_filter.mpr ⟨(hmem d).mpr hd, hexpired⟩)
    rw [Option.filter_some]
    by_cases hexpired : d.clock.isExpired asOf limit
    · rw [if_pos (hgone.mpr hexpired), if_neg (by simp [hexpired])]
    · rw [if_neg (mt hgone.mp hexpired), if_pos (by simp [hexpired])]

/-- Sweeps in different orders come to the same. -/
theorem Keyed.sweepOver_perm (hk : h.Keyed) (now asOf : Int) (limit : Span) {snapshot' : List Device}
    (hsnapshot : snapshot.Perm h.registry.devices) (hsnapshot' : snapshot'.Perm h.registry.devices) :
    let swept := h.sweepOver now asOf limit snapshot
    let swept' := h.sweepOver now asOf limit snapshot'
    swept'.1.registry = swept.1.registry ∧ swept'.1.links = swept.1.links ∧ swept'.2 = swept.2 := by
  obtain ⟨hsheds, hreport⟩ := sheds_sweepOver hk now asOf limit hsnapshot
  obtain ⟨hsheds', hreport'⟩ := sheds_sweepOver hk now asOf limit hsnapshot'
  have hperm : (expired asOf limit snapshot').Perm (expired asOf limit snapshot) :=
    (hsnapshot'.trans hsnapshot.symm).filter _
  obtain ⟨hanswers, hlinks⟩ := closeAll_perm (hperm.map (·.link)) h.links
  refine ⟨registry_ext (fun id => ?_) ?_, ?_, ?_⟩
  · rw [hk.get?_sweepOver now asOf limit hsnapshot', hk.get?_sweepOver now asOf limit hsnapshot]
  · rw [hsheds'.registry, hsheds.registry, stored_foldl_erase, stored_foldl_erase]
  · rw [hsheds'.links, hsheds.links, hlinks]
  · rw [hreport', hreport, hanswers.countP_eq, hperm.length_eq]

/-- One sweep over a registry whose devices are all under their own ids, in any order, as of any instant and with
connections that answer in any way.  Just the appearances go that have been silent for strictly longer than the limit,
and all others stay as they are; every observer is told once of each that goes, that it expired, and of nothing else;
the connections of these, and no others, are asked to close, each once for every device that goes.  The report counts
the devices before the sweep, those that went, and the calls that failed.  Neither the registry nor the report nor the
connections depend on the order. -/
theorem sweep_exact (hk : h.Keyed) (hsnapshot : snapshot.Perm h.registry.devices) (now asOf : Int) (limit : Span) :
    let gone := snapshot.filter fun d => d.clock.lastSeen + limit.nanos < asOf
    let after := (h.sweepOver now asOf limit snapshot).1
    let report := (h.sweepOver now asOf limit snapshot).2
    let closed := closeAll h.links (gone.map (·.link))
    (∀ d, d ∈ gone ↔ h.registry.get? d.id = some d ∧ d.clock.lastSeen + limit.nanos < asOf) ∧
    (gone.map (·.id)).Nodup ∧
    (∀ id, after.registry.get? id =
      (h.registry.get? id).filter fun d => ¬d.clock.lastSeen + limit.nanos < asOf) ∧
    after.registry.stored = h.registry.stored ∧
    (∀ i < h.observers.length, after.told i = h.told i ++ gone.map expiry) ∧
    after.observers.length = h.observers.length ∧
    after.channel = gone.foldl (fun c d => c.send (.removed d.id .expired)) h.channel ∧
    after.slots = h.slots ∧ after.watchers = h.watchers ∧
    after.links = closed.2 ∧
    (∀ i, after.links[i]? = (h.links[i]?).map ((fun l : Link => l.close.2)^[(gone.map (·.link)).count i])) ∧
    report.scanned = h.registry.size ∧
    report.evicted = gone.length ∧ after.registry.size + report.evicted = h.registry.size ∧
    report.closeFailures = closed.1.countP (!·.isOk) ∧ closed.1.length = gone.length ∧
    ∀ snapshot', snapshot'.Perm h.registry.devices →
      (h.sweepOver now asOf limit snapshot').1.registry = after.registry ∧
      (h.sweepOver now asOf limit snapshot').1.links = after.links ∧
      (h.sweepOver now asOf limit snapshot').2 = report := by
  intro gone after report closed
  have hlate : ∀ d : Device, d.clock.isExpired asOf limit = decide (d.clock.lastSeen + limit.nanos < asOf) := by
    intro d
    rw [Bool.eq_iff_iff, decide_eq_true_iff, LastSeen.isExpired_iff]
  obtain ⟨hmem, hids, -⟩ := hk.spec_snapshot hsnapshot
  obtain ⟨hsheds, hreport⟩ := sheds_sweepOver hk now asOf limit hsnapshot
  have hexpired : expired asOf limit snapshot = gone := List.filter_congr fun d _ => hlate d
  rw [hexpired] at hsheds hreport
  have hgoes : ∀ d, d ∈ gone ↔ h.registry.get? d.id = some d ∧ d.clock.lastSeen + limit.nanos < asOf := by
    intro d
    rw [List.mem_filter, hmem, decide_eq_true_iff]
  have hgone : (gone.map (·.id)).Nodup := hids.sublist (List.filter_sublist.map _)
  have hsize : after.registry.size + gone.length = h.registry.size := by
    rw [hsheds.registry]
    exact size_foldl_erase (fun d hd => ((hgoes d).mp hd).1) hgone
  refine ⟨hgoes, hgone, fun id => ?_, ?_, fun i hi => hsheds.told hi, hsheds.observers, hsheds.channel, hsheds.slots,
    hsheds.watchers, hsheds.links, fun i => ?_, ?_, ?_, ?_, ?_, ?_, fun snapshot' hsnapshot' => ?_⟩
  · rw [hk.get?_sweepOver now asOf limit hsnapshot]
    congr 1
    funext d
    rw [hlate, decide_not]
  · rw [hsheds.registry, stored_foldl_erase]
  · rw [hsheds.links, getElem?_closeAll]
  · exact congrArg SweepReport.scanned hreport
  · exact congrArg SweepReport.evicted hreport
  · rwa [show report.evicted = gone.length from congrArg SweepReport.evicted hreport]
  · exact congrArg SweepReport.closeFailures hreport
  · rw [length_closeAll, List.length_map]
  · exact hk.sweepOver_perm now asOf limit hsnapshot hsnapshot'

/-- Two silent devices share a connection that does not close; a third one was heard of just now. -/
theorem sweep_exact_of_shared :
    let h := ({} : Hub).run [(0, .openLink (.counting { failsToClose := true })), (0, .put { id := "A", link := 0 }),
      (0, .put { id := "B", link := 0 }), (5, .put { id := "C", link := 0 })]
    let swept := h.sweepOver 5 5 (.ofMillis 0) h.registry.devices.reverse
    h.Keyed ∧ swept.2 = { scanned := 3, evicted := 2, closeFailures := 2 } ∧ swept.1.registry.size = 1 ∧
      swept.1.registry.get? "C" = h.registry.get? "C" := by
  intro h swept
  have hkeyed : h.Keyed := keyed_run (fun id d hd => by simp at hd) (by simp [Op.IsFaithful])
  obtain ⟨-, -, hget, -, -, -, -, -, -, -, -, hscanned, hevicted, hsize, hfailures, -⟩ :=
    sweep_exact hkeyed (List.reverse_perm h.registry.devices) 5 5 (.ofMillis 0)
  have htwo : swept.2.evicted = 2 := hevicted.trans (by decide +kernel)
  have hthree : h.registry.size = 3 := by decide +kernel
  refine ⟨hkeyed, ?_, ?_, ?_⟩
  · rw [SweepReport.mk.injEq]
    exact ⟨hscanned.trans hthree, htwo, hfailures.trans (by decide +kernel)⟩
  · have hsum : swept.1.registry.size + swept.2.evicted = 3 := hsize.trans hthree
    omega
  · have hfresh : (h.registry.get? "C").all (fun d => ¬d.clock.lastSeen + ((Span.ofMillis 0).nanos : Int) < 5) := by
      decide +kernel
    refine (hget "C").trans ?_
    cases hd : h.registry.get? "C" with
    | none => rfl
    | some d =>
      rw [hd] at hfresh
      exact Option.filter_some.trans (if_pos hfresh)

end Hub

end Liveness
