import Liveness.Proofs.Hub.Refresh
import Liveness.Proofs.Maps

/-!
# What a sweep takes away

A sweep removes the devices that are expired and stored under their own ids, no others,
and tells every observer of just these (`Hub.sweep_spec`).  Of a device that
expired nothing else is told, unless a caller removes one for that reason
(`Hub.movements_of_not_expires`).
-/

namespace Liveness

/-- The notice that a device expired. -/
def Movement.isExpiry : Movement → Bool
  | .told (.removed _ _ .expired) _ => true
  | _ => false

namespace Hub

/-- A call that may remove devices because they expired. -/
def Op.expires : Op → Bool
  | .sweep .. | .sweepOver .. | .remove _ .expired | .removeIf _ .expired _ => true
  | _ => false

variable {walk : Walk} {i : Nat} {now asOf : Int} {limit : Span} {h h₁ h₂ h₃ : Hub}

/-! ## Sweeps -/

/-- What an observer is told of a device that has expired. -/
def expiry (d : Device) : Movement := .told (.removed d.id d .expired) false

theorem expiry_inj {d d' : Device} (heq : expiry d = expiry d') : d = d' := by
  rw [expiry, expiry, Movement.told.injEq, Notice.removed.injEq] at heq
  exact heq.1.2.1

/-- Some devices have gone that were under their own ids, and every observer was told of each. -/
structure Loses (gone : List Device) (h h' : Hub) : Prop where
  there : ∀ d ∈ gone, h.registry.get? d.id = some d
  get? : ∀ id, h'.registry.get? id = if id ∈ gone.map (·.id) then none else h.registry.get? id
  observers : h'.observers.length = h.observers.length
  told : ∀ i, i < h.observers.length → h'.told i = h.told i ++ gone.map expiry

namespace Loses

variable {gone gone' : List Device}

theorem refl (h : Hub) : Loses [] h h where
  there := fun d hd => by cases hd
  get? := fun id => by simp
  observers := rfl
  told := fun i _ => by simp

theorem trans (h : Loses gone h₁ h₂) (h' : Loses gone' h₂ h₃) : Loses (gone ++ gone') h₁ h₃ where
  there := fun d hd => by
    rcases List.mem_append.mp hd with hd | hd
    · exact h.there d hd
    · have hthere := h'.there d hd
      rw [h.get?] at hthere
      split at hthere
      · cases hthere
      · exact hthere
  get? := fun id => by
    simp only [h'.get?, h.get?, List.map_append, List.mem_append]
    by_cases hid : id ∈ gone.map (·.id)
    · simp only [hid, true_or, if_true, ite_self]
    · simp only [hid, false_or, if_false]
  observers := h'.observers.trans h.observers
  told := fun i hi => by
    rw [h'.told i (h.observers ▸ hi), h.told i hi, List.map_append, List.append_assoc]

/-- The log and the links do not count. -/
theorem quietly (h : Loses gone h₁ h₂) (hregistry : h₃.registry = h₂.registry)
    (hobservers : h₃.observers = h₂.observers) (htold : ∀ i, h₃.told i = h₂.told i) : Loses gone h₁ h₃ where
  there := h.there
  get? := fun id => by rw [hregistry, h.get?]
  observers := by rw [hobservers, h.observers]
  told := fun i hi => by rw [htold, h.told i hi]

end Loses

theorem loses_erase {d : Device} (hd : h.registry.get? d.id = some d) :
    Loses [d] h (h.atom now (.erase d.id .expired)) := by
  have hquiet : { h with registry := h.registry.erase d.id }.Undisturbed
      ({ h with registry := h.registry.erase d.id }.announce now (.removed d.id d .expired)) :=
    undisturbed_announce _
  rw [atom_erase_of_some _ hd]
  refine ⟨?_, ?_, hquiet.observers, ?_⟩
  · intro d' hd'
    obtain rfl := List.mem_singleton.mp hd'
    exact hd
  · intro id
    simp only [hquiet.registry, Registry.get?_erase, List.map_singleton, List.mem_singleton, eq_comm]
  · intro i hi
    have habsent : (h.registry.erase d.id).contains d.id = false := by
      rw [Registry.contains_eq_isSome, Registry.get?_erase]
      simp
    rw [told_announce (h := { h with registry := h.registry.erase d.id }) hi]
    change _ ++ [Movement.told (.removed d.id d .expired) ((h.registry.erase d.id).contains d.id)] = _
    rw [habsent]
    rfl

theorem dismiss_quiet (h : Hub) (now asOf : Int) (d : Device) :
    (h.dismiss now asOf d).registry = h.registry ∧ (h.dismiss now asOf d).observers = h.observers ∧
      ∀ i, (h.dismiss now asOf d).told i = h.told i := by
  have hlog : ∀ (h : Hub) (line : LogLine) i, (h.log now line).told i = h.told i :=
    fun h line i => told_emit (by simp)
  unfold dismiss
  split
  · rename_i h' hclose
    obtain rfl := (Prod.ext_iff.mp hclose).2
    exact ⟨rfl, rfl, fun i => hlog h _ i⟩
  · rename_i e h' hclose
    obtain rfl := (Prod.ext_iff.mp hclose).2
    exact ⟨rfl, rfl, fun i => (hlog _ _ i).trans (hlog h _ i)⟩

/-- In the middle of a sweep: of the devices that were there at its start, some that expired have gone. -/
structure Sweeps (asOf : Int) (limit : Span) (gone : List Device) (h h' : Hub) : Prop extends Loses gone h h' where
  expired : ∀ d ∈ gone, d.clock.isExpired asOf limit

/-- The next device of a sweep goes if it has expired and is under its own id. -/
theorem sweeps_device {gone : List Device} (now : Int) (hn : h.census.Numbered) (hs : Sweeps asOf limit gone h h₁)
    {d : Device} {key : DeviceId} (hd : h.registry.get? key = some d) (report : SweepReport) :
    ∃ gone', Sweeps asOf limit gone' h (sweepDevice now asOf limit (h₁, report) d).1 ∧
      (∀ d' ∈ gone, d' ∈ gone') ∧
      (h.registry.get? d.id = some d → d.clock.isExpired asOf limit → d ∈ gone') := by
  by_cases he : ∃ current, h₁.Evicts asOf limit d current
  · obtain ⟨current, he⟩ := he
    have hevicts := he
    obtain ⟨hcurrent, hserial, hexpired, -⟩ := hevicts
    have hstart : h.registry.get? d.id = some current := by
      rw [hs.get?] at hcurrent
      split at hcurrent
      · cases hcurrent
      · exact hcurrent
    obtain rfl : key = d.id := serial_unique hn hd hstart hserial.symm
    obtain rfl : d = current := Option.some.inj (hd.symm.trans hstart)
    have hloses : Loses (gone ++ [d]) h (h₁.atom now (.erase d.id .expired)) :=
      hs.toLoses.trans (loses_erase hcurrent)
    obtain ⟨hregistry, hobservers, htold⟩ := dismiss_quiet (h₁.atom now (.erase d.id .expired)) now asOf d
    rw [sweepDevice_evict h₁ report he]
    refine ⟨gone ++ [d], ⟨hloses.quietly hregistry hobservers htold, fun d' hd' => ?_⟩,
      fun d' hd' => List.mem_append_left _ hd', fun _ _ => by simp⟩
    rcases List.mem_append.mp hd' with hd' | hd'
    · exact hs.expired d' hd'
    · obtain rfl := List.mem_singleton.mp hd'
      exact hexpired
  · rw [sweepDevice_spare h₁ report (not_exists.mp he)]
    refine ⟨gone, hs, fun _ => id, fun hown hexpired => ?_⟩
    have hnow := hs.get? d.id
    split at hnow
    · rename_i hmem
      obtain ⟨d', hd', hid⟩ := List.mem_map.mp hmem
      have hthere := hs.there d' hd'
      rw [hid, hown] at hthere
      exact Option.some.inj hthere ▸ hd'
    · exact absurd ⟨d, hnow.trans hown, rfl, hexpired, hexpired⟩ he

/-- Of the devices that a sweep goes over, those go that have expired and are under their own ids. -/
theorem sweeps_over (now : Int) (hn : h.census.Numbered) {gone : List Device} (hs : Sweeps asOf limit gone h h₁)
    {ds : List Device} (hds : ∀ d ∈ ds, ∃ id, h.registry.get? id = some d) (report : SweepReport) :
    ∃ gone', Sweeps asOf limit gone' h (ds.foldl (sweepDevice now asOf limit) (h₁, report)).1 ∧
      (∀ d ∈ gone, d ∈ gone') ∧
      ∀ d ∈ ds, h.registry.get? d.id = some d → d.clock.isExpired asOf limit → d ∈ gone' := by
  induction ds generalizing h₁ report gone with
  | nil => exact ⟨gone, hs, fun _ => id, fun d hd => absurd hd List.not_mem_nil⟩
  | cons d ds ih =>
    obtain ⟨id, hid⟩ := hds d List.mem_cons_self
    obtain ⟨gone₁, hs₁, hkept₁, hown₁⟩ := sweeps_device now hn hs hid report
    obtain ⟨gone₂, hs₂, hkept₂, hown₂⟩ := ih hs₁ (fun d' hd' => hds d' (List.mem_cons_of_mem d hd')) _
    refine ⟨gone₂, hs₂, fun d' hd' => hkept₂ d' (hkept₁ d' hd'), fun d' hd' => ?_⟩
    rcases List.mem_cons.mp hd' with rfl | hd'
    · exact fun hown hexpired => hkept₂ d' (hown₁ hown hexpired)
    · exact hown₂ d' hd'

theorem mem_devices {d : Device} : d ∈ h.registry.devices ↔ ∃ id, h.registry.get? id = some d := by
  simp only [Registry.devices, Registry.get?, values_eq_map_snd_toList, List.mem_map, Prod.exists,
    exists_eq_right, Std.ExtTreeMap.mem_toList_iff_getElem?_eq_some]

/-- A sweep in any order removes the devices that are expired and under their own ids, and tells of just these. -/
theorem sweepOver_spec (hn : h.census.Numbered) (now asOf : Int) (limit : Span) {snapshot : List Device}
    (hsnapshot : snapshot.Perm h.registry.devices) :
    ∃ gone, Loses gone h (h.sweepOver now asOf limit snapshot).1 ∧
      ∀ d, d ∈ gone ↔ h.registry.get? d.id = some d ∧ d.clock.isExpired asOf limit := by
  have hdevices : ∀ d, d ∈ snapshot ↔ ∃ id, h.registry.get? id = some d := fun d =>
    hsnapshot.mem_iff.trans mem_devices
  have hnone : Sweeps asOf limit [] h h := ⟨.refl h, fun d hd => absurd hd List.not_mem_nil⟩
  obtain ⟨gone, hs, -, hown⟩ := sweeps_over now hn hnone (fun d => (hdevices d).mp) { scanned := snapshot.length }
  refine ⟨gone, hs.toLoses, fun d => ⟨fun hd => ⟨hs.there d hd, hs.expired d hd⟩, fun hd => ?_⟩⟩
  exact hown d ((hdevices d).mpr ⟨d.id, hd.1⟩) hd.1 hd.2

theorem sweep_spec (hn : h.census.Numbered) (now asOf : Int) (limit : Span) :
    ∃ gone, Loses gone h (h.sweep now asOf limit).1 ∧
      ∀ d, d ∈ gone ↔ h.registry.get? d.id = some d ∧ d.clock.isExpired asOf limit :=
  sweepOver_spec hn now asOf limit h.perm_snapshot

/-- A device goes in a sweep just if it has expired and is under its own id. -/
theorem get?_sweepOver (hn : h.census.Numbered) {id : DeviceId} {d : Device} (hd : h.registry.get? id = some d)
    (now asOf : Int) (limit : Span) {snapshot : List Device} (hsnapshot : snapshot.Perm h.registry.devices) :
    (h.sweepOver now asOf limit snapshot).1.registry.get? id =
      if d.id = id ∧ d.clock.isExpired asOf limit then none else some d := by
  obtain ⟨gone, hloses, hgone⟩ := sweepOver_spec hn now asOf limit hsnapshot
  rw [hloses.get?, hd]
  by_cases hgoes : d.id = id ∧ d.clock.isExpired asOf limit
  · obtain ⟨rfl, hexpired⟩ := hgoes
    rw [if_pos (List.mem_map_of_mem ((hgone d).mpr ⟨hd, hexpired⟩)), if_pos ⟨rfl, hexpired⟩]
  · rw [if_neg hgoes, if_neg]
    intro hmem
    obtain ⟨d', hd', rfl⟩ := List.mem_map.mp hmem
    obtain ⟨hthere, hexpired⟩ := (hgone d').mp hd'
    obtain rfl := Option.some.inj (hthere.symm.trans hd)
    exact hgoes ⟨rfl, hexpired⟩

theorem get?_sweep (hn : h.census.Numbered) {id : DeviceId} {d : Device} (hd : h.registry.get? id = some d)
    (hid : d.id = id) (now asOf : Int) (limit : Span) :
    (h.sweep now asOf limit).1.registry.get? id = if d.clock.isExpired asOf limit then none else some d := by
  rw [sweep, get?_sweepOver hn hd now asOf limit h.perm_snapshot]
  simp only [hid, true_and]

/-- Every observer is told in a sweep of the devices that go, and of nothing else. -/
theorem mem_movements_sweep (hn : h.census.Numbered) (hi : i < h.observers.length) (m : Movement) :
    m ∈ h.movements i (now, .sweep asOf limit) ↔
      ∃ d, m = expiry d ∧ h.registry.get? d.id = some d ∧ d.clock.isExpired asOf limit := by
  obtain ⟨gone, hloses, hgone⟩ := sweep_spec hn now asOf limit
  have hmove : h.movements i (now, .sweep asOf limit) = gone.map expiry := by
    change ((h.sweep now asOf limit).1.told i).drop (h.told i).length ++ [] = _
    rw [hloses.told i hi, List.drop_left, List.append_nil]
  rw [hmove, List.mem_map]
  constructor
  · rintro ⟨d, hd, rfl⟩
    exact ⟨d, rfl, (hgone d).mp hd⟩
  · rintro ⟨d, rfl, hd⟩
    exact ⟨d, (hgone d).mpr hd, rfl⟩

/-! ## All other calls -/

/-- An observer is told of no device that has expired. -/
def Spares (i : Nat) (h h' : Hub) : Prop :=
  ∃ ms, h'.told i = h.told i ++ ms ∧ ∀ m ∈ ms, m.isExpiry = false

theorem Spares.of_told_eq (heq : h₁.told i = h.told i) : Spares i h h₁ :=
  ⟨[], by rw [heq, List.append_nil], nofun⟩

theorem Spares.trans (h : Spares i h₁ h₂) (h' : Spares i h₂ h₃) : Spares i h₁ h₃ := by
  obtain ⟨ms, htold, hms⟩ := h
  obtain ⟨ns, htold', hns⟩ := h'
  refine ⟨ms ++ ns, by rw [htold', htold, List.append_assoc], fun m hm => ?_⟩
  exact (List.mem_append.mp hm).elim (hms m) (hns m)

theorem spares_announce {r : Registry} {n : Notice} (hn : ∀ present, (Movement.told n present).isExpiry = false) :
    Spares i h ({ h with registry := r }.announce now n) := by
  refine ⟨_, skipsLog_toldTo?.seen_announce { h with registry := r }, fun m hm => ?_⟩
  obtain ⟨j, -, hj⟩ := List.mem_filterMap.mp hm
  simp only [toldTo?, Option.ite_none_right_eq_some, Option.some.injEq] at hj
  rw [← hj.2]
  exact hn _

theorem spares_atom (h : Hub) {a : Atom} (ha : ∀ id, a ≠ .erase id .expired) : Spares i h (h.atom now a) := by
  cases a with
  | store key p => exact spares_announce fun _ => rfl
  | erase id reason =>
    cases hd : h.registry.get? id with
    | none => exact .of_told_eq (by rw [atom_erase_of_none _ hd])
    | some d =>
      rw [atom_erase_of_some _ hd]
      refine spares_announce fun present => ?_
      cases reason with
      | expired => exact absurd rfl (ha id)
      | explicit | disconnected => rfl
  | recordSequence id n =>
    refine .of_told_eq ?_
    cases hd : h.registry.get? id <;> simp [atom, recordSequence, hd, told, seen]
  | hear k id link state => exact .of_told_eq (told_hear k id link state)
  | log line => exact .of_told_eq (told_emit (by simp))
  | report alarm churn => exact .of_told_eq (told_emit (by simp))
  | poison | eraseSilently | touch | openLink | setLink | setSlots | addObserver | addTally | takeTally | addWatcher =>
    exact .of_told_eq rfl

theorem Op.Makes.ne_erase_expired {op : Op} {a : Atom} (ha : op.Makes a) (hop : op.expires = false)
    (id : DeviceId) : a ≠ .erase id .expired := by
  rintro rfl
  cases op with
  | sweep | sweepOver => cases hop
  | remove id' reason =>
    cases ha
    cases hop
  | removeIf id' reason =>
    rcases ha with ha | ha
    · cases ha
      cases hop
    · cases ha
  | reportActive | reportInactive =>
    rcases ha with _ | _ | (_ | _ | ha)
    cases ha
  | _ => simp [Op.Makes] at ha

/-- No call tells that a device expired but sweeps and removals for that reason. -/
theorem movements_of_not_expires (h : Hub) {op : Op} (hop : op.expires = false) {m : Movement}
    (hm : m ∈ h.movements i (now, op)) : m.isExpiry = false := by
  have hspares : Spares i h (h.step now op) :=
    (reaches_step h op).lift (fun _ => .of_told_eq rfl) Spares.trans
      fun h _ ha => spares_atom h (ha.ne_erase_expired hop)
  obtain ⟨ms, htold, hms⟩ := hspares
  unfold movements at hm
  rw [htold, List.drop_left] at hm
  rcases List.mem_append.mp hm with hm | hm
  · exact hms m hm
  · cases op with
    | removeSilently id =>
      obtain rfl := List.mem_singleton.mp hm
      rfl
    | _ => cases hm

/-! ## Deadlines -/

/-- The latest refresh of an appearance, as far as a mark reaches that starts when it was made. -/
def lastRefresh? (walk : Walk) (n : Nat) (calls : List Call) : Option Int :=
  match refreshes n { walk } calls with
  | [] => none
  | made :: since => some (min (since.foldl max made) (made + wordMax))

theorem lastRefresh_run {calls : List Call} {id : DeviceId} {d : Device}
    (hd : (({ walk } : Hub).run calls).registry.get? id = some d) :
    lastRefresh? walk d.serial calls = some d.clock.lastSeen := by
  obtain ⟨made, since, hrefreshes, hclock⟩ := dated_run hd
  rw [lastRefresh?, hrefreshes, hclock, LastSeen.lastSeen_touches_eq]

/-- A device that came before a sweep and is still there was seen no longer before it than the sweep allows. -/
theorem le_lastSeen_of_sweep {before after : List Call} {id : DeviceId} {d : Device}
    (hd : (({ walk } : Hub).run (before ++ (now, .sweep now limit) :: after)).registry.get? id = some d) (hid : d.id = id)
    (hcame : d.serial ≤ (({ walk } : Hub).run before).registry.stored) : now ≤ d.clock.lastSeen + limit.nanos := by
  induction after using List.reverseRecOn generalizing id d with
  | nil =>
    have hnum : (({ walk } : Hub).run before).census.Numbered := numbered_run before
    rw [run_append, run_cons, run_nil] at hd
    rcases device_of_step hnum hd with ⟨hlt, -, -⟩ | ⟨d₀, hd₀, -, hid₀, hclock⟩
    · exact absurd hcame (Nat.not_le.mpr hlt)
    · change d.clock = d₀.clock at hclock
      have hkept := get?_sweep hnum hd₀ (hid₀.symm.trans hid) now now limit
      rw [show ((({ walk } : Hub).run before).sweep now now limit).1.registry.get? id = some d from hd] at hkept
      split at hkept
      · cases hkept
      · rename_i hfresh
        rw [LastSeen.isExpired_iff] at hfresh
        rw [hclock]
        exact Int.not_lt.mp hfresh
  | append_singleton after c ih =>
    rw [← List.cons_append, ← List.append_assoc, run_append, run_cons, run_nil] at hd
    have hnum : (({ walk } : Hub).run (before ++ (now, .sweep now limit) :: after)).census.Numbered := numbered_run _
    rcases device_of_step hnum hd with ⟨hlt, -, -⟩ | ⟨d₀, hd₀, hserial, hid₀, hclock⟩
    · rw [run_append] at hlt
      have hle := stored_le_run (({ walk } : Hub).run before) ((now, .sweep now limit) :: after)
      omega
    · have hold : now ≤ d₀.clock.lastSeen + limit.nanos := ih hd₀ (hid₀.symm.trans hid) (hserial ▸ hcame)
      have hmore : d₀.clock.lastSeen ≤ d.clock.lastSeen := by
        rw [hclock]
        split
        · exact d₀.clock.lastSeen_le_touch c.1
        · exact Int.le_refl _
      omega

end Hub

end Liveness
