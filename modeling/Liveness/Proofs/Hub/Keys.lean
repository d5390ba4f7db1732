import Liveness.Proofs.Hub.Expiry

/-!
# Whether devices are under their own ids

A device is put under its own id, but one that is made for a caller is stored under the
id that the caller asked for, whatever id its maker gave it.  So where every maker gives the
id that it is asked for, all devices are under their own ids (`Hub.Keyed`).  Where one does
not, its device is out of reach of every sweep (`Hub.keys_of_run`).
-/

namespace Liveness.Hub

/-- Every device is stored under its own id, but for exceptions: a key and the id of the device under it. -/
def KeyedBut (Q : DeviceId → DeviceId → Prop) (h : Hub) : Prop :=
  ∀ id d, h.registry.get? id = some d → d.id = id ∨ Q id d.id

/-- Every device is stored under its own id. -/
def Keyed (h : Hub) : Prop := ∀ id d, h.registry.get? id = some d → d.id = id

/-- A call whose maker gives the device that it makes, if it makes one, the id that was asked for. -/
def Op.IsFaithful : Op → Prop
  | .getOrCreate id recipe => ∀ own ∈ recipe.id?, own = id
  | _ => True

def Op.isSweep : Op → Bool
  | .sweep .. => true
  | _ => false

variable {Q : DeviceId → DeviceId → Prop} {now : Int} {h : Hub}

/-! ## What calls do to keys -/

theorem keyedBut_of_registry_eq {h' : Hub} (hk : h.KeyedBut Q) (heq : h'.registry = h.registry) : h'.KeyedBut Q := by
  intro id d hd
  rw [heq] at hd
  exact hk id d hd

theorem keyedBut_erase (hk : h.KeyedBut Q) (id : DeviceId) {h' : Hub} (heq : h'.registry = h.registry.erase id) :
    h'.KeyedBut Q := by
  intro id' d hd
  rw [heq, Registry.get?_erase] at hd
  split at hd
  · cases hd
  · exact hk id' d hd

/-- A device that is changed keeps its id. -/
theorem keyedBut_update (hk : h.KeyedBut Q) (id : DeviceId) {g : Device → Device} {h' : Hub}
    (heq : h'.registry = h.registry.update id g) (hg : ∀ d, h.registry.get? id = some d → (g d).id = d.id) :
    h'.KeyedBut Q := by
  intro id' d' hd'
  rw [heq, Registry.get?_update] at hd'
  split at hd'
  · subst id'
    obtain ⟨d, hd, rfl⟩ := Option.map_eq_some_iff.mp hd'
    rw [hg d hd]
    exact hk id d hd
  · exact hk id' d' hd'

theorem keyedBut_atom (hk : h.KeyedBut Q) {a : Atom} (ha : ∀ key p, a = .store key p → p.id = key ∨ Q key p.id) :
    (h.atom now a).KeyedBut Q := by
  cases a with
  | store key p =>
    intro id d hd
    change ((h.storeAs now key p).2.2.registry.get? id) = some d at hd
    rw [storeAs, (undisturbed_announce _).registry, Registry.get?_store] at hd
    split at hd
    · subst id
      obtain rfl := Option.some.inj hd
      exact ha key p rfl
    · exact hk id d hd
  | erase id reason =>
    cases hd : h.registry.get? id with
    | none => rwa [atom_erase_of_none reason hd]
    | some d =>
      rw [atom_erase_of_some reason hd]
      exact keyedBut_erase hk id (undisturbed_announce _).registry
  | eraseSilently id => exact keyedBut_erase hk id rfl
  | touch id => exact keyedBut_update hk id rfl fun d _ => rfl
  | recordSequence id n =>
    cases hd : h.registry.get? id with
    | none => simpa [atom, recordSequence, hd] using hk
    | some d =>
      refine keyedBut_update hk id (g := fun _ => { d with sequence := (d.sequence.record n).2 }) ?_ ?_
      · simp only [atom, recordSequence, hd]
      · intro d' hd'
        rw [Option.some.inj (hd'.symm.trans hd)]
  | hear k id link state => exact keyedBut_of_registry_eq hk (registry_hear h now k id link state)
  | openLink | setLink | setSlots | addObserver | addTally | takeTally | addWatcher | log | report | poison =>
    exact keyedBut_of_registry_eq hk rfl

/-- A device is stored under another id than its own only if its maker gave it one. -/
theorem Op.Makes.keyed {op : Op} {key : DeviceId} {p : Profile} (ha : op.Makes (.store key p)) :
    p.id = key ∨ ∃ recipe, op = .getOrCreate key recipe ∧ recipe.id? = some p.id := by
  cases op with
  | put p' =>
    cases ha
    exact .inl rfl
  | getOrCreate id recipe =>
    obtain ⟨p', hyields, heq⟩ | ⟨l, heq⟩ | heq := ha
    · cases heq
      exact .inr ⟨recipe, rfl, hyields.1⟩
    · cases heq
    · cases heq
  | sweep | sweepOver => cases ha
  | reportActive | reportInactive =>
    obtain _ | _ | (_ | _ | ha) := ha
    cases ha
    exact .inl rfl
  | _ => simp [Op.Makes] at ha

theorem keyedBut_step (hk : h.KeyedBut Q) {op : Op}
    (hop : ∀ id recipe own, op = .getOrCreate id recipe → recipe.id? = some own → own = id ∨ Q id own) :
    (h.step now op).KeyedBut Q := by
  refine (reaches_step h op).lift (R := fun h h' => h.KeyedBut Q → h'.KeyedBut Q) (fun _ => id)
    (fun hab hbc hk => hbc (hab hk)) (fun h a ha hk => keyedBut_atom hk ?_) hk
  rintro key p rfl
  rcases ha.keyed with hown | ⟨recipe, rfl, hid⟩
  · exact .inl hown
  · exact hop key recipe p.id rfl hid

theorem keyedBut_run (hk : h.KeyedBut Q) {calls : List Call}
    (hcalls : ∀ t id recipe own, (t, .getOrCreate id recipe) ∈ calls → recipe.id? = some own → own = id ∨ Q id own) :
    (h.run calls).KeyedBut Q := by
  induction calls generalizing h with
  | nil => exact hk
  | cons c cs ih =>
    rw [run_cons]
    refine ih (keyedBut_step hk ?_) ?_
    · rintro id recipe own hop hid
      exact hcalls c.1 id recipe own (hop ▸ List.mem_cons_self) hid
    · intro t id recipe own hmem hid
      exact hcalls t id recipe own (List.mem_cons_of_mem c hmem) hid

theorem keyedBut_start : ({} : Hub).KeyedBut Q := by
  intro id d hd
  simp at hd

/-- Where makers give the ids that they are asked for, all devices are under their own ids. -/
theorem keyed_run (hk : h.Keyed) {calls : List Call} (hcalls : ∀ c ∈ calls, c.2.IsFaithful) : (h.run calls).Keyed := by
  have hbut : h.KeyedBut fun _ _ => False := fun id d hd => .inl (hk id d hd)
  have hrun : (h.run calls).KeyedBut fun _ _ => False := by
    apply keyedBut_run hbut
    intro t id recipe own hmem hid
    have hfaithful : (Op.getOrCreate id recipe).IsFaithful := hcalls _ hmem
    exact .inl (hfaithful own hid)
  intro id d hd
  exact (hrun id d hd).resolve_right not_false

theorem keyed_step (hk : h.Keyed) (now : Int) (op : Op) (hop : op.IsFaithful) : (h.step now op).Keyed := by
  suffices (h.run [(now, op)]).Keyed from this
  apply keyed_run hk
  intro c hc
  obtain rfl := List.mem_singleton.mp hc
  exact hop

/-! ## Keys and sweeps -/

/-- A device that is not under its own id outlives all sweeps. -/
theorem get?_sweeps (hn : h.census.Numbered) {id : DeviceId} {d : Device} (hd : h.registry.get? id = some d)
    (hid : d.id ≠ id) {sweeps : List Call} (hsweeps : ∀ c ∈ sweeps, c.2.isSweep) :
    (h.run sweeps).registry.get? id = some d := by
  induction sweeps generalizing h with
  | nil => exact hd
  | cons c cs ih =>
    obtain ⟨t, op⟩ := c
    have hop : op.isSweep := hsweeps _ List.mem_cons_self
    have hkept : (h.step t op).registry.get? id = some d := by
      cases op with
      | sweep asOf limit =>
        change (h.sweep t asOf limit).1.registry.get? id = some d
        rw [sweep, get?_sweepOver hn hd t asOf limit h.perm_snapshot, if_neg fun hgoes => hid hgoes.1]
      | _ => cases hop
    exact ih (numbered_step h t op hn) hkept fun c hc => hsweeps c (List.mem_cons_of_mem _ hc)

/-- Where devices are after a run, and which of them a sweep can reach.  Whatever calls were made and whatever ids
makers gave: a device is under its own id, unless a caller asked for it under that key and the maker gave it another
id; so all are under their own ids if all makers gave those they were asked for.  A sweep over the devices in any order
removes just those that have expired and are under their own ids.  A device under its own id is gone after a sweep
past its deadline, unless it was made before the sweep and put after it; and one that is not under its own id is never
removed by any number of sweeps. -/
theorem keys_of_run (calls : List Call) :
    let h := ({} : Hub).run calls
    (∀ id d, h.registry.get? id = some d →
      d.id = id ∨ ∃ t recipe, (t, .getOrCreate id recipe) ∈ calls ∧ recipe.id? = some d.id) ∧
    ((∀ c ∈ calls, c.2.IsFaithful) → h.Keyed) ∧
    (∀ id d, h.registry.get? id = some d →
      ∀ (now asOf : Int) (limit : Span) (snapshot : List Device), snapshot.Perm h.registry.devices →
        (h.sweepOver now asOf limit snapshot).1.registry.get? id =
          if d.id = id ∧ limit.nanos < (d.clock.idleFor asOf).nanos then none else some d) ∧
    (∀ before now limit after, calls = before ++ (now, .sweep now limit) :: after →
      ∀ id d, h.registry.get? id = some d → d.id = id →
        d.serial ≤ (({} : Hub).run before).registry.stored ∨ now ≤ d.clock.origin →
        now ≤ d.clock.lastSeen + limit.nanos) ∧
    ∀ id d, h.registry.get? id = some d → d.id ≠ id →
      ∀ sweeps : List Call, (∀ c ∈ sweeps, c.2.isSweep) → (h.run sweeps).registry.get? id = some d := by
  intro h
  have hnum : h.census.Numbered := numbered_run calls
  refine ⟨?_, ?_, ?_, ?_, ?_⟩
  · have hbut : h.KeyedBut fun id own => ∃ t recipe, (t, .getOrCreate id recipe) ∈ calls ∧ recipe.id? = some own := by
      apply keyedBut_run keyedBut_start
      intro t id recipe own hmem hid
      exact .inr ⟨t, recipe, hmem, hid⟩
    exact hbut
  · apply keyed_run
    intro id d hd
    simp at hd
  · intro id d hd now asOf limit snapshot hsnapshot
    rw [get?_sweepOver hnum hd now asOf limit hsnapshot]
    simp only [LastSeen.isExpired, decide_eq_true_eq]
  · rintro before now limit after rfl id d hd hid (hcame | hmade)
    · exact le_lastSeen_of_sweep hd hid hcame
    · have hseen : d.clock.origin ≤ d.clock.lastSeen := Int.le_add_of_nonneg_right (Int.natCast_nonneg _)
      omega
  · intro id d hd hid sweeps hsweeps
    exact get?_sweeps hnum hd hid hsweeps

/-- A device whose maker gave it another id than the one asked for, and one that was put under its own, after a
sweep: all that is said of either. -/
theorem keys_of_run_misnamed :
    let calls : List Call := [(0, .getOrCreate "A" (.make { id := "B", link := 0 })),
      (0, .put { id := "C", link := 0 }), (5000, .touch "C"), (5000, .sweep 5000 (.ofMillis 0))]
    (∃ d, (({} : Hub).run calls).registry.get? "A" = some d ∧ d.id ≠ "A" ∧
      ((({} : Hub).run calls).run [(6000, .sweep 6000 (.ofMillis 0))]).registry.get? "A" = some d) ∧
    ∃ d, (({} : Hub).run calls).registry.get? "C" = some d ∧ 5000 ≤ d.clock.lastSeen + (Span.ofMillis 0).nanos := by
  intro calls
  obtain ⟨-, -, -, hdeadline, hstays⟩ := keys_of_run calls
  refine ⟨?_, ?_⟩
  · obtain ⟨d, hd, hid⟩ : ∃ d, (({} : Hub).run calls).registry.get? "A" = some d ∧ d.id = "B" := by
      have hsome : ((({} : Hub).run calls).registry.get? "A").map (·.id) = some "B" := by decide +kernel
      exact Option.map_eq_some_iff.mp hsome
    have hne : d.id ≠ "A" := by
      rw [hid]
      decide
    exact ⟨d, hd, hne, hstays "A" d hd hne _ (by decide)⟩
  · obtain ⟨d, hd, hid⟩ : ∃ d, (({} : Hub).run calls).registry.get? "C" = some d ∧ d.id = "C" := by
      have hsome : ((({} : Hub).run calls).registry.get? "C").map (·.id) = some "C" := by decide +kernel
      exact Option.map_eq_some_iff.mp hsome
    have hcame : d.serial ≤ 2 := by
      have hserial : ((({} : Hub).run calls).registry.get? "C").map (·.serial) = some 2 := by decide +kernel
      rw [hd] at hserial
      exact Nat.le_of_eq (Option.some.inj hserial)
    have hstored : 2 ≤ (({} : Hub).run (calls.take 3)).registry.stored := by decide +kernel
    exact ⟨d, hd, hdeadline (calls.take 3) 5000 (.ofMillis 0) [] rfl "C" d hd hid (.inl (Nat.le_trans hcame hstored))⟩

/-- A device stands under an id that is not its own, has long been silent, and no sweep removes it. -/
theorem misnamed_never_swept :
    let h := ({} : Hub).run [(0, .getOrCreate "A" (.make { id := "B", link := 0 }))]
    ¬h.Keyed ∧ (h.registry.get? "A").any (·.clock.isExpired 5000000000 (.ofMillis 1000)) ∧
      (h.sweep 5000000000 5000000000 (.ofMillis 1000)).1.registry.contains "A" ∧
      (h.sweep 5000000000 5000000000 (.ofMillis 1000)).2 = { scanned := 1 } := by
  intro h
  refine ⟨fun hkeyed => ?_, by decide +kernel, by decide +kernel, by decide +kernel⟩
  have hsome : (h.registry.get? "A").map (·.id) = some "B" := by decide +kernel
  obtain ⟨d, hd, hid⟩ := Option.map_eq_some_iff.mp hsome
  rw [hkeyed "A" d hd] at hid
  exact absurd hid (by decide)

end Liveness.Hub
