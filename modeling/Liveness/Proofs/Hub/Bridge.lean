import Liveness.Proofs.Hub.Lifecycle

/-!
# What a bridge does to devices

A bridge binds the device of an id to the connection that comes up, and takes the
device of a connection away that goes down.  Other watchers leave the registry
alone, and further bridges find nothing left to do, so what one bridge brings
about is what all watchers together bring about (`fire_of_bridge`): `Binds` when
a connection comes up, `Releases` when it goes down.
-/

namespace Liveness.Hub

variable {k : Nat} {now : Int} {id : DeviceId} {l : LinkId} {h h₁ h₂ h₃ : Hub}

/-! ## The bridge among the watchers -/

/-- A watcher is a bridge that never fails to act. -/
def IsBridge (k : Nat) (h : Hub) : Prop :=
  ∃ w, h.watchers[k]? = some w ∧ w.role = .bridge ∧ ∀ n, w.conduct n = .acts

theorem IsBridge.lt_length (hk : IsBridge k h) : k < h.watchers.length := by
  obtain ⟨w, hw, -⟩ := hk
  exact (List.getElem?_eq_some_iff.mp hw).1

theorem IsBridge.of_watchers_eq (hk : IsBridge k h) (heq : h₁.watchers = h.watchers) : IsBridge k h₁ := by
  rwa [IsBridge, heq]

theorem IsBridge.hear (hk : IsBridge k h) (j : Nat) (id : DeviceId) (l : LinkId) (state : LinkState) :
    IsBridge k (h.hear now j id l state) := by
  obtain ⟨w, hw, hrole, hacts⟩ := hk
  unfold Hub.hear
  split
  · exact ⟨w, hw, hrole, hacts⟩
  · rename_i w' hw'
    by_cases hj : j = k
    · subst j
      obtain rfl := Option.some.inj (hw.symm.trans hw')
      refine ⟨{ w with heard := w.heard + 1 }, ?_, hrole, hacts⟩
      change (h.watchers.set k _)[k]? = _
      rw [List.getElem?_set_self (List.getElem?_eq_some_iff.mp hw).1]
    · refine ⟨w, ?_, hrole, hacts⟩
      change (h.watchers.set j _)[k]? = _
      rw [List.getElem?_set_ne hj, hw]

/-- Bridges are never taken away. -/
theorem IsBridge.atom (hk : IsBridge k h) (a : Atom) : IsBridge k (h.atom now a) := by
  cases a with
  | store key p => exact hk.of_watchers_eq (undisturbed_announce _).watchers
  | erase id reason =>
    cases hd : h.registry.get? id with
    | none => exact (atom_erase_of_none reason hd).symm ▸ hk
    | some d =>
      rw [atom_erase_of_some _ hd]
      exact hk.of_watchers_eq (undisturbed_announce _).watchers
  | recordSequence id n =>
    refine hk.of_watchers_eq ?_
    cases hd : h.registry.get? id <;> simp [Hub.atom, recordSequence, hd]
  | hear j id l state => exact hk.hear j id l state
  | addWatcher w =>
    obtain ⟨w', hw', hrole, hacts⟩ := hk
    exact ⟨w', List.getElem?_append_left (List.getElem?_eq_some_iff.mp hw').1 ▸ hw', hrole, hacts⟩
  | eraseSilently | touch | openLink | setLink | setSlots | addObserver | addTally | takeTally | log
  | report | poison => exact hk

theorem IsBridge.reaches {P : Atom → Prop} (hk : IsBridge k h) (hreaches : h.Reaches now P h₁) :
    IsBridge k h₁ :=
  hreaches.lift (R := fun h h' => IsBridge k h → IsBridge k h') (fun _ => id)
    (fun hab hbc => hbc ∘ hab) (fun _ a _ hk => hk.atom a) hk

/-! ## What bridges do to the devices -/

/-- An id has a device on a connection. -/
def Bound (id : DeviceId) (l : LinkId) (h : Hub) : Prop := ∃ d, h.registry.get? id = some d ∧ d.link = l

/-- At most the device of one id changes, to one that is bound to a connection. -/
structure Binds (id : DeviceId) (l : LinkId) (h h' : Hub) : Prop where
  others : ∀ id', id' ≠ id → h'.registry.get? id' = h.registry.get? id'
  device : h'.registry.get? id = h.registry.get? id ∨
    ∃ d, h'.registry.get? id = some d ∧ d.id = id ∧ d.link = l

/-- At most the device of one id goes, if it is bound to a connection. -/
structure Releases (id : DeviceId) (l : LinkId) (h h' : Hub) : Prop where
  others : ∀ id', id' ≠ id → h'.registry.get? id' = h.registry.get? id'
  device : h'.registry.get? id = h.registry.get? id ∨ h'.registry.get? id = none ∧ h.Bound id l

namespace Binds

theorem of_registry_eq (heq : h₁.registry = h.registry) : Binds id l h h₁ :=
  ⟨fun _ _ => by rw [heq], .inl (by rw [heq])⟩

theorem trans (h : Binds id l h₁ h₂) (h' : Binds id l h₂ h₃) : Binds id l h₁ h₃ where
  others := fun id' hid => (h'.others id' hid).trans (h.others id' hid)
  device := by
    rcases h'.device with heq | hbound
    · rw [heq]
      exact h.device
    · exact .inr hbound

theorem bound (h : Binds id l h₁ h₂) (hbound : h₁.Bound id l) : h₂.Bound id l := by
  rcases h.device with heq | ⟨d, hd, -, hlink⟩
  · rwa [Bound, heq]
  · exact ⟨d, hd, hlink⟩

end Binds

namespace Releases

theorem of_registry_eq (heq : h₁.registry = h.registry) : Releases id l h h₁ :=
  ⟨fun _ _ => by rw [heq], .inl (by rw [heq])⟩

theorem not_bound (h : Releases id l h₁ h₂) (hbound : ¬h₁.Bound id l) : ¬h₂.Bound id l := by
  rcases h.device with heq | ⟨hnone, -⟩
  · rwa [Bound, heq]
  · rintro ⟨d, hd, -⟩
    cases hnone.symm.trans hd

/-- A device that is there was there. -/
theorem get?_of_get? (h : Releases id l h₁ h₂) {id' : DeviceId} {d : Device}
    (hd : h₂.registry.get? id' = some d) : h₁.registry.get? id' = some d := by
  by_cases hid : id' = id
  · subst id'
    rcases h.device with heq | ⟨hnone, -⟩
    · rw [← heq, hd]
    · cases hnone.symm.trans hd
  · rw [← h.others id' hid, hd]

theorem trans (h : Releases id l h₁ h₂) (h' : Releases id l h₂ h₃) : Releases id l h₁ h₃ where
  others := fun id' hid => (h'.others id' hid).trans (h.others id' hid)
  device := by
    rcases h'.device with heq | ⟨hnone, d, hd, hlink⟩
    · rw [heq]
      exact h.device
    · exact .inr ⟨hnone, d, h.get?_of_get? hd, hlink⟩

/-- A device that is bound to another connection stays. -/
theorem get?_of_link_ne (h : Releases id l h₁ h₂) {id' : DeviceId} {d : Device}
    (hd : h₁.registry.get? id' = some d) (hlink : d.link ≠ l) : h₂.registry.get? id' = some d := by
  by_cases hid : id' = id
  · subst id'
    rcases h.device with heq | ⟨-, d', hd', hlink'⟩
    · rw [heq, hd]
    · obtain rfl := Option.some.inj (hd.symm.trans hd')
      exact absurd hlink' hlink
  · rw [h.others id' hid, hd]

end Releases

theorem binds_bridge (h : Hub) (now : Int) (id : DeviceId) (l : LinkId) :
    Binds id l h (h.bridge now id l .active) ∧ (h.bridge now id l .active).Bound id l := by
  simp only [bridge]
  split
  · rename_i hbound
    obtain ⟨d, hd, hlink⟩ := (Option.any_eq_true _ _).mp hbound
    exact ⟨.of_registry_eq rfl, d, hd, eq_of_beq hlink⟩
  · have hregistry : (h.put now { id, link := l }).2.registry =
        (h.registry.store id { id, link := l } now).2.2 := by
      rw [put_eq]
      exact (undisturbed_announce _).registry
    have hself : (h.put now { id, link := l }).2.registry.get? id =
        some (.appear (h.registry.stored + 1) { id, link := l } now) := by
      rw [hregistry, Registry.get?_store, if_pos rfl]
    refine ⟨⟨fun id' hid => ?_, .inr ⟨_, hself, rfl, rfl⟩⟩, _, hself, rfl⟩
    rw [hregistry, Registry.get?_store, if_neg (Ne.symm hid)]

theorem releases_bridge (h : Hub) (now : Int) (id : DeviceId) (l : LinkId) :
    Releases id l h (h.bridge now id l .inactive) ∧ ¬(h.bridge now id l .inactive).Bound id l := by
  cases hd : h.registry.get? id with
  | none =>
    have hsame : h.bridge now id l .inactive = h := by simp [bridge, removeIf, hd]
    rw [hsame]
    refine ⟨.of_registry_eq rfl, ?_⟩
    rintro ⟨d, hd', -⟩
    cases hd.symm.trans hd'
  | some d =>
    by_cases hlink : d.link = l
    · have hregistry : (h.bridge now id l .inactive).registry = h.registry.erase id := by
        rw [bridge, removeIf_drop h hd (if_pos hlink), atom_erase_of_some _ hd]
        exact (undisturbed_announce _).registry
      have hnone : (h.bridge now id l .inactive).registry.get? id = none := by
        rw [hregistry, Registry.get?_erase, if_pos rfl]
      refine ⟨⟨fun id' hid => ?_, .inr ⟨hnone, d, hd, hlink⟩⟩, ?_⟩
      · rw [hregistry, Registry.get?_erase, if_neg (Ne.symm hid)]
      · rintro ⟨d', hd', -⟩
        cases hnone.symm.trans hd'
    · have hsame : h.bridge now id l .inactive = h := by simp [bridge, removeIf, hd, hlink]
      rw [hsame]
      refine ⟨.of_registry_eq rfl, ?_⟩
      rintro ⟨d', hd', hlink'⟩
      obtain rfl := Option.some.inj (hd.symm.trans hd')
      exact hlink hlink'

/-- A watcher that is told leaves the registry alone, if it is not a bridge at work. -/
theorem tellWatcher_cases (h : Hub) (now : Int) (id : DeviceId) (l : LinkId) (state : LinkState) (j : Nat) :
    (tellWatcher now id l state h j).registry = h.registry ∧ ¬IsBridge j h ∨
      tellWatcher now id l state h j = (h.hear now j id l state).bridge now id l state := by
  cases hj : h.watchers[j]? with
  | none =>
    refine .inl ⟨by simp [tellWatcher, hj], ?_⟩
    rintro ⟨w, hw, -⟩
    cases hj.symm.trans hw
  | some w =>
    have hidle : w.conduct w.heard ≠ .acts ∨ w.role ≠ .bridge → ¬IsBridge j h := by
      rintro hnot ⟨w', hw', hrole, hacts⟩
      obtain rfl := Option.some.inj (hj.symm.trans hw')
      rcases hnot with hnot | hnot
      · exact hnot (hacts _)
      · exact hnot hrole
    simp only [tellWatcher, Hub.hear, hj]
    split
    · exact .inr rfl
    · rename_i hrole
      exact .inl ⟨rfl, hidle (.inr (by simp [hrole]))⟩
    · rename_i hconduct
      exact .inl ⟨rfl, hidle (.inl (by simp [hconduct]))⟩
    · rename_i hconduct
      exact .inl ⟨rfl, hidle (.inl (by simp [hconduct]))⟩

/-- What one bridge at work brings about, all watchers together bring about if a bridge is among them. -/
theorem fire_of_bridge {state : LinkState} {R : Hub → Hub → Prop} {G : Hub → Prop}
    (hquiet : ∀ {a b : Hub}, b.registry = a.registry → R a b) (htrans : ∀ {a b c}, R a b → R b c → R a c)
    (hstable : ∀ {a b}, R a b → G a → G b)
    (hbridge : ∀ h : Hub, R h (h.bridge now id l state) ∧ G (h.bridge now id l state)) (hk : IsBridge k h) :
    R h (h.fire now id l state) ∧ G (h.fire now id l state) := by
  have htell : ∀ (h : Hub) j, R h (tellWatcher now id l state h j) ∧
      (IsBridge j h → G (tellWatcher now id l state h j)) := by
    intro h j
    rcases tellWatcher_cases h now id l state j with ⟨hsame, hnot⟩ | heq
    · exact ⟨hquiet hsame, fun hj => absurd hj hnot⟩
    · obtain ⟨hR, hG⟩ := hbridge (h.hear now j id l state)
      rw [heq]
      exact ⟨htrans (hquiet (registry_hear h now j id l state)) hR, fun _ => hG⟩
  suffices ∀ (js : List Nat) (h : Hub), R h (js.foldl (tellWatcher now id l state) h) ∧
      (IsBridge k h → k ∈ js → G (js.foldl (tellWatcher now id l state) h)) by
    obtain ⟨hR, hG⟩ := this (List.range h.watchers.length) h
    exact ⟨hR, hG hk (List.mem_range.mpr hk.lt_length)⟩
  intro js
  induction js with
  | nil => exact fun h => ⟨hquiet rfl, fun _ hmem => absurd hmem List.not_mem_nil⟩
  | cons j js ih =>
    intro h
    obtain ⟨hR, hG⟩ := htell h j
    obtain ⟨hR', hG'⟩ := ih (tellWatcher now id l state h j)
    refine ⟨htrans hR hR', fun hk hmem => ?_⟩
    rcases List.mem_cons.mp hmem with rfl | hmem
    · exact hstable hR' (hG hk)
    · exact hG' ((hk.hear j id l state).reaches (reaches_tellWatcher h id l state j)) hmem

theorem binds_fire (hk : IsBridge k h) (now : Int) (id : DeviceId) (l : LinkId) :
    Binds id l h (h.fire now id l .active) ∧ (h.fire now id l .active).Bound id l :=
  fire_of_bridge .of_registry_eq .trans Binds.bound (binds_bridge · now id l) hk

theorem releases_fire (hk : IsBridge k h) (now : Int) (id : DeviceId) (l : LinkId) :
    Releases id l h (h.fire now id l .inactive) ∧ ¬(h.fire now id l .inactive).Bound id l :=
  fire_of_bridge (G := fun h => ¬h.Bound id l) .of_registry_eq .trans Releases.not_bound (releases_bridge · now id l) hk

end Liveness.Hub
