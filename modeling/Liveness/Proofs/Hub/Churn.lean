import Mathlib.Algebra.Group.Nat.Defs
import Liveness.Proofs.Registry.Replay

/-!
# Counting what is told

A tally counts the notices that its observer receives, each in the field of its kind,
and a report publishes the counts and starts them again from zero.  Only tallies count,
each with one observer of its own (`Hub.Sound`), so between two reports the counts are
those of the notices that any observer is told, whoever else panics
(`Hub.reckoned_of_run`).  The number of devices changes by one with each of them, but not
with those that tell of a replacement.
-/

namespace Liveness

/-- The kinds of notices that are counted apart. -/
inductive Notice.Kind where
  | added
  | replaced
  | removed (reason : RemovalReason)
deriving DecidableEq, Repr

def Notice.kind : Notice → Notice.Kind
  | .added _ _ none => .added
  | .added _ _ (some _) => .replaced
  | .removed _ _ reason => .removed reason

namespace Churn

/-- The count of a kind. -/
def get (c : Churn) : Notice.Kind → UInt64
  | .added => c.added
  | .replaced => c.replaced
  | .removed .explicit => c.removed
  | .removed .expired => c.expired
  | .removed .disconnected => c.disconnected

/-- Notices counted from zero. -/
def ofNotices (ns : List Notice) : Churn := ns.foldl count {}

/-- A notice counts in the field of its kind and in no other. -/
theorem get_count (c : Churn) (n : Notice) (kind : Notice.Kind) :
    (c.count n).get kind = c.get kind + if n.kind = kind then 1 else 0 := by
  rcases n with ⟨_, _, _ | old⟩ | ⟨_, _, _ | _ | _⟩ <;> rcases kind with _ | _ | _ | _ | _ <;>
    simp [count, get, Notice.kind]

theorem get_foldl_count (ns : List Notice) (c : Churn) (kind : Notice.Kind) :
    (ns.foldl count c).get kind = c.get kind + UInt64.ofNat (ns.countP (·.kind = kind)) := by
  induction ns generalizing c with
  | nil => simp
  | cons n ns ih =>
    rw [List.foldl_cons, ih, get_count, List.countP_cons, UInt64.add_assoc]
    congr 1
    by_cases hn : n.kind = kind
    · simp [hn, UInt64.ofNat_add, UInt64.add_comm]
    · simp [hn]

/-- Fewer notices than a word can count are counted exactly. -/
theorem toNat_get_ofNotices {ns : List Notice} (hfew : ns.length < 2 ^ 64) (kind : Notice.Kind) :
    ((ofNotices ns).get kind).toNat = ns.countP (·.kind = kind) := by
  have hzero : (({} : Churn).get kind) = 0 := by rcases kind with _ | _ | _ | _ | _ <;> rfl
  rw [ofNotices, get_foldl_count, hzero, UInt64.zero_add]
  exact UInt64.toNat_ofNat_of_lt' (Nat.lt_of_le_of_lt List.countP_le_length hfew)

end Churn

namespace Movement

/-- What observers are told of a movement. -/
def notice? : Movement → Option Notice
  | .told n _ => some n
  | .silently .. => none

/-- A device goes and no one is told. -/
def isLoss : Movement → Bool
  | .told .. => false
  | .silently _ d => d.isSome

/-- How many of some movements are told as a kind. -/
def number (kind : Notice.Kind) (ms : List Movement) : Nat := (ms.filterMap notice?).countP (·.kind = kind)

/-- A number of devices changes by what comes and by what goes. -/
def Balances (ms : List Movement) (n n' : Nat) : Prop :=
  n + number .added ms =
    n' + number (.removed .explicit) ms + number (.removed .expired) ms + number (.removed .disconnected) ms +
      ms.countP isLoss

theorem number_append (kind : Notice.Kind) (ms ns : List Movement) :
    number kind (ms ++ ns) = number kind ms + number kind ns := by
  rw [number, List.filterMap_append, List.countP_append]
  rfl

theorem balances_nil (n : Nat) : Balances [] n n := rfl

theorem Balances.append {ms ns : List Movement} {n₁ n₂ n₃ : Nat} (h : Balances ms n₁ n₂) (h' : Balances ns n₂ n₃) :
    Balances (ms ++ ns) n₁ n₃ := by
  unfold Balances at h h' ⊢
  simp only [number_append, List.countP_append]
  omega

end Movement

namespace Hub

/-- What observers do, by their places, and how their callbacks go. -/
def parts (h : Hub) : List (ObserverRole × (Nat → Conduct)) := h.observers.map fun o => (o.role, o.conduct)

/-- Observers that count do so in tallies of their own and never panic. -/
structure Sound (h : Hub) : Prop where
  bound : ∀ (j m : Nat) conduct, h.parts[j]? = some (.tally m, conduct) → m < h.tallies.length
  alone : ∀ (i j m : Nat) conduct conduct', h.parts[i]? = some (.tally m, conduct) →
    h.parts[j]? = some (.tally m, conduct') → i = j
  acts : ∀ (j m : Nat) conduct, h.parts[j]? = some (.tally m, conduct) → conduct = fun _ => .acts

/-- A tally has its observer at some place. -/
structure Keeps (k i : Nat) (h : Hub) : Prop extends Sound h where
  own : h.parts[i]? = some (.tally k, fun _ => .acts)

/-- Observers that count come with tallies only. -/
def Op.isHonest : Op → Bool
  | .addObserver o =>
    match o.role with
    | .tally _ => false
    | _ => true
  | _ => true

variable {now : Int} {n : Notice} {h h' h₁ h₂ h₃ : Hub} {k i j : Nat}

/-! ## Observers -/

theorem parts_act (now : Int) (n : Notice) (h : Hub) (role : ObserverRole) :
    (h.act now n role).parts = h.parts ∧ (h.act now n role).tallies.length = h.tallies.length := by
  cases role with
  | idle | logger => exact ⟨rfl, rfl⟩
  | tally m => exact ⟨rfl, List.length_modify ..⟩

theorem parts_tell (h : Hub) (j : Nat) :
    (tell now n h j).parts = h.parts ∧ (tell now n h j).tallies.length = h.tallies.length := by
  cases hj : h.observers[j]? with
  | none => simp [tell, hj]
  | some o =>
    let heard : Hub := { h with observers := h.observers.set j { o with heard := o.heard + 1 } }
    have hset : heard.parts = h.parts := by
      refine List.ext_getElem? fun l => ?_
      simp only [parts, heard, List.getElem?_map, List.getElem?_set]
      split
      · rename_i hl
        subst hl
        split <;> simp_all
      · rfl
    have hact := parts_act now n (heard.emit now (.observed j n (h.registry.contains n.id))) o.role
    simp only [tell, hj]
    split
    · exact ⟨hact.1.trans hset, hact.2⟩
    · exact ⟨hset, rfl⟩
    · exact ⟨hset, rfl⟩

theorem Sound.of_eq (hs : h.Sound) (hparts : h'.parts = h.parts) (hlen : h'.tallies.length = h.tallies.length) :
    h'.Sound := by
  obtain ⟨hbound, halone, hacts⟩ := hs
  rw [← hparts] at hbound halone hacts
  exact ⟨hlen ▸ hbound, halone, hacts⟩

theorem Keeps.of_eq (hk : h.Keeps k i) (hparts : h'.parts = h.parts) (hlen : h'.tallies.length = h.tallies.length) :
    h'.Keeps k i :=
  ⟨hk.toSound.of_eq hparts hlen, by rw [hparts]; exact hk.own⟩

theorem keeps_tell (hk : h.Keeps k i) (j : Nat) : (tell now n h j).Keeps k i :=
  hk.of_eq (parts_tell h j).1 (parts_tell h j).2

/-- Only the observer of a tally counts in it. -/
theorem tallies_tell (hk : h.Keeps k i) (j : Nat) :
    (tell now n h j).tallies[k]? = if j = i then (h.tallies[k]?).map (·.count n) else h.tallies[k]? := by
  cases hj : h.observers[j]? with
  | none =>
    have hne : j ≠ i := by
      rintro rfl
      have hown := hk.own
      rw [parts, List.getElem?_map, hj] at hown
      cases hown
    rw [if_neg hne]
    simp [tell, hj]
  | some o =>
    have hpart : h.parts[j]? = some (o.role, o.conduct) := by rw [parts, List.getElem?_map, hj]; rfl
    by_cases hji : j = i
    · subst hji
      obtain ⟨hrole, hconduct⟩ := Prod.mk.inj (Option.some.inj (hpart.symm.trans hk.own))
      rw [if_pos rfl]
      simp only [tell, hj, hrole, hconduct, act, emit, List.getElem?_modify, if_true]
      rfl
    · have hother : ∀ m, o.role = .tally m → m ≠ k := by
        rintro m hm rfl
        exact hji (hk.alone j i m o.conduct _ (by rw [hpart, hm]) hk.own)
      rw [if_neg hji]
      simp only [tell, hj]
      split
      · cases hrole : o.role with
        | idle | logger => rfl
        | tally m =>
          simp only [act, emit, List.getElem?_modify, if_neg (hother m hrole)]
          exact Option.map_id'
      · rfl
      · rfl

theorem tallies_foldl_tell {js : List Nat} (hjs : js.Nodup) (hk : h.Keeps k i) :
    (js.foldl (tell now n) h).tallies[k]? =
      if i ∈ js then (h.tallies[k]?).map (·.count n) else h.tallies[k]? := by
  induction js generalizing h with
  | nil => rfl
  | cons j js ih =>
    obtain ⟨hnot, hnodup⟩ := List.nodup_cons.mp hjs
    rw [List.foldl_cons, ih hnodup (keeps_tell hk j), tallies_tell hk]
    by_cases hji : j = i
    · subst hji
      simp [hnot]
    · simp [hji, Ne.symm hji]

theorem parts_announce (h : Hub) (n : Notice) :
    (h.announce now n).parts = h.parts ∧ (h.announce now n).tallies.length = h.tallies.length := by
  have hfold : ∀ (js : List Nat) (h : Hub), (js.foldl (tell now n) h).parts = h.parts ∧
      (js.foldl (tell now n) h).tallies.length = h.tallies.length := by
    intro js
    induction js with
    | nil => exact fun h => ⟨rfl, rfl⟩
    | cons j js ih => exact fun h => ⟨(ih _).1.trans (parts_tell h j).1, (ih _).2.trans (parts_tell h j).2⟩
  exact hfold (List.range h.observers.length) h

/-- A notice counts once in each tally. -/
theorem tallies_announce (hk : h.Keeps k i) (n : Notice) :
    (h.announce now n).tallies[k]? = (h.tallies[k]?).map (·.count n) := by
  have hi : i < h.observers.length := by
    obtain ⟨hlt, -⟩ := List.getElem?_eq_some_iff.mp hk.own
    rwa [parts, List.length_map] at hlt
  exact (tallies_foldl_tell List.nodup_range hk).trans (if_pos (List.mem_range.mpr hi))

/-! ## New observers -/

/-- An observer comes last. -/
theorem getElem?_parts_concat {o : Observer} (hobservers : h'.observers = h.observers ++ [o]) {j : Nat}
    {part : ObserverRole × (Nat → Conduct)} (hj : h'.parts[j]? = some part) :
    h.parts[j]? = some part ∨ j = h.observers.length ∧ part = (o.role, o.conduct) := by
  have hparts : h'.parts = h.parts ++ [(o.role, o.conduct)] := by rw [parts, hobservers, List.map_append]; rfl
  rw [hparts, List.getElem?_append] at hj
  split at hj
  · exact .inl hj
  · obtain ⟨hlt, heq⟩ := List.getElem?_eq_some_iff.mp hj
    rw [List.length_singleton] at hlt
    have hlen : h.parts.length = h.observers.length := List.length_map _
    refine .inr ⟨by omega, ?_⟩
    rw [← heq, List.getElem_singleton]

/-- Observers keep their places. -/
theorem getElem?_parts_of_concat {o : Observer} (hobservers : h'.observers = h.observers ++ [o])
    {part : ObserverRole × (Nat → Conduct)} (hi : h.parts[i]? = some part) : h'.parts[i]? = some part := by
  have hlt : i < h.parts.length := (List.getElem?_eq_some_iff.mp hi).1
  have hparts : h'.parts = h.parts ++ [(o.role, o.conduct)] := by rw [parts, hobservers, List.map_append]; rfl
  rw [hparts, List.getElem?_append_left hlt]
  exact hi

/-- An observer that is no tally's does not count. -/
theorem sound_addObserver (hs : h.Sound) {o : Observer} (ho : ∀ m, o.role ≠ .tally m) : (h.addObserver o).Sound := by
  have hold : ∀ {j m : Nat} {conduct}, (h.addObserver o).parts[j]? = some (.tally m, conduct) →
      h.parts[j]? = some (.tally m, conduct) := by
    intro j m conduct hj
    rcases getElem?_parts_concat (o := o) rfl hj with hj | ⟨-, heq⟩
    · exact hj
    · exact absurd (Prod.mk.inj heq).1.symm (ho m)
  exact ⟨fun j m c hj => hs.bound j m c (hold hj), fun i j m c c' hi hj => hs.alone i j m c c' (hold hi) (hold hj),
    fun j m c hj => hs.acts j m c (hold hj)⟩

/-- A tally comes with its observer. -/
theorem keeps_addTally (hs : h.Sound) : h.addTally.2.Keeps h.tallies.length h.observers.length := by
  have hlen : h.addTally.2.tallies.length = h.tallies.length + 1 := by simp [addTally]
  have hold : ∀ {j m : Nat} {conduct}, h.addTally.2.parts[j]? = some (.tally m, conduct) →
      (h.parts[j]? = some (.tally m, conduct) ∧ m < h.tallies.length) ∨
        j = h.observers.length ∧ m = h.tallies.length ∧ conduct = fun _ => .acts := by
    intro j m conduct hj
    rcases getElem?_parts_concat (o := { role := .tally h.tallies.length }) rfl hj with hj | ⟨rfl, heq⟩
    · exact .inl ⟨hj, hs.bound j m conduct hj⟩
    · obtain ⟨hrole, hconduct⟩ := Prod.mk.inj heq
      exact .inr ⟨rfl, ObserverRole.tally.inj hrole, hconduct⟩
  refine ⟨⟨fun j m c hj => ?_, fun i j m c c' hi hj => ?_, fun j m c hj => ?_⟩, ?_⟩
  · rcases hold hj with ⟨-, hlt⟩ | ⟨-, rfl, -⟩ <;> omega
  · rcases hold hi with ⟨hi, hlt⟩ | ⟨rfl, rfl, -⟩ <;> rcases hold hj with ⟨hj, hlt'⟩ | ⟨rfl, heq, -⟩
    · exact hs.alone i j m c c' hi hj
    · omega
    · omega
    · rfl
  · rcases hold hj with ⟨hj, -⟩ | ⟨-, -, hacts⟩
    · exact hs.acts j m c hj
    · exact hacts
  · simp [parts, addTally]

/-! ## One atom -/

/-- Nothing else changes what observers do. -/
theorem parts_atom (now : Int) (h : Hub) {a : Atom} (hobserver : ∀ o, a ≠ .addObserver o) (htally : a ≠ .addTally) :
    (h.atom now a).parts = h.parts ∧ (h.atom now a).tallies.length = h.tallies.length := by
  cases a with
  | store key p => exact parts_announce { h with registry := (h.registry.store key p now).2.2 } _
  | erase id reason =>
    cases hd : h.registry.get? id with
    | none =>
      rw [atom_erase_of_none reason hd]
      exact ⟨rfl, rfl⟩
    | some d =>
      rw [atom_erase_of_some reason hd]
      exact parts_announce { h with registry := h.registry.erase id } _
  | recordSequence id n =>
    cases hd : h.registry.get? id with
    | none => simp [atom, recordSequence, hd]
    | some d => simp [atom, recordSequence, hd, parts]
  | hear l id link state =>
    refine ⟨by simp [atom, parts], ?_⟩
    simp only [atom, hear]
    split <;> rfl
  | addObserver o => exact absurd rfl (hobserver o)
  | addTally => exact absurd rfl htally
  | takeTally k' => exact ⟨rfl, by simp [atom, takeTally]⟩
  | eraseSilently | touch | openLink | setLink | setSlots | addWatcher | log | report | poison => exact ⟨rfl, rfl⟩

/-- An atom that brings no observer that counts, unless a tally comes with it. -/
def Atom.IsHonest (a : Atom) : Prop := ∀ o, a = .addObserver o → ∀ m, o.role ≠ .tally m

theorem sound_atom (hs : h.Sound) {a : Atom} (ha : a.IsHonest) : (h.atom now a).Sound := by
  by_cases hobserver : ∃ o, a = .addObserver o
  · obtain ⟨o, rfl⟩ := hobserver
    exact sound_addObserver hs (ha o rfl)
  · by_cases htally : a = .addTally
    · subst htally
      exact (keeps_addTally hs).toSound
    · obtain ⟨hparts, hlen⟩ := parts_atom now h (not_exists.mp hobserver) htally
      exact hs.of_eq hparts hlen

theorem keeps_atom (hk : h.Keeps k i) {a : Atom} (ha : a.IsHonest) : (h.atom now a).Keeps k i := by
  refine ⟨sound_atom hk.toSound ha, ?_⟩
  by_cases hobserver : ∃ o, a = .addObserver o
  · obtain ⟨o, rfl⟩ := hobserver
    exact getElem?_parts_of_concat (o := o) rfl hk.own
  · by_cases htally : a = .addTally
    · subst htally
      exact getElem?_parts_of_concat (o := { role := .tally h.tallies.length }) rfl hk.own
    · rw [(parts_atom now h (not_exists.mp hobserver) htally).1]
      exact hk.own

/-- Each observer that was there has been told of some movements, and a tally has counted them. -/
structure Counts (k : Nat) (h h' : Hub) (ms : List Movement) : Prop where
  observers : h.observers.length ≤ h'.observers.length
  told : ∀ j, j < h.observers.length → h'.told j = h.told j ++ ms
  tally : h'.tallies[k]? = (h.tallies[k]?).map fun c => (ms.filterMap Movement.notice?).foldl Churn.count c
  balances : Movement.Balances ms h.registry.size h'.registry.size

namespace Counts

theorem refl (h : Hub) : Counts k h h [] :=
  ⟨Nat.le_refl _, fun _ _ => (List.append_nil _).symm, Option.map_id'.symm, Movement.balances_nil _⟩

theorem trans {ms ns : List Movement} (h : Counts k h₁ h₂ ms) (h' : Counts k h₂ h₃ ns) :
    Counts k h₁ h₃ (ms ++ ns) where
  observers := Nat.le_trans h.observers h'.observers
  told := fun j hj => by
    rw [h'.told j (Nat.lt_of_lt_of_le hj h.observers), h.told j hj, List.append_assoc]
  tally := by
    rw [h'.tally, h.tally, Option.map_map, List.filterMap_append]
    simp only [List.foldl_append]
    rfl
  balances := h.balances.append h'.balances

/-- Nothing is told, and nothing changes in tallies and in the number of devices. -/
theorem of_eq (hobservers : h.observers.length ≤ h'.observers.length) (htold : ∀ j, h'.told j = h.told j)
    (htally : h'.tallies[k]? = h.tallies[k]?) (hsize : h'.registry.size = h.registry.size) : Counts k h h' [] where
  observers := hobservers
  told := fun j _ => by rw [htold, List.append_nil]
  tally := htally.trans Option.map_id'.symm
  balances := hsize ▸ Movement.balances_nil _

end Counts

theorem counts_announce (hk : h.Keeps k i) {r : Registry} {n : Notice}
    (hbalances : Movement.Balances [.told n (r.contains n.id)] h.registry.size r.size) :
    Counts k h ({ h with registry := r }.announce now n) [.told n (r.contains n.id)] := by
  have hquiet : { h with registry := r }.Undisturbed ({ h with registry := r }.announce now n) :=
    undisturbed_announce _
  refine ⟨Nat.le_of_eq hquiet.observers.symm, fun j hj => ?_, ?_, ?_⟩
  · exact told_announce (h := { h with registry := r }) hj
  · exact tallies_announce (h := { h with registry := r }) (hk.of_eq rfl rfl) n
  · rw [hquiet.registry]
    exact hbalances

/-- Atoms after which a tally has counted what was told. -/
def Atom.IsPlain (k : Nat) : Atom → Prop
  | .eraseSilently _ => False
  | .takeTally k' => k' ≠ k
  | _ => True

theorem size_update (r : Registry) (id : DeviceId) (f : Device → Device) : (r.update id f).size = r.size :=
  Std.ExtTreeMap.size_modify

/-- A device more, or another one in its place. -/
theorem balances_store (r : Registry) (key : DeviceId) (p : Profile) (now : Int) (present : Bool) :
    Movement.Balances [.told (.added key (r.store key p now).1 (r.get? key)) present] r.size
      (r.store key p now).2.2.size := by
  have hsize : (r.store key p now).2.2.size = if (r.get? key).isSome then r.size else r.size + 1 := by
    rw [← Registry.contains_eq_isSome]
    exact Std.ExtTreeMap.size_insert
  rw [hsize]
  cases r.get? key <;> rfl

/-- A device less. -/
theorem size_erase {r : Registry} {id : DeviceId} {d : Device} (hd : r.get? id = some d) :
    (r.erase id).size + 1 = r.size := by
  have hcontains : r.entries.contains id = true := by
    have hsome := r.contains_eq_isSome id
    rwa [hd] at hsome
  have hsize : (r.erase id).size = r.size - 1 := Std.ExtTreeMap.size_erase.trans (if_pos hcontains)
  have hpos : r.size ≠ 0 := fun hzero => by
    have hempty : r.entries = ∅ := Std.ExtTreeMap.eq_empty_iff_size_eq_zero.mpr hzero
    rw [hempty] at hcontains
    simp at hcontains
  omega

theorem balances_erase {r : Registry} {id : DeviceId} {d : Device} (hd : r.get? id = some d) (reason : RemovalReason)
    (present : Bool) : Movement.Balances [.told (.removed id d reason) present] r.size (r.erase id).size := by
  have hsize : (r.erase id).size + 1 = r.size := size_erase hd
  cases reason <;> exact hsize.symm

theorem counts_atom (hk : h.Keeps k i) {a : Atom} (ha : a.IsPlain k) : ∃ ms, Counts k h (h.atom now a) ms := by
  cases a with
  | store key p => exact ⟨_, counts_announce hk (balances_store h.registry key p now _)⟩
  | erase id reason =>
    cases hd : h.registry.get? id with
    | none =>
      rw [atom_erase_of_none reason hd]
      exact ⟨[], .refl h⟩
    | some d =>
      rw [atom_erase_of_some reason hd]
      exact ⟨_, counts_announce hk (balances_erase hd reason _)⟩
  | eraseSilently id => exact ha.elim
  | touch id => exact ⟨[], .of_eq (Nat.le_refl _) (fun _ => rfl) rfl (size_update ..)⟩
  | recordSequence id n =>
    cases hd : h.registry.get? id with
    | none => exact ⟨[], by simpa [atom, recordSequence, hd] using Counts.refl h⟩
    | some d =>
      refine ⟨[], .of_eq ?_ (fun _ => ?_) ?_ ?_⟩ <;> simp [atom, recordSequence, hd, told, seen, size_update]
  | hear l id link state =>
    have htallies : (h.hear now l id link state).tallies = h.tallies := by
      unfold hear
      split <;> rfl
    exact ⟨[], .of_eq (by simp [atom]) (fun _ => told_hear l id link state) (congrArg (·[k]?) htallies)
      (by simp [atom])⟩
  | addObserver o => exact ⟨[], .of_eq (by simp [atom, addObserver]) (fun _ => rfl) rfl rfl⟩
  | addTally =>
    have hlt : k < h.tallies.length := hk.bound i k _ hk.own
    exact ⟨[], .of_eq (by simp [atom, Hub.addTally]) (fun _ => rfl) (List.getElem?_append_left hlt) rfl⟩
  | takeTally k' => exact ⟨[], .of_eq (Nat.le_refl _) (fun _ => rfl) (List.getElem?_set_ne ha) rfl⟩
  | log | report => exact ⟨[], .of_eq (Nat.le_refl _) (fun _ => told_emit (by simp)) rfl rfl⟩
  | openLink | setLink | setSlots | addWatcher | poison => exact ⟨[], .of_eq (Nat.le_refl _) (fun _ => rfl) rfl rfl⟩

/-! ## Calls -/

theorem role_of_isHonest {o : Observer} (ho : (Op.addObserver o).isHonest = true) (m : Nat) : o.role ≠ .tally m := by
  intro hrole
  simp [Op.isHonest, hrole] at ho

theorem Op.Makes.isHonest {op : Op} {a : Atom} (ha : op.Makes a) (hop : op.isHonest = true) : a.IsHonest := by
  rintro o rfl
  cases op with
  | addObserver o' =>
    obtain rfl := Atom.addObserver.inj ha
    exact role_of_isHonest hop
  | sweep | sweepOver => cases ha
  | reportActive | reportInactive =>
    rcases ha with _ | _ | (_ | _ | ha)
    cases ha
  | _ => simp [Op.Makes] at ha

theorem sound_step (hs : h.Sound) {op : Op} (hop : op.isHonest = true) (now : Int) : (h.step now op).Sound :=
  (reaches_step h op).lift (R := fun h h' => h.Sound → h'.Sound) (fun _ => id) (fun hab hbc hs => hbc (hab hs))
    (fun _ _ ha hs => sound_atom hs (ha.isHonest hop)) hs

theorem keeps_step (hk : h.Keeps k i) {op : Op} (hop : op.isHonest = true) (now : Int) : (h.step now op).Keeps k i :=
  (reaches_step h op).lift (R := fun h h' => h.Keeps k i → h'.Keeps k i) (fun _ => id) (fun hab hbc hk => hbc (hab hk))
    (fun _ _ ha hk => keeps_atom hk (ha.isHonest hop)) hk

/-- Calls from which observers come to count stay out, and the observers that are there stay. -/
theorem sound_run (hs : h.Sound) {calls : List Call} (hcalls : ∀ c ∈ calls, c.2.isHonest = true) :
    (h.run calls).Sound := by
  induction calls generalizing h with
  | nil => exact hs
  | cons c cs ih =>
    exact ih (sound_step hs (hcalls c List.mem_cons_self) c.1) fun c' hc' => hcalls c' (List.mem_cons_of_mem c hc')

theorem keeps_run (hk : h.Keeps k i) {calls : List Call} (hcalls : ∀ c ∈ calls, c.2.isHonest = true) :
    (h.run calls).Keeps k i := by
  induction calls generalizing h with
  | nil => exact hk
  | cons c cs ih =>
    exact ih (keeps_step hk (hcalls c List.mem_cons_self) c.1) fun c' hc' => hcalls c' (List.mem_cons_of_mem c hc')

/-- A call that leaves a tally to its observer. -/
structure Op.Spares (k : Nat) (op : Op) : Prop where
  isHonest : op.isHonest = true
  take : op ≠ .takeTally k
  report : ∀ load, op ≠ .report k load

theorem Op.Makes.isPlain {op : Op} {a : Atom} (ha : op.Makes a) (hop : op.Spares k)
    (hsilent : ∀ id, op ≠ .removeSilently id) : a.IsPlain k := by
  have herase : ∀ id, a ≠ .eraseSilently id := ha.ne_eraseSilently hsilent
  cases a with
  | eraseSilently id => exact absurd rfl (herase id)
  | takeTally k' =>
    rintro rfl
    cases op with
    | takeTally k'' => exact hop.take (congrArg _ (Atom.takeTally.inj ha).symm)
    | report k'' load =>
      rcases ha with heq | ⟨churn, heq⟩
      · obtain rfl := Atom.takeTally.inj heq
        exact hop.report load rfl
      · cases heq
    | sweep | sweepOver => cases ha
    | reportActive | reportInactive =>
      rcases ha with _ | _ | (_ | _ | ha)
      cases ha
    | _ => simp [Op.Makes] at ha
  | _ => trivial

/-- Without calls that are silent, whoever is told of anything is told the same. -/
theorem counts_step (hk : h.Keeps k i) {op : Op} (hop : op.Spares k) (hsilent : ∀ id, op ≠ .removeSilently id)
    (now : Int) : ∃ ms, Counts k h (h.step now op) ms := by
  refine ((reaches_step h op).lift (R := fun h h' => h.Keeps k i → h'.Keeps k i ∧ ∃ ms, Counts k h h' ms)
    (fun h hk => ⟨hk, [], .refl h⟩) ?_ ?_ hk).2
  · intro h₁ h₂ h₃ h₁₂ h₂₃ hk
    obtain ⟨hk₂, ms, hms⟩ := h₁₂ hk
    obtain ⟨hk₃, ns, hns⟩ := h₂₃ hk₂
    exact ⟨hk₃, ms ++ ns, hms.trans hns⟩
  · exact fun h a ha hk => ⟨keeps_atom hk (ha.isHonest hop.isHonest), counts_atom hk (ha.isPlain hop hsilent)⟩

theorem balances_removeSilently (h : Hub) (id : DeviceId) :
    Movement.Balances [.silently id (h.registry.get? id)] h.registry.size (h.removeSilently id).2.registry.size := by
  rw [removeSilently_eq]
  change Movement.Balances _ _ (h.registry.erase id).size
  cases hd : h.registry.get? id with
  | none =>
    have hcontains : h.registry.entries.contains id = false := by
      have hsome := h.registry.contains_eq_isSome id
      rwa [hd] at hsome
    have hsize : (h.registry.erase id).size = h.registry.size :=
      Std.ExtTreeMap.size_erase.trans (if_neg (Bool.eq_false_iff.mp hcontains))
    exact hsize.symm
  | some d => exact (size_erase hd).symm

theorem Keeps.lt_observers (hk : h.Keeps k i) (hj : j ≤ i) : j < h.observers.length := by
  have hlt := (List.getElem?_eq_some_iff.mp hk.own).1
  rw [parts, List.length_map] at hlt
  exact Nat.lt_of_le_of_lt hj hlt

/-- What a call does to a tally and to the number of devices, by what an observer is told. -/
theorem reckon_step (hk : h.Keeps k i) {c : Call} (hc : c.2.Spares k) (hj : j ≤ i) :
    (h.step c.1 c.2).tallies[k]? = (h.tallies[k]?).map (fun churn =>
        ((h.movements j c).filterMap Movement.notice?).foldl Churn.count churn) ∧
      Movement.Balances (h.movements j c) h.registry.size (h.step c.1 c.2).registry.size := by
  obtain ⟨now, op⟩ := c
  by_cases hsilent : ∃ id, op = .removeSilently id
  · obtain ⟨id, rfl⟩ := hsilent
    have hmove : h.movements j (now, .removeSilently id) = [.silently id (h.registry.get? id)] := by
      simp [movements, step, removeSilently_eq, told, seen]
    have htallies : (h.step now (.removeSilently id)).tallies = h.tallies := by
      rw [step, removeSilently_eq]
    rw [hmove]
    exact ⟨(congrArg (·[k]?) htallies).trans Option.map_id'.symm, balances_removeSilently h id⟩
  · rw [not_exists] at hsilent
    obtain ⟨ms, hms⟩ := counts_step hk hc hsilent now
    have hmove : h.movements j (now, op) = ms := by
      unfold movements
      rw [hms.told j (hk.lt_observers hj), List.drop_left]
      cases op with
      | removeSilently id => exact absurd rfl (hsilent id)
      | _ => exact List.append_nil ms
    rw [hmove]
    exact ⟨hms.tally, hms.balances⟩

theorem reckon_run (hk : h.Keeps k i) {calls : List Call} (hcalls : ∀ c ∈ calls, c.2.Spares k) (hj : j ≤ i) :
    (h.run calls).tallies[k]? = (h.tallies[k]?).map (fun churn =>
        ((h.account j calls).filterMap Movement.notice?).foldl Churn.count churn) ∧
      Movement.Balances (h.account j calls) h.registry.size (h.run calls).registry.size := by
  induction calls generalizing h with
  | nil => exact ⟨Option.map_id'.symm, Movement.balances_nil _⟩
  | cons c cs ih =>
    have hc : c.2.Spares k := hcalls c List.mem_cons_self
    obtain ⟨htally, hbalances⟩ := reckon_step hk hc hj
    obtain ⟨htallies, hrest⟩ := ih (keeps_step hk hc.isHonest c.1) fun c' hc' => hcalls c' (List.mem_cons_of_mem c hc')
    rw [account, List.filterMap_append]
    refine ⟨?_, hbalances.append hrest⟩
    rw [run_cons, htallies, htally, Option.map_map]
    simp only [List.foldl_append]
    rfl

/-! ## Reports -/

/-- The notices that an observer is told in a run. -/
def notices (j : Nat) (h : Hub) (calls : List Call) : List Notice :=
  (h.account j calls).filterMap Movement.notice?

/-- How many devices are taken away silently in a run. -/
def losses (j : Nat) (h : Hub) (calls : List Call) : Nat := (h.account j calls).countP Movement.isLoss

/-- What is known of a tally after calls in which it was not reported, by the notices that were given in
them. -/
structure Reckoned (k j : Nat) (h : Hub) (calls : List Call) : Prop where
  /-- The tally stands at the counts of these notices. -/
  tally : (h.run calls).tallies[k]? = some (Churn.ofNotices (h.notices j calls))
  /-- A report publishes these counts and the number of devices under every load, and the tally starts again. -/
  report : ∀ now load, (h.run calls).step now (.report k load) =
    { h.run calls with
      tallies := (h.run calls).tallies.set k {}
      trace := (h.run calls).trace.push
        ⟨now, .reported load.alarm (h.run calls).registry.size (Churn.ofNotices (h.notices j calls))⟩ }
  fields : (h.notices j calls).length < 2 ^ 64 → ∀ kind,
    ((Churn.ofNotices (h.notices j calls)).get kind).toNat = (h.notices j calls).countP (·.kind = kind)
  /-- The number of devices has changed by what was added and by what was taken away, not by replacements. -/
  balance : (h.notices j calls).length < 2 ^ 64 →
    let churn := Churn.ofNotices (h.notices j calls)
    ((h.run calls).registry.size : Int) - h.registry.size =
      churn.added.toNat - churn.removed.toNat - churn.expired.toNat - churn.disconnected.toNat - h.losses j calls

/-- The calls before some moment end with a report of a tally, or there are none. -/
def EndsWithReport (k : Nat) (calls : List Call) : Prop :=
  calls = [] ∨ ∃ earlier now load, calls = earlier ++ [(now, .report k load)]

/-- A report leaves the tally at zero. -/
theorem tally_report (hk : h.Keeps k i) (now : Int) (load : Load) :
    (h.step now (.report k load)).tallies[k]? = some {} := by
  have hlt : k < h.tallies.length := hk.bound i k _ hk.own
  rw [step_report]
  change (h.tallies.set k {})[k]? = some {}
  rw [List.getElem?_set_self hlt]

theorem reckoned_of_zero (hk : h.Keeps k i) (hzero : h.tallies[k]? = some {}) {calls : List Call}
    (hcalls : ∀ c ∈ calls, c.2.Spares k) (hj : j ≤ i) : Reckoned k j h calls := by
  obtain ⟨htally, hbalances⟩ := reckon_run hk hcalls hj
  rw [hzero, Option.map_some] at htally
  have hfields : (h.notices j calls).length < 2 ^ 64 → ∀ kind,
      ((Churn.ofNotices (h.notices j calls)).get kind).toNat = (h.notices j calls).countP (·.kind = kind) :=
    fun hfew kind => Churn.toNat_get_ofNotices hfew kind
  refine ⟨htally, fun now load => ?_, hfields, fun hfew => ?_⟩
  · rw [step_report]
    simp only [atom, takeTally, htally]
    rfl
  · have hcount := hfields hfew
    have hadded := hcount .added
    have hremoved := hcount (.removed .explicit)
    have hexpired := hcount (.removed .expired)
    have hdisconnected := hcount (.removed .disconnected)
    simp only [Churn.get] at hadded hremoved hexpired hdisconnected
    simp only [hadded, hremoved, hexpired, hdisconnected]
    unfold Movement.Balances Movement.number at hbalances
    unfold notices losses
    omega

/-- Between any two reports of a tally, and after the last one, the tally counts the notices that are given,
whoever else hears them and panics. -/
theorem reckoned_of_run (hk : h.Keeps k i) (hzero : h.tallies[k]? = some {}) {before between : List Call}
    (hbefore : ∀ c ∈ before, c.2.isHonest = true) (hreport : EndsWithReport k before)
    (hbetween : ∀ c ∈ between, c.2.Spares k) (hj : j ≤ i) : Reckoned k j (h.run before) between := by
  refine reckoned_of_zero (keeps_run hk hbefore) ?_ hbetween hj
  rcases hreport with rfl | ⟨earlier, now, load, rfl⟩
  · exact hzero
  · rw [run_append]
    exact tally_report (keeps_run hk fun c hc => hbefore c (List.mem_append_left _ hc)) now load

end Hub

end Liveness
