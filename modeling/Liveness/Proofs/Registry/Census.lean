import Liveness.Registry.Notice
import Mathlib.Logic.Function.Basic

/-!
# The census of a registry

A census says which appearance of a peer is under each id.  It changes by
*movements*, which is what an observer can tell of the registry from outside:
the notices it receives, and the removals of which no one is told.  The results
are about movements that fit the census they find: no appearance then comes
twice, and none goes twice or before it came.
-/

namespace Liveness

/-- Which appearance is under each id, and how many there ever were. -/
@[ext]
structure Census where
  roster : DeviceId → Option Nat
  stored : Nat

/-- A change of the registry, as it can be told from outside. -/
inductive Movement where
  /-- A notice, and whether the registry had a device under the id while the notice was given. -/
  | told (n : Notice) (present : Bool)
  /-- A device was taken away, and no one was told. -/
  | silently (id : DeviceId) (device : Option Device)

namespace Movement

/-- The appearance that comes into the registry. -/
def entered : Movement → Option Nat
  | .told (.added _ d _) _ => some d.serial
  | .told (.removed ..) _ | .silently .. => none

/-- The appearance that goes out of the registry. -/
def left : Movement → Option Nat
  | .told (.added _ _ old) _ => old.map (·.serial)
  | .told (.removed _ d _) _ => some d.serial
  | .silently _ d => d.map (·.serial)

/-- A movement is true of the census it finds: a new device is a new appearance, the old one that it
replaces is the one that was there, a device that is removed was there, and the registry already
tells of the change. -/
def Fits (c : Census) : Movement → Prop
  | .told (.added id d old) present =>
    d.serial = c.stored + 1 ∧ c.roster id = old.map (·.serial) ∧ present = true
  | .told (.removed id d _) present => c.roster id = some d.serial ∧ present = false
  | .silently id d => c.roster id = d.map (·.serial)

end Movement

namespace Census

/-- The census with no one under an id. -/
def forget (c : Census) (id : DeviceId) : Census := ⟨Function.update c.roster id none, c.stored⟩

/-- The census after a movement. -/
def after (c : Census) : Movement → Census
  | .told (.added id d _) _ => ⟨Function.update c.roster id (some d.serial), c.stored + 1⟩
  | .told (.removed id ..) _ | .silently id _ => c.forget id

/-- Each movement fits the census that those before it lead to. -/
def Fitting : Census → List Movement → Prop
  | _, [] => True
  | c, m :: ms => m.Fits c ∧ Fitting (c.after m) ms

theorem fitting_append (c : Census) (ms ns : List Movement) :
    c.Fitting (ms ++ ns) ↔ c.Fitting ms ∧ (ms.foldl after c).Fitting ns := by
  induction ms generalizing c with
  | nil => simp [Fitting]
  | cons m ms ih => simp [Fitting, ih, and_assoc]

/-- Appearances are numbered in their order, and no two ids lead to the same one. -/
structure Numbered (c : Census) : Prop where
  le_stored : ∀ {id n}, c.roster id = some n → n ≤ c.stored
  unique : ∀ {id id' n}, c.roster id = some n → c.roster id' = some n → id = id'

variable {c : Census} {m : Movement} {ms : List Movement}

theorem stored_le_after (c : Census) (m : Movement) : c.stored ≤ (c.after m).stored := by
  unfold after
  split
  · exact Nat.le_succ _
  · exact Nat.le_refl _
  · exact Nat.le_refl _

theorem roster_of_forget {id id' : DeviceId} {n : Nat} (h : (c.forget id).roster id' = some n) :
    id' ≠ id ∧ c.roster id' = some n := by
  by_cases hid : id' = id
  · simp [forget, hid] at h
  · exact ⟨hid, by simpa [forget, hid] using h⟩

/-- A census that only forgets an id stays numbered. -/
theorem Numbered.forget (hc : c.Numbered) (id : DeviceId) : (c.forget id).Numbered where
  le_stored h := hc.le_stored (roster_of_forget h).2
  unique h h' := hc.unique (roster_of_forget h).2 (roster_of_forget h').2

theorem Numbered.after (hc : c.Numbered) (hm : m.Fits c) : (c.after m).Numbered := by
  match m with
  | .told (.removed id d reason) present => exact hc.forget id
  | .silently id d => exact hc.forget id
  | .told (.added id d old) present =>
    obtain ⟨hserial, -, -⟩ := hm
    have hother : ∀ {id' n}, id' ≠ id → (c.after (.told (.added id d old) present)).roster id' = some n →
        c.roster id' = some n := fun hne h => by simpa [Census.after, hne] using h
    have hself : ∀ {n}, (c.after (.told (.added id d old) present)).roster id = some n → n = c.stored + 1 :=
      fun h => by simp [Census.after] at h; omega
    constructor
    · intro id' n h
      by_cases hid : id' = id
      · exact Nat.le_of_eq (hself (hid ▸ h))
      · exact Nat.le_succ_of_le (hc.le_stored (hother hid h))
    · intro id' id'' n h h'
      by_cases hid : id' = id
      · by_cases hid' : id'' = id
        · rw [hid, hid']
        · have := hself (hid ▸ h)
          have := hc.le_stored (hother hid' h')
          omega
      · by_cases hid' : id'' = id
        · have := hself (hid' ▸ h')
          have := hc.le_stored (hother hid h)
          omega
        · exact hc.unique (hother hid h) (hother hid' h')

theorem Numbered.foldl_after (hc : c.Numbered) (h : c.Fitting ms) :
    (ms.foldl Census.after c).Numbered := by
  induction ms generalizing c with
  | nil => exact hc
  | cons m ms ih => exact ih (hc.after h.1) h.2

/-- What is in the registry after some movements was there before or has come with one of them. -/
theorem mem_of_foldl_after {id : DeviceId} {n : Nat} (h : (ms.foldl after c).roster id = some n) :
    (∃ id, c.roster id = some n) ∨ n ∈ ms.filterMap Movement.entered := by
  induction ms generalizing c with
  | nil => exact .inl ⟨id, h⟩
  | cons m ms ih =>
    rcases ih h with ⟨id', h'⟩ | h'
    · match m with
      | .told (.removed ..) _ | .silently .. => exact .inl ⟨id', (roster_of_forget h').2⟩
      | .told (.added id₀ d old) present =>
        by_cases hid : id' = id₀
        · exact .inr (by simp [after, hid] at h'; simp [Movement.entered, h'])
        · exact .inl ⟨id', by simpa [after, hid] using h'⟩
    · refine .inr ?_
      simp only [List.filterMap_cons]
      split
      · exact h'
      · exact List.mem_cons_of_mem _ h'

/-- A new appearance has a number that was never given before. -/
theorem Fitting.stored_lt_of_entered (h : c.Fitting ms) {n : Nat}
    (hn : n ∈ ms.filterMap Movement.entered) : c.stored < n := by
  induction ms generalizing c with
  | nil => simp at hn
  | cons m ms ih =>
    obtain ⟨m', hm', hent⟩ := List.mem_filterMap.mp hn
    rcases List.mem_cons.mp hm' with rfl | hm'
    · match m', hent, h.1 with
      | .told (.added id d old) present, rfl, ⟨hserial, _, _⟩ =>
        exact hserial ▸ Nat.lt_succ_self c.stored
    · exact Nat.lt_of_le_of_lt (stored_le_after c m)
        (ih h.2 (List.mem_filterMap.mpr ⟨m', hm', hent⟩))

/-- No appearance comes twice. -/
theorem Fitting.nodup_entered (h : c.Fitting ms) : (ms.filterMap Movement.entered).Nodup := by
  induction ms generalizing c with
  | nil => exact List.nodup_nil
  | cons m ms ih =>
    match m, h with
    | .told (.removed ..) _, h | .silently .., h => exact ih h.2
    | .told (.added id d old) present, h =>
      obtain ⟨⟨hserial, -, -⟩, h⟩ := h
      refine List.nodup_cons.mpr ⟨fun hd => ?_, ih h⟩
      have hlt := h.stored_lt_of_entered hd
      simp only [after] at hlt
      omega

end Census

/-- The appearance that a movement takes away was there. -/
theorem Movement.Fits.roster_of_left {c : Census} {m : Movement} (hm : m.Fits c) {n : Nat}
    (hn : m.left = some n) : ∃ id, c.roster id = some n := by
  match m, hm with
  | .told (.added id d old) present, ⟨_, hold, _⟩ => exact ⟨id, hold.trans hn⟩
  | .told (.removed id d reason) present, ⟨hd, _⟩ => exact ⟨id, hd.trans hn⟩
  | .silently id d, hd => exact ⟨id, hd.trans hn⟩

namespace Census

variable {c : Census} {m : Movement} {ms : List Movement}

/-- The appearance that a movement takes away is nowhere in the registry after it. -/
theorem Numbered.roster_after_ne (hc : c.Numbered) (hm : m.Fits c) {n : Nat} (hn : m.left = some n)
    (id : DeviceId) : (c.after m).roster id ≠ some n := by
  intro hafter
  have hforget : ∀ {id₀}, c.roster id₀ = some n → (c.forget id₀).roster id ≠ some n :=
    fun h₀ h => (roster_of_forget h).1 (hc.unique (roster_of_forget h).2 h₀)
  match m, hm with
  | .told (.removed id₀ d reason) present, ⟨hd, _⟩ => exact hforget (hd.trans hn) hafter
  | .silently id₀ d, hd => exact hforget (hd.trans hn) hafter
  | .told (.added id₀ d old) present, ⟨hserial, hold, _⟩ =>
    by_cases hid : id = id₀
    · have hnew : n = d.serial := by simpa [Census.after, hid] using hafter.symm
      have := hc.le_stored (hold.trans hn)
      omega
    · exact hforget (hold.trans hn) (by simpa [Census.after, Census.forget, hid] using hafter)

/-- What goes was there at the start or is newer than all that was. -/
theorem Fitting.roster_or_lt_of_left (h : c.Fitting ms) {n : Nat} (hn : n ∈ ms.filterMap Movement.left) :
    (∃ id, c.roster id = some n) ∨ c.stored < n := by
  obtain ⟨m, hm, hleft⟩ := List.mem_filterMap.mp hn
  obtain ⟨pre, post, rfl⟩ := List.append_of_mem hm
  obtain ⟨hpre, hpost⟩ := (fitting_append c pre (m :: post)).mp h
  obtain ⟨id, hid⟩ := hpost.1.roster_of_left hleft
  rcases mem_of_foldl_after hid with hold | hnew
  · exact .inl hold
  · exact .inr (hpre.stored_lt_of_entered hnew)

/-- No appearance goes twice. -/
theorem Fitting.nodup_left (h : c.Fitting ms) (hc : c.Numbered) :
    (ms.filterMap Movement.left).Nodup := by
  induction ms generalizing c with
  | nil => exact List.nodup_nil
  | cons m ms ih =>
    have hrest := ih h.2 (hc.after h.1)
    cases hn : m.left with
    | none => rwa [List.filterMap_cons_none hn]
    | some n =>
      rw [List.filterMap_cons_some hn]
      refine List.nodup_cons.mpr ⟨fun hmem => ?_, hrest⟩
      obtain ⟨id, hid⟩ := h.1.roster_of_left hn
      rcases h.2.roster_or_lt_of_left hmem with ⟨id', hid'⟩ | hlt
      · exact hc.roster_after_ne h.1 hn id' hid'
      · have := hc.le_stored hid
        have := stored_le_after c m
        omega

end Census

end Liveness
