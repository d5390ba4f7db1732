import Liveness.Proofs.Hub.Refresh

/-!
# What the sequence numbers of a device come to

A sequence mark keeps the greatest number recorded, plus one in one word.  The two
largest words share a mark, so the largest one counts as the one before it:
`SequenceStatus.kept`.  With that one change the mark of a device classifies
numbers by all those that were recorded for the device before, whatever else goes on in
the registry (`Hub.sequence_of_run`).
-/

namespace Liveness

/-- A number is the greatest of those given. -/
def Greatest (given : List UInt64) (n : UInt64) : Prop := n ∈ given ∧ ∀ m ∈ given, m ≤ n

-- The list is gone through, not all numbers that there are.
instance (given : List UInt64) (n : UInt64) : Decidable (Greatest given n) :=
  haveI : Decidable (∀ m ∈ given, m ≤ n) := List.decidableBAll (· ≤ n) given
  inferInstanceAs (Decidable (n ∈ given ∧ ∀ m ∈ given, m ≤ n))

namespace SequenceStatus

/-- A status is right for a number after those that were given. -/
def Fits (given : List UInt64) (n : UInt64) : SequenceStatus → Prop
  | .advanced => ∀ m ∈ given, m < n
  | .duplicate => Greatest given n
  | .stale => ∃ m ∈ given, n < m

instance (given : List UInt64) (n : UInt64) : (s : SequenceStatus) → Decidable (s.Fits given n)
  | .advanced => List.decidableBAll (· < n) given
  | .duplicate => inferInstanceAs (Decidable (Greatest given n))
  | .stale => List.decidableBEx (n < ·) given

/-- No number has two statuses that are right. -/
theorem Fits.unique {given : List UInt64} {n : UInt64} {s s' : SequenceStatus} (h : s.Fits given n)
    (h' : s'.Fits given n) : s = s' := by
  have hirrefl : ∀ {m m' : UInt64}, m < m' → m' ≤ m → False := fun hlt hle =>
    absurd (UInt64.lt_of_lt_of_le hlt hle) (UInt64.lt_irrefl _)
  cases s <;> cases s' <;> try rfl
  · exact (hirrefl (h n h'.1) (UInt64.le_refl n)).elim
  · obtain ⟨m, hm, hlt⟩ := h'
    exact (hirrefl hlt (UInt64.le_of_lt (h m hm))).elim
  · exact (hirrefl (h' n h.1) (UInt64.le_refl n)).elim
  · obtain ⟨m, hm, hlt⟩ := h'
    exact (hirrefl hlt (h.2 m hm)).elim
  · obtain ⟨m, hm, hlt⟩ := h
    exact (hirrefl hlt (UInt64.le_of_lt (h' m hm))).elim
  · obtain ⟨m, hm, hlt⟩ := h
    exact (hirrefl hlt (h'.2 m hm)).elim

end SequenceStatus

namespace SequenceMark

/-- The largest sequence number. -/
def largest : UInt64 := 18446744073709551615

/-- What is kept of a number: the largest counts as the one before it. -/
def kept (n : UInt64) : UInt64 := if n = largest then largest - 1 else n

theorem toNat_kept (n : UInt64) : (kept n).toNat = min n.toNat 18446744073709551614 := by
  have hlt : n.toNat < 2 ^ 64 := n.toNat_lt
  unfold kept largest
  split
  · subst n
    rfl
  · rename_i hne
    have hsmall : n.toNat ≠ 18446744073709551615 := fun heq => hne (UInt64.toNat_inj.mp heq)
    omega

theorem toNat_successor (n : UInt64) : (successor n).toNat = (kept n).toNat + 1 := by
  have hlt : n.toNat < 2 ^ 64 := n.toNat_lt
  rw [toNat_kept]
  unfold successor
  split
  · subst n
    rfl
  · rename_i hne
    have hsmall : n.toNat ≠ 18446744073709551615 := fun heq => hne (UInt64.toNat_inj.mp heq)
    rw [UInt64.toNat_add, UInt64.toNat_one]
    omega

theorem successor_ne_zero (n : UInt64) : successor n ≠ 0 := by
  intro hzero
  have hnat : (successor n).toNat = 0 := congrArg UInt64.toNat hzero
  rw [toNat_successor] at hnat
  omega

theorem successor_sub_one (n : UInt64) : successor n - 1 = kept n := by
  apply UInt64.toNat_inj.mp
  have hone : (1 : UInt64) ≤ successor n := by
    rw [UInt64.le_iff_toNat_le, toNat_successor, UInt64.toNat_one]
    omega
  rw [UInt64.toNat_sub_of_le _ _ hone, toNat_successor, UInt64.toNat_one]
  omega

theorem successor_le_successor {m n : UInt64} : successor m ≤ successor n ↔ kept m ≤ kept n := by
  rw [UInt64.le_iff_toNat_le, UInt64.le_iff_toNat_le, toNat_successor, toNat_successor]
  omega

theorem successor_lt_successor {m n : UInt64} : successor m < successor n ↔ kept m < kept n := by
  rw [UInt64.lt_iff_toNat_lt, UInt64.lt_iff_toNat_lt, toNat_successor, toNat_successor]
  omega

theorem successor_inj {m n : UInt64} : successor m = successor n ↔ kept m = kept n := by
  rw [← UInt64.toNat_inj, ← UInt64.toNat_inj, toNat_successor, toNat_successor]
  omega

/-- A mark is that of the numbers given so far. -/
structure Shows (m : SequenceMark) (given : List UInt64) : Prop where
  le : ∀ n ∈ given, successor n ≤ m.marker
  attained : given = [] ∧ m.marker = 0 ∨ ∃ n ∈ given, m.marker = successor n

theorem shows_none : SequenceMark.none.Shows [] := ⟨nofun, .inl ⟨rfl, rfl⟩⟩

variable {m : SequenceMark} {given : List UInt64}

/-- Recording one more number keeps the mark true. -/
theorem Shows.record (h : m.Shows given) (n : UInt64) : (m.record n).2.Shows (given ++ [n]) := by
  unfold SequenceMark.record
  dsimp only
  split
  · rename_i hlt
    refine ⟨fun k hk => ?_, .inr ⟨n, by simp, rfl⟩⟩
    rcases List.mem_append.mp hk with hk | hk
    · exact UInt64.le_trans (h.le k hk) (UInt64.le_of_lt hlt)
    · obtain rfl := List.mem_singleton.mp hk
      exact UInt64.le_refl _
  · rename_i hnlt
    have hle : successor n ≤ m.marker := UInt64.not_lt.mp hnlt
    have hkept : m.Shows (given ++ [n]) := by
      constructor
      · intro k hk
        rcases List.mem_append.mp hk with hk | hk
        · exact h.le k hk
        · obtain rfl := List.mem_singleton.mp hk
          exact hle
      · rcases h.attained with ⟨-, hzero⟩ | ⟨k, hk, heq⟩
        · rw [hzero] at hle
          exact absurd (UInt64.le_zero_iff.mp hle) (successor_ne_zero n)
        · exact .inr ⟨k, List.mem_append_left _ hk, heq⟩
    split <;> exact hkept

theorem Shows.recordAll (h : m.Shows given) (ns : List UInt64) : (m.recordAll ns).Shows (given ++ ns) := by
  induction ns generalizing m given with
  | nil => rwa [List.append_nil]
  | cons n ns ih =>
    rw [SequenceMark.recordAll_cons, List.append_cons]
    exact ih (h.record n)

/-- The last number of a mark is the greatest of those given, as far as they are kept. -/
theorem Shows.last (h : m.Shows given) :
    (m.last = .none ↔ given = []) ∧ ∀ n, m.last = some n ↔ Greatest (given.map kept) n := by
  rcases h.attained with ⟨rfl, hzero⟩ | ⟨k, hk, hmarker⟩
  · simp [SequenceMark.last, hzero, Greatest]
  · have hlast : m.last = some (kept k) := by
      rw [SequenceMark.last, if_neg (hmarker ▸ successor_ne_zero k), hmarker, successor_sub_one]
    have hgreatest : Greatest (given.map kept) (kept k) := by
      refine ⟨List.mem_map_of_mem hk, fun x hx => ?_⟩
      obtain ⟨j, hj, rfl⟩ := List.mem_map.mp hx
      exact successor_le_successor.mp (hmarker ▸ h.le j hj)
    refine ⟨⟨fun hnone => ?_, fun hempty => ?_⟩, fun n => ?_⟩
    · rw [hlast] at hnone
      cases hnone
    · subst hempty
      cases hk
    · rw [hlast, Option.some.injEq]
      constructor
      · rintro rfl
        exact hgreatest
      · intro hn
        exact UInt64.le_antisymm (hn.2 _ hgreatest.1) (hgreatest.2 n hn.1)

/-- The status of a number is right after the numbers given, as far as all of them are kept. -/
theorem Shows.fits (h : m.Shows given) (n : UInt64) :
    (m.record n).1.Fits (given.map kept) (kept n) := by
  unfold SequenceMark.record
  dsimp only
  split
  · rename_i hlt
    intro x hx
    obtain ⟨k, hk, rfl⟩ := List.mem_map.mp hx
    exact successor_lt_successor.mp (UInt64.lt_of_le_of_lt (h.le k hk) hlt)
  · rename_i hnlt
    obtain ⟨k, hk, hmarker⟩ : ∃ k ∈ given, m.marker = successor k := by
      rcases h.attained with ⟨-, hzero⟩ | hattained
      · rw [hzero, UInt64.not_lt, UInt64.le_zero_iff] at hnlt
        exact absurd hnlt (successor_ne_zero n)
      · exact hattained
    split
    · rename_i heq
      refine ⟨?_, fun x hx => ?_⟩
      · rw [← successor_inj.mp (hmarker.symm.trans heq)]
        exact List.mem_map_of_mem hk
      · obtain ⟨j, hj, rfl⟩ := List.mem_map.mp hx
        exact successor_le_successor.mp (heq ▸ h.le j hj)
    · rename_i hne
      refine ⟨kept k, List.mem_map_of_mem hk, successor_lt_successor.mp ?_⟩
      rw [hmarker] at hnlt hne
      rw [UInt64.lt_iff_toNat_lt] at hnlt ⊢
      rw [← UInt64.toNat_inj] at hne
      omega

/-! ### What it means that the two largest numbers share a mark -/

/-- The numbers that a mark misjudges after those given: the largest one if the one before it is there and it
is not, and the one before it if the largest is there. -/
def Misjudges (given : List UInt64) (n : UInt64) : Prop :=
  n = largest ∧ largest - 1 ∈ given ∧ largest ∉ given ∨ n = largest - 1 ∧ largest ∈ given

/-- Different numbers that are kept as one are the two largest. -/
theorem eq_of_kept_eq {m n : UInt64} (h : kept m = kept n) (hlt : m < n) : m = largest - 1 ∧ n = largest := by
  rw [← UInt64.toNat_inj, toNat_kept, toNat_kept] at h
  rw [UInt64.lt_iff_toNat_lt] at hlt
  have hword : n.toNat < 2 ^ 64 := n.toNat_lt
  constructor
  · apply UInt64.toNat_inj.mp
    rw [show (largest - 1).toNat = 18446744073709551614 from rfl]
    omega
  · apply UInt64.toNat_inj.mp
    rw [show largest.toNat = 18446744073709551615 from rfl]
    omega

theorem kept_le_kept {m n : UInt64} (h : m ≤ n) : kept m ≤ kept n := by
  rw [UInt64.le_iff_toNat_le] at h
  rw [UInt64.le_iff_toNat_le, toNat_kept, toNat_kept]
  omega

theorem lt_of_kept_lt {m n : UInt64} (h : kept m < kept n) : m < n := by
  rw [← UInt64.not_le] at h ⊢
  exact fun hle => h (kept_le_kept hle)

/-- A mark errs just about the numbers that it misjudges. -/
theorem fits_kept_iff {given : List UInt64} {n : UInt64} {s : SequenceStatus}
    (h : s.Fits (given.map kept) (kept n)) : s.Fits given n ↔ ¬Misjudges given n := by
  cases s with
  | advanced =>
    have hless : ∀ m ∈ given, kept m < kept n := fun m hm => h _ (List.mem_map_of_mem hm)
    refine ⟨fun _ hmis => ?_, fun _ m hm => lt_of_kept_lt (hless m hm)⟩
    rcases hmis with ⟨rfl, hm, -⟩ | ⟨rfl, hm⟩
    · exact absurd (hless _ hm) (by decide)
    · exact absurd (hless _ hm) (by decide)
  | duplicate =>
    obtain ⟨hmem, hall⟩ := h
    obtain ⟨k, hk, hkn⟩ := List.mem_map.mp hmem
    have hle : ∀ m ∈ given, kept m ≤ kept n := fun m hm => hall _ (List.mem_map_of_mem hm)
    constructor
    · rintro ⟨hn, hgreatest⟩ (⟨rfl, -, habsent⟩ | ⟨rfl, hm⟩)
      · exact habsent hn
      · exact absurd (hgreatest _ hm) (by decide)
    · intro hmis
      have hlargest : largest ∈ given → n ≠ largest - 1 := fun hm hn => hmis (.inr ⟨hn, hm⟩)
      refine ⟨?_, fun m hm => ?_⟩
      · by_contra hn
        have hne : k.toNat ≠ n.toNat := fun heq => hn ((UInt64.toNat_inj.mp heq) ▸ hk)
        rcases Nat.lt_or_gt_of_ne hne with hlt | hlt
        · obtain ⟨rfl, rfl⟩ := eq_of_kept_eq hkn (UInt64.lt_iff_toNat_lt.mpr hlt)
          exact hmis (.inl ⟨rfl, hk, hn⟩)
        · obtain ⟨rfl, rfl⟩ := eq_of_kept_eq hkn.symm (UInt64.lt_iff_toNat_lt.mpr hlt)
          exact hlargest hk rfl
      · by_contra hnle
        have hlt : n < m := UInt64.not_le.mp hnle
        have heq : kept n = kept m := UInt64.le_antisymm (kept_le_kept (UInt64.le_of_lt hlt)) (hle m hm)
        obtain ⟨rfl, rfl⟩ := eq_of_kept_eq heq hlt
        exact hlargest hm rfl
  | stale =>
    obtain ⟨x, hx, hlt⟩ := h
    obtain ⟨k, hk, rfl⟩ := List.mem_map.mp hx
    refine ⟨fun _ hmis => ?_, fun _ => ⟨k, hk, lt_of_kept_lt hlt⟩⟩
    have hk : kept k ≤ kept largest := kept_le_kept (UInt64.le_iff_toNat_le.mpr (Nat.le_of_lt_succ k.toNat_lt))
    rcases hmis with ⟨rfl, -, -⟩ | ⟨rfl, -⟩
    · exact UInt64.not_le.mpr hlt hk
    · exact UInt64.not_le.mpr hlt hk

/-- What is kept of the numbers given has the same greatest one just if the largest is not among them. -/
theorem greatest_kept_iff {given : List UInt64} :
    (∀ n, Greatest (given.map kept) n ↔ Greatest given n) ↔ largest ∉ given := by
  constructor
  · intro h hmem
    have hgreatest : Greatest given largest := ⟨hmem, fun m _ =>
      UInt64.le_iff_toNat_le.mpr (Nat.le_of_lt_succ m.toNat_lt)⟩
    obtain ⟨k, -, hk⟩ := List.mem_map.mp ((h largest).mpr hgreatest).1
    have hnat : (kept k).toNat = largest.toNat := congrArg UInt64.toNat hk
    rw [toNat_kept, show largest.toNat = 18446744073709551615 from rfl] at hnat
    omega
  · intro hmem n
    have hkept : ∀ k ∈ given, kept k = id k := by
      intro k hk
      refine if_neg fun heq => hmem ?_
      rwa [← heq]
    rw [List.map_congr_left hkept, List.map_id]

end SequenceMark

namespace Hub

open SequenceMark (largest kept Misjudges shows_none fits_kept_iff greatest_kept_iff)

variable {n : Nat} {h : Hub} {now : Int}

/-! ## The numbers recorded for a device -/

/-- The number that a call records for an appearance. -/
def records (n : Nat) (h : Hub) : Op → List UInt64
  | .recordSequence id m => if (h.registry.get? id).any (·.serial == n) then [m] else []
  | _ => []

/-- The numbers that are recorded for an appearance with a call: those that it brings when it comes, and the one
that the call records. -/
def recordedIn (n : Nat) (h : Hub) (c : Call) : List UInt64 :=
  (if comes n h c then c.2.past.numbers else []) ++ records n h c.2

/-- The numbers recorded for an appearance in a run, in order. -/
def recorded (n : Nat) : Hub → List Call → List UInt64 := gathered (recordedIn n)

/-- A call that records a number brings no device. -/
theorem comes_recordSequence (n : Nat) (h : Hub) (now : Int) (key : DeviceId) (m : UInt64) :
    comes n h (now, .recordSequence key m) = false := by
  have hstored : (h.step now (.recordSequence key m)).registry.stored = h.registry.stored := by
    cases hd : h.registry.get? key <;> simp [step, recordSequence, hd, Registry.update]
  rw [comes, Bool.and_eq_false_iff, decide_eq_false_iff_not, decide_eq_false_iff_not]
  dsimp only
  omega

/-- No number is recorded for an appearance that has not come. -/
theorem records_eq_nil (hnum : h.census.Numbered) (hn : h.registry.stored < n) (op : Op) :
    records n h op = [] := by
  cases op with
  | recordSequence id m =>
    cases hd : h.registry.get? id with
    | none => simp [records, hd]
    | some d =>
      have hle : d.serial ≤ h.registry.stored := serial_le_stored hnum hd
      have hne : d.serial ≠ n := by omega
      simp [records, hd, hne]
  | _ => rfl

theorem recordedIn_eq_nil (hn : h.census.Numbered) {c : Call} (hlt : (h.step c.1 c.2).registry.stored < n) :
    recordedIn n h c = [] := by
  have hbefore : h.registry.stored < n := Nat.lt_of_le_of_lt (stored_le_step h c.1 c.2) hlt
  have hcomes : comes n h c = false := by
    rw [comes, Bool.and_eq_false_iff]
    exact .inr (decide_eq_false (by omega))
  simp [recordedIn, hcomes, records_eq_nil hn hbefore]

/-- A device after a call is new and has the numbers that it brings, or has recorded what the call records for it. -/
theorem sequence_of_step (hnum : h.census.Numbered) {op : Op} {id : DeviceId} {d' : Device}
    (hd' : (h.step now op).registry.get? id = some d') :
    (h.registry.stored < d'.serial ∧ d'.sequence = SequenceMark.none.recordAll (recordedIn d'.serial h (now, op))) ∨
      ∃ d, h.registry.get? id = some d ∧ d'.serial = d.serial ∧
        d'.sequence = d.sequence.recordAll (recordedIn d.serial h (now, op)) := by
  by_cases hop : ∃ key m, op = .recordSequence key m
  · obtain ⟨key, m, rfl⟩ := hop
    right
    simp only [recordedIn, comes_recordSequence, Bool.false_eq_true, if_false, List.nil_append]
    cases hkey : h.registry.get? key with
    | none =>
      simp only [step, recordSequence, hkey] at hd'
      exact ⟨d', hd', rfl, by simp [records, hkey]⟩
    | some d₀ =>
      simp only [step, recordSequence, hkey, Registry.get?_update] at hd'
      split at hd'
      · subst key
        rw [hkey] at hd'
        obtain rfl := Option.some.inj hd'
        exact ⟨d₀, hkey, rfl, by simp [records, hkey]⟩
      · rename_i hne
        have hother : d₀.serial ≠ d'.serial := fun hserial => hne (serial_unique hnum hkey hd' hserial)
        exact ⟨d', hd', rfl, by simp [records, hkey, hother]⟩
  · have hnone : ∀ n, records n h op = [] := by
      intro n
      cases op with
      | recordSequence key m => exact absurd ⟨key, m, rfl⟩ hop
      | _ => rfl
    have hheirs : Heirs Device.sequence op.past.sequence h (h.step now op) := by
      refine (reaches_step h op).lift Heirs.refl Heirs.trans fun h a ha => heirs_atom h ?_
      cases a with
      | store key p => exact fun n => congrArg Past.sequence ha.past
      | recordSequence key m => exact absurd ⟨key, m, ha.eq_of_sole rfl⟩ hop
      | touch key => exact fun d => rfl
      | _ => trivial
    simp only [recordedIn, hnone, List.append_nil]
    rcases hheirs.devices id d' hd' with ⟨hlt, hle, hsequence⟩ | ⟨d, hd, hserial, -, hsequence⟩
    · have hnew : comes d'.serial h (now, op) = true := by
        rw [comes, Bool.and_eq_true]
        exact ⟨decide_eq_true hlt, decide_eq_true hle⟩
      exact .inl ⟨hlt, by rw [hnew]; exact hsequence⟩
    · have hold : comes d.serial h (now, op) = false := by
        rw [comes, Bool.and_eq_false_iff]
        exact .inl (decide_eq_false (Nat.not_lt.mpr (serial_le_stored hnum hd)))
      exact .inr ⟨d, hd, hserial, by rw [hold]; exact hsequence⟩

/-- The mark of a device shows the numbers recorded for it. -/
theorem shows_run {calls : List Call} {id : DeviceId} {d : Device}
    (hd : (({} : Hub).run calls).registry.get? id = some d) : d.sequence.Shows (recorded d.serial {} calls) := by
  induction calls using List.reverseRecOn generalizing id d with
  | nil => simp at hd
  | append_singleton calls c ih =>
    have hnum : (({} : Hub).run calls).census.Numbered := numbered_run calls
    rw [run_append] at hd
    rw [recorded, gathered_concat]
    rcases sequence_of_step hnum hd with ⟨hlt, hsequence⟩ | ⟨d₀, hd₀, hserial, hsequence⟩
    · rw [gathered_eq_nil (fun h c hn hlt => recordedIn_eq_nil hn hlt) hlt, hsequence]
      exact shows_none.recordAll _
    · rw [hserial, hsequence]
      exact (ih hd₀).recordAll _

/-- The history of a device decides what becomes of the next sequence number.  Whatever calls were made:
nothing was recorded for a device just if it has no last number; its last number is the greatest of those recorded, as
far as they are kept, so it is the greatest of them just if the largest was never among them; and the next number gets
the status that is right after them, except when the mark misjudges it. -/
theorem sequence_of_run {calls : List Call} {id : DeviceId} {d : Device}
    (hd : (({} : Hub).run calls).registry.get? id = some d) :
    let given := recorded d.serial {} calls
    (d.sequence.last = none ↔ given = []) ∧
    (∀ m, d.sequence.last = some m ↔ Greatest (given.map kept) m) ∧
    ((∀ m, d.sequence.last = some m ↔ Greatest given m) ↔ largest ∉ given) ∧
    ∀ now m, ∃ status d', ((({} : Hub).run calls).recordSequence id m).1 = some (status, d') ∧
      (({} : Hub).run (calls ++ [(now, .recordSequence id m)])).registry.get? id = some d' ∧
      recorded d'.serial {} (calls ++ [(now, .recordSequence id m)]) = given ++ [m] ∧
      (status.Fits given m ↔ ¬Misjudges given m) := by
  intro given
  have hshows : d.sequence.Shows given := shows_run hd
  refine ⟨hshows.last.1, hshows.last.2, ?_, fun now m => ?_⟩
  · rw [← greatest_kept_iff]
    exact forall_congr' fun m => iff_congr (hshows.last.2 m) Iff.rfl
  · refine ⟨(d.sequence.record m).1, { d with sequence := (d.sequence.record m).2 }, ?_, ?_, ?_, ?_⟩
    · simp only [recordSequence, hd]
    · simp [run_append, step, recordSequence, hd, Registry.get?_update]
    · rw [recorded, gathered_concat, recordedIn, comes_recordSequence]
      simp [records, hd, given, recorded]
    · exact fits_kept_iff (hshows.fits m)

/-- The largest number is recorded, and the number before it is the last. -/
theorem sequence_of_run_largest :
    let calls : List Call := [(0, .put { id := "A", link := 0 }), (0, .recordSequence "A" largest)]
    ∃ d, (({} : Hub).run calls).registry.get? "A" = some d ∧ recorded d.serial {} calls = [largest] ∧
      d.sequence.last = some (largest - 1) ∧
      ∃ status d', ((({} : Hub).run calls).recordSequence "A" (largest - 1)).1 = some (status, d') ∧
        ¬status.Fits [largest] (largest - 1) := by
  intro calls
  obtain ⟨d, hd⟩ : ∃ d, (({} : Hub).run calls).registry.get? "A" = some d :=
    Option.isSome_iff_exists.mp (by decide +kernel)
  have hserial : d.serial = 1 := by
    have hone : ((({} : Hub).run calls).registry.get? "A").map (·.serial) = some 1 := by decide +kernel
    rw [hd] at hone
    exact Option.some.inj hone
  have hgiven : recorded d.serial {} calls = [largest] := by
    rw [hserial]
    decide +kernel
  obtain ⟨-, hlast, -, hnext⟩ := sequence_of_run hd
  obtain ⟨status, d', hstatus, -, -, hfits⟩ := hnext 0 (largest - 1)
  rw [hgiven] at hlast hfits
  refine ⟨d, hd, hgiven, (hlast _).mpr (by decide), status, d', hstatus, fun hright => ?_⟩
  exact hfits.mp hright (.inr ⟨rfl, List.mem_singleton.mpr rfl⟩)

/-- The largest number counts as the one before it: after it the last number is one that was never recorded, and it is
no advance on the one before it. -/
theorem largest_not_last :
    let put : Call := (0, .put { id := "A", link := 0 })
    let once : List Call := [put, (0, .recordSequence "A" largest)]
    let before : List Call := [put, (0, .recordSequence "A" (largest - 1))]
    (recorded 1 {} once = [largest] ∧
      ((({} : Hub).run once).registry.get? "A").map (fun d => (d.serial, d.sequence.last)) =
        some (1, some (largest - 1)) ∧ ¬Greatest [largest] (largest - 1)) ∧
    recorded 1 {} before = [largest - 1] ∧
      ((({} : Hub).run before).recordSequence "A" largest).1.map (fun a => (a.1, a.2.serial)) =
        some (.duplicate, 1) ∧ ¬SequenceStatus.duplicate.Fits [largest - 1] largest := by
  decide +kernel

end Hub

end Liveness
