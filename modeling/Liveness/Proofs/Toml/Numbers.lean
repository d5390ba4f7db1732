import Liveness.Toml.Number

/-!
# Integers read back

An integer at the end of its line is no date, no time of day and no number in another
base, and the digits that were written give it back (`dateOrNumber_toDigits`).
-/

namespace Liveness.Toml

variable {c : Char} {ds cs rest : List Char} {n v : Nat}

/-! ## Digits -/

theorem isDigit_eq (c : Char) : isDigit c = c.isDigit := by
  rw [Bool.eq_iff_iff]
  simp [isDigit, Char.isDigit, Char.le_def, UInt32.le_iff_toNat_le]

theorem isDigit_toDigits (hc : c ∈ Nat.toDigits 10 n) : isDigit c := by
  rw [isDigit_eq]
  exact Nat.isDigit_of_mem_toDigits (b := 10) (by decide) (by decide) hc

theorem hexValue?_digit (hc : isDigit c) : hexValue? c = some (c.toNat - 48) := by rw [hexValue?, if_pos hc]

theorem digitsValue_toDigits (n : Nat) : digitsValue 10 (Nat.toDigits 10 n) = n := by
  have hfold : ∀ (ds : List Char) (k : Nat), (∀ c ∈ ds, isDigit c) →
      ds.foldl (fun n d => n * 10 + (hexValue? d).getD 0) k = Nat.ofDigitChars 10 ds k := by
    intro ds
    induction ds with
    | nil => exact fun k _ => Nat.ofDigitChars_nil.symm
    | cons d ds ih =>
      intro k hds
      rw [List.foldl_cons, Nat.ofDigitChars_cons, ih _ fun c hc => hds c (List.mem_cons_of_mem d hc),
        hexValue?_digit (hds d List.mem_cons_self), Nat.mul_comm k]
      rfl
  rw [digitsValue, hfold _ _ fun c hc => isDigit_toDigits hc]
  exact Nat.ofDigitChars_ten_toDigits

/-- No number but zero starts with a zero. -/
theorem head?_toDigits (hn : 0 < n) : (Nat.toDigits 10 n).head? ≠ some '0' := by
  induction n using Nat.strongRecOn with
  | _ n ih =>
    by_cases hsmall : n < 10
    · rw [Nat.toDigits_of_lt_base hsmall]
      have hall : ∀ m < 10, 0 < m → [Nat.digitChar m].head? ≠ some '0' := by decide
      exact hall n hsmall hn
    · obtain ⟨d, ds, hds⟩ := List.exists_cons_of_ne_nil (Nat.toDigits_ne_nil (b := 10) (n := n / 10))
      have hhead := ih (n / 10) (by omega) (by omega)
      rw [hds] at hhead
      rw [Nat.toDigits_of_base_le (by decide) (Nat.le_of_not_lt hsmall), hds]
      exact hhead

/-! ## Up to the end of the line -/

theorem moreDigits_line (hds : ∀ c ∈ ds, isDigit c) (rest : List Char) :
    moreDigits isDigit (ds ++ '\n' :: rest) = some (ds, '\n' :: rest) := by
  induction ds with
  | nil => simp [moreDigits, show isDigit '\n' = false from rfl]
  | cons d ds ih =>
    have hd : isDigit d := hds d List.mem_cons_self
    have hne : d ≠ '_' := by
      rintro rfl
      cases hd
    rw [List.cons_append, moreDigits]
    · rw [if_pos hd, ih fun c hc => hds c (List.mem_cons_of_mem d hc)]
      rfl
    all_goals simp [hne]

theorem wholeDigits_line (n : Nat) (rest : List Char) :
    wholeDigits (Nat.toDigits 10 n ++ '\n' :: rest) = some (Nat.toDigits 10 n, '\n' :: rest) := by
  rcases Nat.eq_zero_or_pos n with rfl | hn
  · rfl
  · have hhead := head?_toDigits hn
    obtain ⟨d, ds, hds⟩ := List.exists_cons_of_ne_nil (Nat.toDigits_ne_nil (b := 10) (n := n))
    have hall : ∀ c ∈ d :: ds, isDigit c := fun c hc => isDigit_toDigits (hds ▸ hc)
    rw [hds] at hhead ⊢
    have hne : d ≠ '0' := by simpa using hhead
    rw [List.cons_append, wholeDigits, digits, if_pos (hall d List.mem_cons_self),
      moreDigits_line fun c hc => hall c (List.mem_cons_of_mem d hc)]
    · rfl
    · simp [hne]

theorem char_line (hds : ∀ c ∈ ds, isDigit c) (hc : isDigit c = false) (hn : c ≠ '\n') (rest : List Char) :
    char c (ds ++ '\n' :: rest) = none := by
  cases ds with
  | nil => simp [char, hn.symm]
  | cons d ds =>
    have hd : d ≠ c := by
      rintro rfl
      simp [hds d List.mem_cons_self] at hc
    simp [char, hd]

/-- A number of fixed width ends within the digits of its line. -/
theorem fixedDigits_line {k : Nat} (hds : ∀ c ∈ ds, isDigit c)
    (h : fixedDigits k (ds ++ '\n' :: rest) = some (v, cs)) :
    ∃ ds', (∀ c ∈ ds', isDigit c) ∧ cs = ds' ++ '\n' :: rest := by
  simp only [fixedDigits, Option.ite_none_right_eq_some, Option.some.injEq, Prod.mk.injEq] at h
  obtain ⟨⟨-, hall⟩, -, rfl⟩ := h
  by_cases hk : k ≤ ds.length
  · exact ⟨ds.drop k, fun c hc => hds c (List.mem_of_mem_drop hc), List.drop_append_of_le_length hk⟩
  · -- the line feed would be one of the digits
    have hmem : '\n' ∈ (ds ++ '\n' :: rest).take k := by
      rw [List.take_append, List.mem_append]
      obtain ⟨m, hm⟩ : ∃ m, k - ds.length = m + 1 := ⟨k - ds.length - 1, by omega⟩
      exact .inr (by simp [hm])
    cases List.all_eq_true.mp hall _ hmem

theorem year?_line (hds : ∀ c ∈ ds, isDigit c) (rest : List Char) : year? (ds ++ '\n' :: rest) = none := by
  unfold year?
  cases h : fixedDigits 4 (ds ++ '\n' :: rest) with
  | none => rfl
  | some r =>
    obtain ⟨v, cs⟩ := r
    obtain ⟨ds', hds', rfl⟩ := fixedDigits_line hds h
    simp [char_line hds' (c := '-') rfl (by decide)]

theorem hour?_line (hds : ∀ c ∈ ds, isDigit c) (rest : List Char) : hour? (ds ++ '\n' :: rest) = none := by
  unfold hour? field
  cases h : fixedDigits 2 (ds ++ '\n' :: rest) with
  | none => rfl
  | some r =>
    obtain ⟨v, cs⟩ := r
    obtain ⟨ds', hds', rfl⟩ := fixedDigits_line hds h
    by_cases hv : v ≤ 23
    · simp [hv, char_line hds' (c := ':') rfl (by decide)]
    · simp [hv]

theorem sign_line (hds : ∀ c ∈ ds, isDigit c) (rest : List Char) :
    sign (ds ++ '\n' :: rest) = (none, ds ++ '\n' :: rest) := by
  cases ds with
  | nil => rfl
  | cons d ds =>
    have hd : isDigit d := hds d List.mem_cons_self
    unfold sign
    split
    · rename_i heq
      cases heq
      cases hd
    · rename_i heq
      cases heq
      cases hd
    · rfl

theorem decimal_line (hn : n ≤ 9223372036854775807) (rest : List Char) :
    decimal false (Nat.toDigits 10 n ++ '\n' :: rest) = some (.integer n, '\n' :: rest) := by
  have hvalue : integer? (n : Int) = some (.integer n) := if_pos (by omega)
  simp [decimal, wholeDigits_line, fraction, exponent, digitsValue_toDigits, hvalue]

/-- An integer that is written reads back. -/
theorem dateOrNumber_toDigits (hn : n ≤ 9223372036854775807) (rest : List Char) :
    dateOrNumber (Nat.toDigits 10 n ++ '\n' :: rest) = some (.integer n, '\n' :: rest) := by
  have hds : ∀ c ∈ Nat.toDigits 10 n, isDigit c := fun c hc => isDigit_toDigits hc
  have hmark : ∀ {c cs}, Nat.toDigits 10 n ++ '\n' :: rest = '0' :: c :: cs → isDigit c ∨ c = '\n' := by
    intro c cs heq
    match hd : Nat.toDigits 10 n, heq with
    | [_], heq =>
      cases heq
      exact .inr rfl
    | _ :: d :: ds, heq =>
      cases heq
      exact .inl (hds _ (by simp [hd]))
  rw [dateOrNumber, year?_line hds, hour?_line hds, sign_line hds]
  · exact decimal_line hn rest
  all_goals exact fun _ heq => (hmark heq).elim nofun nofun

end Liveness.Toml
