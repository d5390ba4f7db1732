import Liveness.Proofs.Toml.Lines

/-!
# Enough fuel

Each reader takes something off the front of a text and leaves what comes after it
(`Leaves`), so a text never gets longer by being read and each line of a document takes a
character at least.  The fuel that bounds the number of lines therefore decides nothing once
there is as much of it as there are characters (`statements_of_le`).
-/

namespace Liveness.Toml

variable {α : Type} {s cs rest : List Char} {c : Char} {n : Nat}

/-- A reader that leaves the end of its text. -/
def Leaves (read : Reader α) : Prop := ∀ ⦃cs a rest⦄, read cs = some (a, rest) → rest <:+ cs

/-- A reader without a value that leaves the end of its text. -/
def Skips (skip : List Char → Option (List Char)) : Prop := ∀ ⦃cs rest⦄, skip cs = some rest → rest <:+ cs

theorem suffix_cons (h : rest <:+ cs) : rest <:+ c :: cs := h.trans (List.suffix_cons c cs)

theorem push_eq_some {front : List Char} {r : Option (List Char × List Char)} (h : push front r = some (s, rest)) :
    ∃ s', r = some (s', rest) := by
  obtain ⟨⟨s', rest'⟩, hr, heq⟩ := Option.map_eq_some_iff.mp h
  cases heq
  exact ⟨s', hr⟩

/-! ## Strings -/

theorem leaves_basic (mode : BasicMode) : Leaves (basic mode) := by
  intro cs s rest h
  fun_induction basic mode cs generalizing s rest <;> grind [push_eq_some, suffix_cons]

theorem leaves_literal : Leaves literal := by
  intro cs s rest h
  fun_induction literal cs generalizing s rest <;> grind [push_eq_some, suffix_cons]

theorem leaves_block (mode : BlockMode) : Leaves (block mode) := by
  intro cs s rest h
  fun_induction block mode cs generalizing s rest <;> grind [push_eq_some, suffix_cons]

theorem leaves_literalBlock (mode : LiteralBlockMode) : Leaves (literalBlock mode) := by
  intro cs s rest h
  fun_induction literalBlock mode cs generalizing s rest <;> grind [push_eq_some, suffix_cons]

theorem skips_lineBreak? : Skips lineBreak? := by
  intro cs rest h
  unfold lineBreak? at h
  split at h
  · cases h
    exact List.suffix_cons _ _
  · cases h
    exact suffix_cons (List.suffix_cons _ _)
  · cases h

theorem dropLineBreak_suffix (cs : List Char) : dropLineBreak cs <:+ cs := by
  cases h : lineBreak? cs with
  | none => simp [dropLineBreak, h]
  | some rest => simpa [dropLineBreak, h] using skips_lineBreak? h

theorem leaves_string : Leaves string := by
  intro cs s rest h
  unfold string at h
  split at h
  · exact suffix_cons (suffix_cons (suffix_cons ((leaves_block _ h).trans (dropLineBreak_suffix _))))
  · exact suffix_cons (leaves_basic _ h)
  · exact suffix_cons (suffix_cons (suffix_cons ((leaves_literalBlock _ h).trans (dropLineBreak_suffix _))))
  · exact suffix_cons (leaves_literal h)
  · cases h

/-! ## Numbers -/

theorem leaves_moreDigits (isDigit : Char → Bool) : Leaves (moreDigits isDigit) := by
  intro cs s rest h
  fun_induction moreDigits isDigit cs generalizing s rest <;> grind [push_eq_some, suffix_cons]

theorem leaves_digits (isDigit : Char → Bool) : Leaves (digits isDigit) := by
  intro cs s rest h
  unfold digits at h
  grind [push_eq_some, suffix_cons, leaves_moreDigits isDigit, Leaves]

theorem leaves_wholeDigits : Leaves wholeDigits := by
  intro cs s rest h
  unfold wholeDigits at h
  split at h
  · cases h
    exact List.suffix_cons _ _
  · exact leaves_digits _ h

theorem leaves_fraction : Leaves fraction := by
  intro cs s rest h
  unfold fraction at h
  split at h
  · obtain ⟨⟨ds, rest'⟩, hds, heq⟩ := Option.map_eq_some_iff.mp h
    cases heq
    exact suffix_cons (leaves_digits _ hds)
  · cases h
    exact List.suffix_rfl

theorem sign_suffix (cs : List Char) : (sign cs).2 <:+ cs := by
  unfold sign
  split
  · exact List.suffix_cons _ _
  · exact List.suffix_cons _ _
  · exact List.suffix_rfl

theorem leaves_exponent : Leaves exponent := by
  intro cs s rest h
  unfold exponent at h
  split at h
  · split at h
    · obtain ⟨⟨ds, rest'⟩, hds, heq⟩ := Option.map_eq_some_iff.mp h
      cases heq
      exact suffix_cons ((leaves_digits _ hds).trans (sign_suffix _))
    · cases h
      exact List.suffix_rfl
  · cases h
    exact List.suffix_rfl

theorem leaves_decimal (minus : Bool) : Leaves (decimal minus) := by
  intro cs v rest h
  simp only [decimal, Option.bind_eq_bind, Option.bind_eq_some_iff] at h
  obtain ⟨⟨whole, cs₁⟩, hwhole, ⟨fractional, cs₂⟩, hfraction, ⟨power, cs₃⟩, hexponent, h⟩ := h
  have hrest : rest = cs₃ := by
    dsimp only at h
    split at h
    · obtain ⟨v', -, heq⟩ := Option.bind_eq_some_iff.mp h
      cases heq
      rfl
    · split at h
      · cases h
      · cases h
        rfl
  rw [hrest]
  exact ((leaves_exponent hexponent).trans (leaves_fraction hfraction)).trans (leaves_wholeDigits hwhole)

theorem leaves_based (base : Nat) (isDigit : Char → Bool) : Leaves (based base isDigit) := by
  intro cs v rest h
  simp only [based, Option.bind_eq_bind, Option.bind_eq_some_iff] at h
  obtain ⟨⟨ds, cs'⟩, hds, v', -, heq⟩ := h
  cases heq
  exact leaves_digits _ hds

theorem leaves_magnitude (minus : Bool) : Leaves (magnitude minus) := by
  intro cs v rest h
  unfold magnitude at h
  split at h
  · cases h
    exact suffix_cons (suffix_cons (List.suffix_cons _ _))
  · cases h
    exact suffix_cons (suffix_cons (List.suffix_cons _ _))
  · exact leaves_decimal _ h

/-! ## Dates -/

theorem leaves_fixedDigits (n : Nat) : Leaves (fixedDigits n) := by
  intro cs m rest h
  obtain ⟨-, heq⟩ := Option.ite_none_right_eq_some.mp h
  cases heq
  exact List.drop_suffix n cs

theorem leaves_field (width low high : Nat) : Leaves (field width low high) := by
  intro cs m rest h
  simp only [field, Option.bind_eq_bind, Option.bind_eq_some_iff, Option.ite_none_right_eq_some] at h
  obtain ⟨⟨m', cs'⟩, hm, -, heq⟩ := h
  cases heq
  exact leaves_fixedDigits _ hm

theorem skips_char (c : Char) : Skips (char c) := by
  intro cs rest h
  unfold char at h
  split at h
  · obtain ⟨-, heq⟩ := Option.ite_none_right_eq_some.mp h
    cases heq
    exact List.suffix_cons _ _
  · cases h

theorem skips_monthAndDay (year : Nat) : Skips (monthAndDay year) := by
  intro cs rest h
  simp only [monthAndDay, Option.bind_eq_bind, Option.bind_eq_some_iff] at h
  obtain ⟨⟨month, cs₁⟩, hmonth, cs₂, hchar, ⟨day, cs₃⟩, hday, heq⟩ := h
  cases heq
  exact ((leaves_field _ _ _ hday).trans (skips_char _ hchar)).trans (leaves_field _ _ _ hmonth)

theorem skips_minuteAndSecond : Skips minuteAndSecond := by
  intro cs rest h
  simp only [minuteAndSecond, Option.bind_eq_bind, Option.bind_eq_some_iff] at h
  obtain ⟨⟨minute, cs₁⟩, hminute, cs₂, hchar, ⟨second, cs₃⟩, hsecond, h⟩ := h
  have hrest : rest <:+ cs₃ := by
    dsimp only at h
    split at h
    · split at h
      · cases h
        exact suffix_cons (suffix_cons (List.dropWhile_suffix _))
      · cases h
        exact List.suffix_rfl
    · cases h
      exact List.suffix_rfl
  exact ((hrest.trans (leaves_field _ _ _ hsecond)).trans (skips_char _ hchar)).trans (leaves_field _ _ _ hminute)

theorem skips_hour? : Skips hour? := by
  intro cs rest h
  simp only [hour?, Option.bind_eq_bind, Option.bind_eq_some_iff] at h
  obtain ⟨⟨hour, cs'⟩, hhour, hchar⟩ := h
  exact (skips_char _ hchar).trans (leaves_field _ _ _ hhour)

theorem skips_offset : Skips offset := by
  intro cs rest h
  unfold offset at h
  split at h
  · split at h
    · cases h
      exact List.suffix_cons _ _
    · split at h
      · simp only [Option.bind_eq_bind, Option.bind_eq_some_iff] at h
        obtain ⟨cs', hhour, ⟨minute, cs''⟩, hminute, heq⟩ := h
        cases heq
        exact suffix_cons ((leaves_field _ _ _ hminute).trans (skips_hour? hhour))
      · cases h
        exact List.suffix_rfl
  · cases h
    exact List.suffix_rfl

theorem skips_timeAfterDate : Skips timeAfterDate := by
  intro cs rest h
  unfold timeAfterDate at h
  split at h
  · split at h
    · split at h
      · rename_i hhour
        obtain ⟨cs', hminute, hoffset⟩ := Option.bind_eq_some_iff.mp h
        exact suffix_cons (((skips_offset hoffset).trans (skips_minuteAndSecond hminute)).trans (skips_hour? hhour))
      · cases h
        exact List.suffix_rfl
    · cases h
      exact List.suffix_rfl
  · cases h
    exact List.suffix_rfl

theorem leaves_year? : Leaves year? := by
  intro cs year rest h
  simp only [year?, Option.bind_eq_bind, Option.bind_eq_some_iff] at h
  obtain ⟨⟨year', cs'⟩, hyear, cs'', hchar, heq⟩ := h
  cases heq
  exact (skips_char _ hchar).trans (leaves_fixedDigits _ hyear)

theorem leaves_dateOrNumber : Leaves dateOrNumber := by
  intro cs v rest h
  unfold dateOrNumber at h
  split at h
  · rename_i hyear
    obtain ⟨rest', hdate, heq⟩ := Option.map_eq_some_iff.mp h
    obtain ⟨cs', hday, htime⟩ := Option.bind_eq_some_iff.mp hdate
    cases heq
    exact ((skips_timeAfterDate htime).trans (skips_monthAndDay _ hday)).trans (leaves_year? hyear)
  · split at h
    · rename_i hhour
      obtain ⟨rest', hminute, heq⟩ := Option.map_eq_some_iff.mp h
      cases heq
      exact (skips_minuteAndSecond hminute).trans (skips_hour? hhour)
    · split at h
      · exact suffix_cons (suffix_cons (leaves_based _ _ h))
      · exact suffix_cons (suffix_cons (leaves_based _ _ h))
      · exact suffix_cons (suffix_cons (leaves_based _ _ h))
      · dsimp only at h
        split at h
        · exact (leaves_magnitude _ h).trans (sign_suffix _)
        · exact leaves_decimal _ h

/-! ## Blanks, comments and keys -/

theorem skipBlanks_suffix (cs : List Char) : skipBlanks cs <:+ cs := List.dropWhile_suffix _

theorem skipComment_suffix (cs : List Char) : skipComment cs <:+ cs := by
  unfold skipComment
  split
  · exact suffix_cons (List.dropWhile_suffix _)
  · exact List.suffix_rfl

theorem gap_suffix (inComment : Bool) (cs : List Char) : gap inComment cs <:+ cs := by
  fun_induction gap inComment cs <;> grind [suffix_cons]

theorem leaves_simpleKey : Leaves simpleKey := by
  intro cs key rest h
  unfold simpleKey at h
  split at h
  · obtain ⟨⟨s, rest'⟩, hs, heq⟩ := Option.map_eq_some_iff.mp h
    cases heq
    exact suffix_cons (leaves_basic _ hs)
  · obtain ⟨⟨s, rest'⟩, hs, heq⟩ := Option.map_eq_some_iff.mp h
    cases heq
    exact suffix_cons (leaves_literal hs)
  · split at h
    · cases h
    · cases h
      exact List.dropWhile_suffix _

theorem leaves_dottedKey (n : Nat) : Leaves (dottedKey n) := by
  induction n with
  | zero => exact nofun
  | succ n ih =>
    intro cs path rest h
    simp only [dottedKey, Option.bind_eq_bind, Option.bind_eq_some_iff] at h
    obtain ⟨⟨key, cs'⟩, hkey, h⟩ := h
    have hkey : cs' <:+ cs := (leaves_simpleKey hkey).trans (skipBlanks_suffix cs)
    dsimp only at h
    split at h
    · rename_i cs'' hdot
      obtain ⟨⟨path', rest'⟩, hpath, heq⟩ := Option.bind_eq_some_iff.mp h
      cases heq
      have hdot : cs'' <:+ cs' := (List.suffix_cons _ _).trans (hdot ▸ skipBlanks_suffix cs')
      exact ((ih hpath).trans hdot).trans hkey
    · cases h
      exact (skipBlanks_suffix cs').trans hkey

/-! ## Values -/

theorem leaves_keyValue {read : Reader Value} (hread : Leaves read) : Leaves (keyValue read) := by
  intro cs pair rest h
  simp only [keyValue, Option.bind_eq_bind, Option.bind_eq_some_iff] at h
  obtain ⟨⟨path, cs₁⟩, hpath, cs₂, hchar, ⟨v, cs₃⟩, hv, heq⟩ := h
  cases heq
  exact (((hread hv).trans (skipBlanks_suffix _)).trans (skips_char _ hchar)).trans (leaves_dottedKey _ hpath)

theorem leaves_arrayItems {read : Reader Value} (hread : Leaves read) (n : Nat) : Leaves (arrayItems read n) := by
  induction n with
  | zero => exact nofun
  | succ n ih =>
    intro cs vs rest h
    unfold arrayItems at h
    have hgap := gap_suffix false cs
    split at h
    · rename_i heq
      cases h
      exact (List.suffix_cons _ _).trans (heq ▸ hgap)
    · obtain ⟨⟨v, cs'⟩, hv, h⟩ := Option.bind_eq_some_iff.mp h
      have hv : cs' <:+ cs := (hread hv).trans hgap
      have hgap' := (gap_suffix false cs').trans hv
      dsimp only at h
      split at h
      · rename_i heq
        cases h
        exact (List.suffix_cons _ _).trans (heq ▸ hgap')
      · rename_i heq
        obtain ⟨⟨vs', rest'⟩, hvs, heq'⟩ := Option.bind_eq_some_iff.mp h
        cases heq'
        exact ((ih hvs).trans (List.suffix_cons _ _)).trans (heq ▸ hgap')
      · cases h

theorem leaves_inlinePairs {read : Reader Value} (hread : Leaves read) (n : Nat) : Leaves (inlinePairs read n) := by
  induction n with
  | zero => exact nofun
  | succ n ih =>
    intro cs pairs rest h
    rw [inlinePairs, Option.bind_eq_bind, Option.bind_eq_some_iff] at h
    obtain ⟨⟨pair, cs'⟩, hpair, h⟩ := h
    have hblanks := (skipBlanks_suffix cs').trans (leaves_keyValue hread hpair)
    dsimp only at h
    split at h
    · rename_i heq
      cases h
      exact (List.suffix_cons _ _).trans (heq ▸ hblanks)
    · rename_i heq
      obtain ⟨⟨pairs', rest'⟩, hpairs, heq'⟩ := Option.bind_eq_some_iff.mp h
      cases heq'
      exact ((ih hpairs).trans (List.suffix_cons _ _)).trans (heq ▸ hblanks)
    · cases h

theorem leaves_inlineTable {read : Reader Value} (hread : Leaves read) : Leaves (inlineTable read) := by
  intro cs pairs rest h
  unfold inlineTable at h
  split at h
  · rename_i heq
    cases h
    exact (List.suffix_cons _ _).trans (heq ▸ skipBlanks_suffix cs)
  · exact leaves_inlinePairs hread _ h

/-- A value leaves the end of its text if the values within its brackets and braces do. -/
theorem leaves_value_of_inner (hinner : ∀ m, n = m + 1 → Leaves (value m)) : Leaves (value n) := by
  intro cs v rest h
  unfold value at h
  split at h
  · cases h
    exact suffix_cons (suffix_cons (suffix_cons (List.suffix_cons _ _)))
  · cases h
    exact suffix_cons (suffix_cons (suffix_cons (suffix_cons (List.suffix_cons _ _))))
  · cases h
    exact suffix_cons (suffix_cons (List.suffix_cons _ _))
  · cases h
    exact suffix_cons (suffix_cons (List.suffix_cons _ _))
  · obtain ⟨⟨vs, rest'⟩, hvs, heq⟩ := Option.map_eq_some_iff.mp h
    cases heq
    exact suffix_cons (leaves_arrayItems (hinner _ rfl) _ hvs)
  · simp only [Option.bind_eq_bind, Option.bind_eq_some_iff] at h
    obtain ⟨⟨pairs, rest'⟩, hpairs, es, -, heq⟩ := h
    cases heq
    exact suffix_cons (leaves_inlineTable (hinner _ rfl) hpairs)
  · split at h
    · obtain ⟨⟨s, rest'⟩, hs, heq⟩ := Option.map_eq_some_iff.mp h
      cases heq
      exact leaves_string hs
    · exact leaves_dateOrNumber h
  · cases h

theorem leaves_value (n : Nat) : Leaves (value n) := by
  induction n with
  | zero => exact leaves_value_of_inner fun m hm => absurd hm (Nat.succ_ne_zero m).symm
  | succ n ih =>
    refine leaves_value_of_inner fun m hm => ?_
    obtain rfl := Nat.succ.inj hm
    exact ih

/-! ## Lines -/

theorem leaves_statement : Leaves statement := by
  intro cs s rest h
  unfold statement at h
  split at h
  · simp only [Option.bind_eq_bind, Option.bind_eq_some_iff] at h
    obtain ⟨⟨path, cs₁⟩, hpath, cs₂, hchar, cs₃, hchar', heq⟩ := h
    cases heq
    exact suffix_cons (suffix_cons (((skips_char _ hchar').trans (skips_char _ hchar)).trans (leaves_dottedKey _ hpath)))
  · simp only [Option.bind_eq_bind, Option.bind_eq_some_iff] at h
    obtain ⟨⟨path, cs₁⟩, hpath, cs₂, hchar, heq⟩ := h
    cases heq
    exact suffix_cons ((skips_char _ hchar).trans (leaves_dottedKey _ hpath))
  · obtain ⟨⟨⟨path, v⟩, cs'⟩, hv, heq⟩ := Option.bind_eq_some_iff.mp h
    cases heq
    exact leaves_keyValue (leaves_value _) hv

/-- The end of a line takes a character, unless it is the end of the text. -/
theorem length_lt_of_lineEnd? (h : lineEnd? cs = some rest) : rest = [] ∨ rest.length < cs.length := by
  have hskip := ((skipComment_suffix _).trans (skipBlanks_suffix cs)).length_le
  unfold lineEnd? at h
  split at h
  · cases h
    exact .inl rfl
  · exact .inr (Nat.lt_of_lt_of_le (length_lt_of_lineBreak? h) hskip)

/-- More fuel than characters does not change what is read. -/
theorem statements_of_le {m n : Nat} (hm : cs.length ≤ m) (hn : cs.length ≤ n) : statements m cs = statements n cs := by
  induction m generalizing cs n with
  | zero =>
    obtain rfl := List.eq_nil_of_length_eq_zero (Nat.le_zero.mp hm)
    cases n <;> rfl
  | succ m ih =>
    cases cs with
    | nil => cases n <;> rfl
    | cons c cs =>
      obtain ⟨n, rfl⟩ : ∃ k, n = k + 1 := ⟨n - 1, by simp at hn; omega⟩
      -- what is left after the line is shorter, or it is empty
      have hrest : ∀ {rest}, rest = [] ∨ rest.length < (c :: cs).length → statements m rest = statements n rest := by
        rintro rest (rfl | hlt)
        · exact ih (Nat.zero_le m) (Nat.zero_le n)
        · exact ih (by omega) (by omega)
      unfold statements
      cases hend : lineEnd? (c :: cs) with
      | some rest => exact hrest (length_lt_of_lineEnd? hend)
      | none =>
        cases hs : statement (skipBlanks (c :: cs)) with
        | none => rfl
        | some r =>
          obtain ⟨s, cs₁⟩ := r
          have hle := ((leaves_statement hs).trans (skipBlanks_suffix (c :: cs))).length_le
          simp only [Option.bind_eq_bind, Option.bind_some]
          cases hend' : lineEnd? cs₁ with
          | none => rfl
          | some rest =>
            have hlt := length_lt_of_lineEnd? hend'
            simp only [Option.bind_some]
            rw [hrest (hlt.imp_right fun hlt => Nat.lt_of_lt_of_le hlt hle)]

end Liveness.Toml
