import Liveness.Proofs.Toml.Fuel

/-!
# Comments

A comment goes on as long as its characters are printable, and what comes then must end the line.
So a text that starts with a comment is read like the text without the printable characters
that follow the mark (`parse?_comment`): it says what the next lines say if a line break comes
first then, and is no document otherwise.
-/

namespace Liveness.Toml

variable {c : Char} {cs rest : List Char}

theorem isPrintable_of_isBareKeyChar (h : isBareKeyChar c) : isPrintable c := by
  simp only [isBareKeyChar, isDigit, Bool.or_eq_true, Bool.and_eq_true, decide_eq_true_eq, beq_iff_eq, Char.le_def,
    UInt32.le_iff_toNat_le] at h
  have hrange : 32 ≤ c.toNat ∧ c.toNat ≠ 127 := by
    rcases h with (((h | h) | h) | rfl) | rfl
    · exact ⟨Nat.le_trans (by decide) h.1, Nat.ne_of_lt (Nat.lt_of_le_of_lt h.2 (by decide))⟩
    · exact ⟨Nat.le_trans (by decide) h.1, Nat.ne_of_lt (Nat.lt_of_le_of_lt h.2 (by decide))⟩
    · exact ⟨Nat.le_trans (by decide) h.1, Nat.ne_of_lt (Nat.lt_of_le_of_lt h.2 (by decide))⟩
    · decide
    · decide
  simp [isPrintable, hrange]

theorem ne_of_not_printable (h : isPrintable c = false) {d : Char} (hd : isPrintable d) : c ≠ d := by
  rintro rfl
  cases hd.symm.trans h

theorem isBlank_of_not_printable (h : isPrintable c = false) : isBlank c = false := by
  simp [isBlank, ne_of_not_printable h (d := ' ') rfl, ne_of_not_printable h (d := '\t') rfl]

/-- Neither a key nor a header starts with a control character. -/
theorem statement_of_not_printable (h : isPrintable c = false) (cs : List Char) : statement (c :: cs) = none := by
  have hkey : isBareKeyChar c = false := by
    cases hc : isBareKeyChar c with
    | false => rfl
    | true => cases (isPrintable_of_isBareKeyChar hc).symm.trans h
  have hpath : dottedKey nestingLimit (c :: cs) = none := by
    rw [nestingLimit, dottedKey, skipBlanks_cons (isBlank_of_not_printable h), simpleKey]
    · simp [hkey]
    · exact fun _ heq => ne_of_not_printable h (d := '\x22') rfl (List.cons.inj heq).1
    · exact fun _ heq => ne_of_not_printable h (d := '\x27') rfl (List.cons.inj heq).1
  rw [statement, keyValue, hpath]
  · rfl
  · exact fun _ heq => ne_of_not_printable h (d := '[') rfl (List.cons.inj heq).1
  · exact fun _ heq => ne_of_not_printable h (d := '[') rfl (List.cons.inj heq).1

theorem lineEnd?_of_not_printable (h : isPrintable c = false) (cs : List Char) :
    lineEnd? (c :: cs) = lineBreak? (c :: cs) := by
  rw [lineEnd?, skipBlanks_cons (isBlank_of_not_printable h), skipComment]
  exact fun _ heq => ne_of_not_printable h (d := '#') rfl (List.cons.inj heq).1

/-- The printable characters of a comment do not count for the end of its line. -/
theorem lineEnd?_comment (cs : List Char) : lineEnd? ('#' :: cs) = lineEnd? (cs.dropWhile isPrintable) := by
  have hcomment : skipComment (skipBlanks ('#' :: cs)) = cs.dropWhile isPrintable := rfl
  rw [lineEnd?, hcomment]
  cases hrest : cs.dropWhile isPrintable with
  | nil => rfl
  | cons c cs' =>
    have hc : isPrintable c = false := by simpa [hrest] using List.head?_dropWhile_not isPrintable cs
    rw [lineEnd?_of_not_printable hc]

/-- With a comment on its first line, a text is read like what the comment leaves of it. -/
theorem statements_comment (n : Nat) (cs : List Char) :
    statements (n + 1) ('#' :: cs) = statements (n + 1) (cs.dropWhile isPrintable) := by
  have hend := lineEnd?_comment cs
  cases hrest : cs.dropWhile isPrintable with
  | nil =>
    rw [hrest] at hend
    unfold statements
    rw [hend]
    cases n <;> rfl
  | cons c cs' =>
    have hc : isPrintable c = false := by simpa [hrest] using List.head?_dropWhile_not isPrintable cs
    rw [hrest] at hend
    rw [statements, statements, hend]
    · cases lineEnd? (c :: cs') with
      | some rest => rfl
      | none =>
        rw [skipBlanks_cons (isBlank_of_not_printable hc), statement_of_not_printable hc]
        rfl
    · exact List.cons_ne_nil _ _
    · exact List.cons_ne_nil _ _

/-- A document whose first line is a comment is read like what the comment leaves of it. -/
theorem parse?_comment (cs : List Char) :
    parse? (String.ofList ('#' :: cs)) = parse? (String.ofList (cs.dropWhile isPrintable)) := by
  have hlength : (cs.dropWhile isPrintable).length ≤ cs.length := (List.dropWhile_suffix isPrintable).length_le
  have hmark : (cs.dropWhile isPrintable).head? ≠ some '\ufeff' := by
    intro h
    have hc := List.head?_dropWhile_not isPrintable cs
    rw [h] at hc
    cases hc
  have hsame : statements (cs.length + 1) ('#' :: cs) =
      statements (cs.dropWhile isPrintable).length (cs.dropWhile isPrintable) := by
    rw [statements_comment]
    exact statements_of_le (by omega) (Nat.le_refl _)
  rw [parse?_of_unmarked (by simp), parse?_of_unmarked (by simpa using hmark)]
  simpa using congrArg (·.bind build?) hsame

/-! ## A line of comment above a document -/

/-- No document starts with a control character, unless a line ends there. -/
theorem parse?_of_not_printable (hc : isPrintable c = false) (h : lineBreak? (c :: cs) = none) :
    parse? (String.ofList (c :: cs)) = none := by
  have hmark : c ≠ '\ufeff' := ne_of_not_printable hc rfl
  have hnone : statements (cs.length + 1) (c :: cs) = none := by
    rw [statements, lineEnd?_of_not_printable hc, h, skipBlanks_cons (isBlank_of_not_printable hc),
      statement_of_not_printable hc]
    · rfl
    · exact List.cons_ne_nil _ _
  rw [parse?_of_unmarked (by simpa using hmark)]
  simpa using congrArg (·.bind build?) hnone

/-- Both kinds of line breaks are read alike. -/
theorem parse?_lineBreak (h : lineBreak? cs = some rest) :
    parse? (String.ofList cs) = parse? (String.ofList ('\n' :: rest)) := by
  have hmark : cs.head? ≠ some '\ufeff' := by
    intro hcs
    obtain ⟨cs', rfl⟩ := List.head?_eq_some_iff.mp hcs
    cases h
  have hlt := length_lt_of_lineBreak? h
  have hsame : statements cs.length cs = statements ('\n' :: rest).length ('\n' :: rest) := by
    calc statements cs.length cs = statements (cs.length + 1) cs := statements_of_le (Nat.le_refl _) (by omega)
      _ = statements (cs.length + 1) ('\n' :: rest) := by
        rw [statements_lineBreak h, statements_lineBreak rfl]
      _ = statements ('\n' :: rest).length ('\n' :: rest) := statements_of_le (by simp; omega) (Nat.le_refl _)
  rw [parse?_of_unmarked (by simpa using hmark), parse?_of_unmarked (by simp)]
  simpa using congrArg (·.bind build?) hsame

theorem dropWhile_isPrintable_line (line rest : List Char) :
    (line ++ '\n' :: rest).dropWhile isPrintable = line.dropWhile isPrintable ++ '\n' :: rest := by
  induction line with
  | nil => rfl
  | cons c line ih =>
    rw [List.cons_append, List.dropWhile_cons, List.dropWhile_cons]
    split
    · exact ih
    · rfl

/-- Whether a line ends at once does not depend on the lines after it. -/
theorem lineBreak?_line (line rest : List Char) :
    lineBreak? (line ++ '\n' :: rest) = (lineBreak? (line ++ ['\n'])).map (· ++ rest) := by
  cases line with
  | nil => rfl
  | cons c line =>
    by_cases hn : c = '\n'
    · subst hn
      simp [lineBreak?]
    · by_cases hr : c = '\r'
      · subst hr
        cases line with
        | nil => rfl
        | cons d line =>
          by_cases hd : d = '\n'
          · subst hd
            simp [lineBreak?]
          · simp [lineBreak?, hd]
      · rw [List.cons_append, List.cons_append, lineBreak?_cons hn hr, lineBreak?_cons hn hr, Option.map_none]

/-- A document under a line of comment is read with what the comment leaves of that line, which must be the end of a
line. -/
theorem parse?_comment_line (line doc : List Char) :
    parse? (String.ofList ('#' :: (line ++ '\n' :: doc))) =
      (lineBreak? (line.dropWhile isPrintable ++ ['\n'])).bind fun lines =>
        parse? (String.ofList ('\n' :: (lines ++ doc))) := by
  rw [parse?_comment, dropWhile_isPrintable_line]
  have hbreak := lineBreak?_line (line.dropWhile isPrintable) doc
  cases hlines : lineBreak? (line.dropWhile isPrintable ++ ['\n']) with
  | some lines =>
    rw [hlines] at hbreak
    exact parse?_lineBreak hbreak
  | none =>
    rw [hlines] at hbreak
    cases hrest : line.dropWhile isPrintable with
    | nil =>
      rw [hrest] at hlines
      cases hlines
    | cons c cs =>
      have hc : isPrintable c = false := by simpa [hrest] using List.head?_dropWhile_not isPrintable line
      rw [hrest] at hbreak
      exact parse?_of_not_printable hc hbreak

end Liveness.Toml
