import Liveness.Toml.Text
import Liveness.Toml.Writer

/-!
# Strings read back

The writer chooses one of five styles by what a string holds; the reader undoes each
of them (`string_writeString`).  Double quotes hold a character in one of three ways
(`Held`), and both machines that read double quotes take all of them back, so the
styles with escapes need no look at what the string holds.  A block holds quotes as
they are: the machine then owes up to two of them (`owing`) until it knows whether
they close the block.
-/

namespace Liveness.Toml

variable {q c : Char} {s w cs rest : List Char} {n : Nat}

@[simp] theorem push_some (front : List Char) : push front (some (s, rest)) = some (front ++ s, rest) := rfl

@[simp] theorem push_nil (r : Option (List Char × List Char)) : push [] r = r := by
  rcases r with _ | ⟨s, rest⟩ <;> rfl

@[simp] theorem push_push (a b : List Char) (r : Option (List Char × List Char)) :
    push a (push b r) = push (a ++ b) r := by
  rcases r with _ | ⟨s, rest⟩
  · rfl
  · simp

/-! ## Characters -/

theorem isPrintable_of_not_isControl (h : isControl c = false) (hn : c ≠ '\n') : isPrintable c := by
  by_cases ht : c = '\t'
  · subst ht
    rfl
  · simp only [isControl, Bool.or_eq_false_iff, Bool.and_eq_false_iff, decide_eq_false_iff_not, bne_eq_false_iff_eq,
      beq_eq_false_iff_ne] at h
    obtain ⟨(h | h) | h, hd⟩ := h
    · simp [isPrintable, Nat.le_of_not_lt h, hd]
    · exact absurd h ht
    · exact absurd h hn

theorem toNat_lt_of_isControl (h : isControl c) : c.toNat < 128 := by
  simp only [isControl, Bool.or_eq_true, Bool.and_eq_true, decide_eq_true_eq, beq_iff_eq] at h
  omega

theorem scalar?_toNat (h : c.toNat < 128) : scalar? c.toNat = some c := by
  have hsmall : c.toNat < 0xd800 := by omega
  simp [scalar?, hsmall, Char.ofNat_toNat]

theorem hexValue?_upperHexDigit (n : Nat) : hexValue? (upperHexDigit n) = some (n % 16) := by
  have hall : ∀ m < 16, hexValue? (Nat.digitChar m).toUpper = some m := by decide
  exact hall (n % 16) (Nat.mod_lt n (by decide))

/-! ## Between double quotes -/

/-- How double quotes hold a character: by a one-letter escape, by the two digits of its code point, or as it is. -/
inductive Held (c : Char) : List Char → Prop where
  | letter {d : Char} (hd : escapeChar? d = some c) : Held c ['\\', d]
  | code (hc : c.toNat < 128) : Held c ['\\', 'u', '0', '0', upperHexDigit (c.toNat / 16), upperHexDigit c.toNat]
  | plain (hc : isPrintable c) (hq : c ≠ '\x22') (hb : c ≠ '\\') : Held c [c]

theorem held_escape (hq : c ≠ '\x22') (hn : c ≠ '\n') : Held c (escape c) := by
  unfold escape
  repeat' split
  · subst c
    exact .letter rfl
  · subst c
    exact .letter rfl
  · subst c
    exact .letter rfl
  · subst c
    exact .letter rfl
  · subst c
    exact .letter rfl
  · rename_i hcontrol
    exact .code (toNat_lt_of_isControl hcontrol)
  · rename_i hb hcontrol
    exact .plain (isPrintable_of_not_isControl (Bool.eq_false_iff.mpr hcontrol) hn) hq hb

/-- What a one-letter escape is not. -/
theorem ne_of_escapeChar? {d : Char} (hd : escapeChar? d = some c) :
    d ≠ 'u' ∧ d ≠ 'U' ∧ isBlank d = false ∧ d ≠ '\n' ∧ d ≠ '\r' := by
  unfold escapeChar? at hd
  split at hd <;> first | decide | cases hd

theorem basic_held (h : Held c w) (cs : List Char) : basic .plain (w ++ cs) = push [c] (basic .plain cs) := by
  cases h with
  | letter hd =>
    obtain ⟨hu, hU, -⟩ := ne_of_escapeChar? hd
    simp [basic, hu, hU, hd]
  | code hc =>
    have hcode : c.toNat / 16 % 16 * 16 + c.toNat % 16 = c.toNat := by omega
    simp [basic, hexValue?_upperHexDigit, hcode, scalar?_toNat hc, show hexValue? '0' = some 0 from rfl]
  | plain hc hq hb => simp [basic, hc, hq, hb]

/-- What stands between one-line double quotes reads back, whatever the string. -/
theorem basic_escapeLine (s rest : List Char) : basic .plain (escapeLine s ++ '\x22' :: rest) = some (s, rest) := by
  induction s with
  | nil => simp [escapeLine, basic]
  | cons c s ih =>
    rw [escapeLine, List.flatMap_cons, List.append_assoc, basic_held _ _]
    · rw [← escapeLine, ih]
      rfl
    · split
      · subst c
        exact .letter rfl
      · split
        · subst c
          exact .letter rfl
        · exact held_escape ‹_› ‹_›

/-! ## Between apostrophes -/

theorem literal_append (hs : ∀ c ∈ s, isPrintable c ∧ c ≠ '\x27') (rest : List Char) :
    literal (s ++ '\x27' :: rest) = some (s, rest) := by
  induction s with
  | nil => simp [literal]
  | cons c s ih =>
    obtain ⟨hc, hq⟩ := hs c List.mem_cons_self
    simp [literal, hc, hq, ih fun d hd => hs d (List.mem_cons_of_mem c hd)]

/-! ## Blocks in double quotes -/

/-- A block that has seen some quotes, which it puts out when no third one follows. -/
def BlockMode.owing : Nat → BlockMode
  | 0 => .plain
  | n + 1 => .quotes (n + 1)

theorem block_owing_quote (hn : n < 2) (cs : List Char) :
    block (.owing n) ('\x22' :: cs) = block (.owing (n + 1)) cs := by
  cases n with
  | zero => simp [BlockMode.owing, block, blockStep, blockPlain]
  | succ n => simp [BlockMode.owing, block, blockStep, hn]

theorem block_owing (hc : c ≠ '\x22') (cs : List Char) :
    block (.owing n) (c :: cs) = push (List.replicate n '\x22') (block .plain (c :: cs)) := by
  cases n with
  | zero => simp [BlockMode.owing]
  | succ n =>
    simp only [BlockMode.owing, block, blockStep, hc, if_false]
    cases blockPlain c with
    | none => rfl
    | some r => simp

theorem block_held (h : Held c w) (cs : List Char) : block .plain (w ++ cs) = push [c] (block .plain cs) := by
  cases h with
  | letter hd =>
    obtain ⟨hu, hU, hblank, hn, hr⟩ := ne_of_escapeChar? hd
    simp [block, blockStep, blockPlain, hu, hU, hblank, hn, hr, hd]
  | code hc =>
    have hcode : c.toNat / 16 % 16 * 16 + c.toNat % 16 = c.toNat := by omega
    simp [block, blockStep, blockPlain, hexValue?_upperHexDigit, hcode, scalar?_toNat hc,
      show hexValue? '0' = some 0 from rfl]
  | plain hc hq hb =>
    have hn : c ≠ '\n' := by
      rintro rfl
      cases hc
    have hr : c ≠ '\r' := by
      rintro rfl
      cases hc
    simp [block, blockStep, blockPlain, hc, hq, hb, hn, hr]

/-- The closing quotes of a block, after quotes that belong to it. -/
theorem block_close (hn : n ≤ 2) (hrest : rest.head? ≠ some '\x22') :
    block (.owing n) (tripleQuotes ++ rest) = some (List.replicate n '\x22', rest) := by
  have hclosed : ∀ k, block (.closing k) rest = some ([], rest) := by
    intro k
    cases rest with
    | nil => rfl
    | cons c cs =>
      have hc : c ≠ '\x22' := by simpa using hrest
      simp [block, hc]
  match n, hn with
  | 0, _ => simp [tripleQuotes, BlockMode.owing, block, blockStep, blockPlain, hclosed]
  | 1, _ => simp [tripleQuotes, BlockMode.owing, block, blockStep, hclosed]
  | 2, _ => simp [tripleQuotes, BlockMode.owing, block, blockStep, hclosed]

theorem block_line_feed (cs : List Char) : block .plain ('\n' :: cs) = push ['\n'] (block .plain cs) := by
  simp [block, blockStep, blockPlain]

/-- What the writer puts into a block for a character that is no quote. -/
theorem block_escape (hc : c ≠ '\x22') (cs : List Char) :
    block .plain (escape c ++ cs) = push [c] (block .plain cs) := by
  by_cases hline : c = '\n'
  · subst hline
    exact block_line_feed cs
  · exact block_held (held_escape hc hline) cs

/-- The writer keeps a character or starts an escape in its place. -/
theorem escape_cases (c : Char) : escape c = [c] ∧ c ≠ '\r' ∨ ∃ w, escape c = '\\' :: w := by
  unfold escape
  repeat' split
  all_goals first | exact .inr ⟨_, rfl⟩ | exact .inl ⟨rfl, ‹_›⟩

theorem escape_eq_cons (hc : c ≠ '\x22') : ∃ d w, escape c = d :: w ∧ d ≠ '\x22' := by
  obtain ⟨heq, -⟩ | ⟨w, heq⟩ := escape_cases c
  · exact ⟨c, [], heq, hc⟩
  · exact ⟨'\\', w, heq, by decide⟩

/-- What stands between block double quotes reads back, whatever the string. -/
theorem block_escapeBlock (hn : n ≤ 2) (s : List Char) (hrest : rest.head? ≠ some '\x22') :
    block (.owing n) (escapeBlock n s ++ (tripleQuotes ++ rest)) = some (List.replicate n '\x22' ++ s, rest) := by
  -- the writer counts the quotes just before, and the reader owes as many
  induction s generalizing n with
  | nil => simp [escapeBlock, block_close hn hrest]
  | cons c s ih =>
    have hplain : block .plain (escapeBlock 0 s ++ (tripleQuotes ++ rest)) = some (s, rest) := ih (Nat.zero_le 2)
    by_cases hc : c = '\x22'
    · subst hc
      by_cases htwo : n = 2
      · subst htwo
        have hescaped : block .plain ('\\' :: '\x22' :: (escapeBlock 0 s ++ (tripleQuotes ++ rest))) =
            push ['\x22'] (block .plain (escapeBlock 0 s ++ (tripleQuotes ++ rest))) := block_held (.letter rfl) _
        rw [escapeBlock, if_pos rfl, if_pos rfl, List.cons_append, List.cons_append, block_owing (by decide), hescaped,
          hplain]
        rfl
      · have hlt : n < 2 := Nat.lt_of_le_of_ne hn htwo
        rw [escapeBlock, if_pos rfl, if_neg htwo, List.cons_append, block_owing_quote hlt, ih hlt, List.replicate_succ']
        simp
    · obtain ⟨d, w, hw, hd⟩ := escape_eq_cons hc
      rw [escapeBlock, if_neg hc, List.append_assoc, hw, List.cons_append, block_owing hd, ← List.cons_append, ← hw,
        block_escape hc, hplain]
      simp

/-! ## Blocks in apostrophes -/

theorem hasTriple_cons (h : hasTriple q s) (c : Char) : hasTriple q (c :: s) := by
  match s, h with
  | _ :: _ :: _, h => simp [hasTriple, h]

theorem hasTriple_append (h : hasTriple q s) (l : List Char) : hasTriple q (l ++ s) := by
  induction l with
  | nil => exact h
  | cons c l ih => exact hasTriple_cons ih c

/-- A block that has seen some apostrophes, which it puts out when no third one follows. -/
def LiteralBlockMode.owing : Nat → LiteralBlockMode
  | 0 => .plain
  | n + 1 => .quotes (n + 1)

theorem literalBlock_owing_quote (hn : n < 2) (cs : List Char) :
    literalBlock (.owing n) ('\x27' :: cs) = literalBlock (.owing (n + 1)) cs := by
  cases n with
  | zero => simp [LiteralBlockMode.owing, literalBlock]
  | succ n => simp [LiteralBlockMode.owing, literalBlock, hn]

theorem literalBlock_owing (hc : c = '\n' ∨ isPrintable c) (hq : c ≠ '\x27') (cs : List Char) :
    literalBlock (.owing n) (c :: cs) = push (List.replicate n '\x27' ++ [c]) (literalBlock .plain cs) := by
  have hr : c ≠ '\r' := by
    rintro rfl
    exact hc.elim nofun nofun
  cases n <;> simp [LiteralBlockMode.owing, literalBlock, hq, hr, hc]

/-- The closing apostrophes of a block, after apostrophes that belong to it. -/
theorem literalBlock_close (hn : n ≤ 2) (hrest : rest.head? ≠ some '\x27') :
    literalBlock (.owing n) (tripleApostrophes ++ rest) = some (List.replicate n '\x27', rest) := by
  have hclosed : ∀ k, literalBlock (.closing k) rest = some ([], rest) := by
    intro k
    cases rest with
    | nil => rfl
    | cons c cs =>
      have hc : c ≠ '\x27' := by simpa using hrest
      simp [literalBlock, hc]
  match n, hn with
  | 0, _ => simp [tripleApostrophes, LiteralBlockMode.owing, literalBlock, hclosed]
  | 1, _ => simp [tripleApostrophes, LiteralBlockMode.owing, literalBlock, hclosed]
  | 2, _ => simp [tripleApostrophes, LiteralBlockMode.owing, literalBlock, hclosed]

/-- What stands between block apostrophes reads back if they are nowhere three in a row, those counted that the
reader owes. -/
theorem literalBlock_append (hn : n ≤ 2) (hs : ∀ c ∈ s, c = '\n' ∨ isPrintable c)
    (htriple : hasTriple '\x27' (List.replicate n '\x27' ++ s) = false) (hrest : rest.head? ≠ some '\x27') :
    literalBlock (.owing n) (s ++ (tripleApostrophes ++ rest)) = some (List.replicate n '\x27' ++ s, rest) := by
  induction s generalizing n with
  | nil => simp [literalBlock_close hn hrest]
  | cons c s ih =>
    have hs' : ∀ c ∈ s, c = '\n' ∨ isPrintable c := fun d hd => hs d (List.mem_cons_of_mem c hd)
    by_cases hc : c = '\x27'
    · subst hc
      have hlt : n < 2 := by
        refine Nat.lt_of_le_of_ne hn ?_
        rintro rfl
        cases htriple
      have hshift : List.replicate n '\x27' ++ '\x27' :: s = List.replicate (n + 1) '\x27' ++ s := by
        simp [List.replicate_succ']
      rw [List.cons_append, literalBlock_owing_quote hlt, ih hlt hs' (hshift ▸ htriple), hshift]
    · have htail : hasTriple '\x27' s = false :=
        Bool.eq_false_iff.mpr fun h => Bool.eq_false_iff.mp htriple (hasTriple_append (hasTriple_cons h c) _)
      rw [List.cons_append, literalBlock_owing (hs c List.mem_cons_self) hc,
        show LiteralBlockMode.plain = .owing 0 from rfl, ih (Nat.zero_le 2) hs' htail]
      simp

/-! ## Strings -/

/-- A block whose text has a line feed starts on a new line, which is dropped again. -/
theorem dropLineBreak_blockOpening {l : List Char} (h : s.contains '\n' = false → lineBreak? l = none) :
    dropLineBreak (blockOpening s ++ l) = l := by
  unfold blockOpening
  cases hs : s.contains '\n' with
  | true => rfl
  | false => simp [dropLineBreak, h hs]

theorem lineBreak?_cons (hn : c ≠ '\n') (hr : c ≠ '\r') (cs : List Char) : lineBreak? (c :: cs) = none := by
  unfold lineBreak?
  split
  · rename_i heq
    cases heq
    contradiction
  · rename_i heq
    cases heq
    contradiction
  · rfl

/-- A block that has no line feed does not start with a line break. -/
theorem lineBreak?_escapeBlock (hs : s.contains '\n' = false) (l : List Char) :
    lineBreak? (escapeBlock 0 s ++ (tripleQuotes ++ l)) = none := by
  cases s with
  | nil => rfl
  | cons c s =>
    by_cases hc : c = '\x22'
    · subst hc
      rfl
    · have hline : c ≠ '\n' := by
        rintro rfl
        simp at hs
      rw [escapeBlock, if_neg hc]
      obtain ⟨heq, hr⟩ | ⟨w, heq⟩ := escape_cases c
      · rw [heq]
        exact lineBreak?_cons hline hr _
      · rw [heq]
        rfl

theorem string_writeBlock (s : List Char) (hrest : rest.head? ≠ some '\x22') :
    string (writeBlock s ++ rest) = some (s, rest) := by
  have hshape : writeBlock s ++ rest =
      '\x22' :: '\x22' :: '\x22' :: (blockOpening s ++ (escapeBlock 0 s ++ (tripleQuotes ++ rest))) := by
    simp [writeBlock, tripleQuotes]
  rw [hshape, string, dropLineBreak_blockOpening fun hs => lineBreak?_escapeBlock hs rest]
  exact block_escapeBlock (Nat.zero_le 2) s hrest

theorem string_basic {l : List Char} (hl : ∀ t, l ≠ '\x22' :: '\x22' :: t) :
    string ('\x22' :: l) = basic .plain l := by
  unfold string
  split
  · rename_i heq
    cases heq
    exact absurd rfl (hl _)
  · rename_i heq
    cases heq
    rfl
  all_goals simp_all

theorem string_literal {l : List Char} (hl : ∀ t, l ≠ '\x27' :: '\x27' :: t) :
    string ('\x27' :: l) = literal l := by
  unfold string
  split
  · simp_all
  · simp_all
  · rename_i heq
    cases heq
    exact absurd rfl (hl _)
  · rename_i heq
    cases heq
    rfl
  · simp_all

theorem head?_escapeLine (s : List Char) : (escapeLine s).head? ≠ some '\x22' := by
  cases s with
  | nil => nofun
  | cons c s =>
    rw [escapeLine, List.flatMap_cons]
    split
    · exact nofun
    · rename_i hc
      split
      · exact nofun
      · obtain ⟨d, w, hw, hd⟩ := escape_eq_cons hc
        simpa [hw] using hd

theorem string_quoted (s : List Char) (hrest : rest.head? ≠ some '\x22') :
    string ('\x22' :: (escapeLine s ++ '\x22' :: rest)) = some (s, rest) := by
  rw [string_basic, basic_escapeLine]
  intro t ht
  have hhead := head?_escapeLine s
  cases hline : escapeLine s with
  | nil =>
    rw [hline] at ht
    obtain rfl := (List.cons.inj ht).2
    exact hrest rfl
  | cons d w =>
    rw [hline] at ht hhead
    obtain ⟨rfl, -⟩ := List.cons.inj ht
    exact hhead rfl

/-- Control characters are written by escapes only. -/
theorem isPrintable_of_styleFor (h : styleFor s ≠ .escaped) (hc : c ∈ s) : c = '\n' ∨ isPrintable c := by
  have hcontrol : s.any isControl = false := by
    refine Bool.eq_false_iff.mpr fun hcontrol => h ?_
    rw [styleFor, if_pos hcontrol]
  by_cases hline : c = '\n'
  · exact .inl hline
  · refine .inr (isPrintable_of_not_isControl (Bool.eq_false_iff.mpr fun hc' => ?_) hline)
    exact List.any_eq_false.mp hcontrol c hc hc'

/-- What apostrophes hold is not nothing, and they hold neither apostrophes nor control characters. -/
theorem styleFor_literal (h : styleFor s = .literal) : s ≠ [] ∧ ∀ c ∈ s, isPrintable c ∧ c ≠ '\x27' := by
  have hplain : s.any (fun c => c == '\x27' || c == '\n') = false := by
    unfold styleFor at h
    repeat' split at h
    all_goals try contradiction
    rename_i hplain
    simpa using hplain
  refine ⟨?_, fun c hc => ?_⟩
  · rintro rfl
    cases h
  · have hc' := List.any_eq_false.mp hplain c hc
    simp only [Bool.or_eq_true, beq_iff_eq, not_or] at hc'
    obtain ⟨hq, hn⟩ := hc'
    exact ⟨(isPrintable_of_styleFor (by simp [h]) hc).resolve_left hn, hq⟩

/-- Block apostrophes hold no three apostrophes in a row, and no control characters. -/
theorem styleFor_literalBlock (h : styleFor s = .literalBlock) :
    (∀ c ∈ s, c = '\n' ∨ isPrintable c) ∧ hasTriple '\x27' s = false := by
  refine ⟨fun c hc => isPrintable_of_styleFor (by simp [h]) hc, ?_⟩
  unfold styleFor at h
  repeat' split at h
  all_goals try contradiction
  rename_i htriple
  simpa using htriple

theorem string_writeLiteral (hs : s ≠ [] ∧ ∀ c ∈ s, isPrintable c ∧ c ≠ '\x27') (rest : List Char) :
    string ('\x27' :: (s ++ '\x27' :: rest)) = some (s, rest) := by
  obtain ⟨hne, hs⟩ := hs
  rw [string_literal, literal_append hs]
  intro t ht
  cases s with
  | nil => exact hne rfl
  | cons c s =>
    obtain ⟨rfl, -⟩ := List.cons.inj ht
    exact (hs _ List.mem_cons_self).2 rfl

theorem string_writeLiteralBlock (hs : (∀ c ∈ s, c = '\n' ∨ isPrintable c) ∧ hasTriple '\x27' s = false)
    (hrest : rest.head? ≠ some '\x27') :
    string (tripleApostrophes ++ (blockOpening s ++ (s ++ (tripleApostrophes ++ rest)))) = some (s, rest) := by
  obtain ⟨hs, htriple⟩ := hs
  rw [tripleApostrophes, List.cons_append, List.cons_append, List.cons_append, List.nil_append, string,
    dropLineBreak_blockOpening fun hline => ?_]
  · exact literalBlock_append (Nat.zero_le 2) hs htriple hrest
  · cases s with
    | nil => rfl
    | cons c s =>
      have hn : c ≠ '\n' := by
        rintro rfl
        simp at hline
      have hr : c ≠ '\r' := by
        rintro rfl
        exact (hs '\r' List.mem_cons_self).elim nofun nofun
      exact lineBreak?_cons hn hr _

/-- Every string that is written reads back, unless another quote follows. -/
theorem string_writeString (s : List Char) (hquote : rest.head? ≠ some '\x22') (happ : rest.head? ≠ some '\x27') :
    string (writeString s ++ rest) = some (s, rest) := by
  have hquoted := string_quoted s hquote
  rw [writeString]
  cases hstyle : styleFor s with
  | basic => simpa using hquoted
  | literal => simpa using string_writeLiteral (styleFor_literal hstyle) rest
  | block => exact string_writeBlock s hquote
  | literalBlock => simpa using string_writeLiteralBlock (styleFor_literalBlock hstyle) happ
  | escaped =>
    dsimp only
    split
    · exact string_writeBlock s hquote
    · simpa using hquoted

end Liveness.Toml
