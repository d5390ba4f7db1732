import Liveness.Proofs.Toml.Numbers
import Liveness.Proofs.Toml.Strings
import Liveness.Toml.Reader

/-!
# Lines read back

A document is read line by line.  `Says` tells which statements a text makes, without
the fuel that bounds the number of its lines; a header, a key with its value and an
empty line each add to what the rest of the text says.
-/

namespace Liveness.Toml

variable {c : Char} {key : String} {line w rest : List Char} {n : Nat} {v : Value} {s : Statement}
  {ss : List Statement}

/-- Characters that a class tells apart. -/
theorem ne_of_class {p : Char → Bool} (hc : p c) {d : Char} (hd : p d = false) : c ≠ d := by
  rintro rfl
  cases hc.symm.trans hd

theorem isBlank_of_class {p : Char → Bool} (hc : p c) (hspace : p ' ' = false) (htab : p '\t' = false) :
    isBlank c = false := by
  simp [isBlank, ne_of_class hc hspace, ne_of_class hc htab]

/-! ## Values at the end of a line -/

theorem value_quote (hc : c = '\x22' ∨ c = '\x27') (cs : List Char) :
    value n (c :: cs) = (string (c :: cs)).map fun (s, rest) => (.string (String.ofList s), rest) := by
  rcases hc with rfl | rfl
  · rw [value, if_pos (by decide)] <;> exact nofun
  · rw [value, if_pos (by decide)] <;> exact nofun

theorem value_digit (hc : isDigit c) (cs : List Char) : value n (c :: cs) = dateOrNumber (c :: cs) := by
  have hne : ∀ d, isDigit d = false → c ≠ d := fun d hd => ne_of_class hc hd
  rw [value, if_neg]
  · simp [hne '\x22' rfl, hne '\x27' rfl]
  · exact fun _ heq => absurd heq (hne 't' rfl)
  · exact fun _ heq => absurd heq (hne 'f' rfl)
  · exact fun _ heq => absurd heq (hne 'i' rfl)
  · exact fun _ heq => absurd heq (hne 'n' rfl)
  · exact fun _ _ heq => absurd heq (hne '[' rfl)
  · exact fun _ _ heq => absurd heq (hne '\x7b' rfl)

/-- The quote that a written string starts with. -/
theorem writeString_eq_cons (s : List Char) : ∃ c w, writeString s = c :: w ∧ (c = '\x22' ∨ c = '\x27') := by
  rw [writeString]
  split
  · exact ⟨_, _, rfl, .inl rfl⟩
  · exact ⟨_, _, rfl, .inr rfl⟩
  · exact ⟨_, _, rfl, .inl rfl⟩
  · exact ⟨_, _, rfl, .inr rfl⟩
  · split
    · exact ⟨_, _, rfl, .inl rfl⟩
    · exact ⟨_, _, rfl, .inl rfl⟩

/-- A value that is written, which is no blank, and reads back at the end of its line. -/
structure Written (v : Value) (w : List Char) : Prop where
  head : ∃ c w', w = c :: w' ∧ isBlank c = false
  reads : ∀ n rest, value n (w ++ '\n' :: rest) = some (v, '\n' :: rest)

theorem written_string (s : String) : Written (.string s) (writeString s.toList) := by
  obtain ⟨c, w, hw, hc⟩ := writeString_eq_cons s.toList
  refine ⟨⟨c, w, hw, by rcases hc with rfl | rfl <;> rfl⟩, fun n rest => ?_⟩
  have hread : string (c :: (w ++ '\n' :: rest)) = some (s.toList, '\n' :: rest) := by
    rw [← List.cons_append, ← hw]
    exact string_writeString s.toList nofun nofun
  rw [hw, List.cons_append, value_quote hc, hread, Option.map_some]
  simp

theorem written_integer {m : Nat} (hm : m ≤ 9223372036854775807) : Written (.integer m) (Nat.toDigits 10 m) := by
  obtain ⟨d, ds, hds⟩ := List.exists_cons_of_ne_nil (Nat.toDigits_ne_nil (b := 10) (n := m))
  have hd : isDigit d := isDigit_toDigits (hds ▸ List.mem_cons_self)
  refine ⟨⟨d, ds, hds, isBlank_of_class hd rfl rfl⟩, fun n rest => ?_⟩
  rw [hds, List.cons_append, value_digit hd, ← List.cons_append, ← hds]
  exact dateOrNumber_toDigits hm rest

theorem written_true : Written (.boolean true) ['t', 'r', 'u', 'e'] where
  head := ⟨_, _, rfl, rfl⟩
  reads := fun n _ => by cases n <;> rfl

theorem written_false : Written (.boolean false) ['f', 'a', 'l', 's', 'e'] where
  head := ⟨_, _, rfl, rfl⟩
  reads := fun n _ => by cases n <;> rfl

/-! ## Lines -/

theorem length_lt_of_lineBreak? {cs : List Char} (h : lineBreak? cs = some rest) : rest.length < cs.length := by
  unfold lineBreak? at h
  split at h
  · cases h
    exact Nat.lt_succ_self _
  · cases h
    exact Nat.lt_succ_of_lt (Nat.lt_succ_self _)
  · cases h

/-- The statements of a text, with as much fuel as it has characters or more. -/
def Says (cs : List Char) (ss : List Statement) : Prop := ∀ n, cs.length ≤ n → statements n cs = some ss

theorem says_nil : Says [] [] := fun n _ => by cases n <;> rfl

theorem lineEnd?_line_feed (rest : List Char) : lineEnd? ('\n' :: rest) = some rest := rfl

theorem lineEnd?_of_lineBreak? {cs : List Char} (h : lineBreak? cs = some rest) : lineEnd? cs = some rest := by
  unfold lineBreak? at h
  split at h
  · cases h
    rfl
  · cases h
    rfl
  · cases h

theorem statements_lineBreak {cs : List Char} (h : lineBreak? cs = some rest) (n : Nat) :
    statements (n + 1) cs = statements n rest := by
  cases cs with
  | nil => cases h
  | cons c cs =>
    rw [statements, lineEnd?_of_lineBreak? h]
    exact nofun

/-- A line without anything on it says nothing. -/
theorem says_lineBreak {cs : List Char} (hb : lineBreak? cs = some rest) (h : Says rest ss) : Says cs ss := by
  intro n hn
  have hlt := length_lt_of_lineBreak? hb
  obtain ⟨n, rfl⟩ : ∃ m, n = m + 1 := ⟨n - 1, by omega⟩
  rw [statements_lineBreak hb]
  exact h n (by omega)

theorem says_blank (h : Says rest ss) : Says ('\n' :: rest) ss := says_lineBreak rfl h

/-- A line that makes a statement starts with neither a blank nor a comment, and does not end at once. -/
theorem says_line (h : Says rest ss) (hblank : isBlank c = false) (hcomment : c ≠ '#') (hbreak : c ≠ '\n' ∧ c ≠ '\r')
    (hs : statement (c :: (line ++ '\n' :: rest)) = some (s, '\n' :: rest)) :
    Says (c :: (line ++ '\n' :: rest)) (s :: ss) := by
  intro n hn
  obtain ⟨n, rfl⟩ : ∃ m, n = m + 1 := ⟨n - 1, by simp at hn; omega⟩
  have hskip : ∀ cs, skipBlanks (c :: cs) = c :: cs := fun cs => by simp [skipBlanks, hblank]
  have hfull : ∀ cs, lineEnd? (c :: cs) = none := by
    intro cs
    rw [lineEnd?, hskip, skipComment]
    · exact lineBreak?_cons hbreak.1 hbreak.2 cs
    · exact fun _ heq => hcomment (List.cons.inj heq).1
  rw [statements, hfull, hskip, hs]
  · simp only [Option.bind_eq_bind, Option.bind_some, lineEnd?_line_feed]
    rw [h n (by simp at hn; omega)]
    rfl
  · exact nofun

/-! ## Keys -/

/-- Whether a key needs no quotes. -/
def isBareKey (key : String) : Bool := !key.toList.isEmpty && key.toList.all isBareKeyChar

theorem eq_cons_of_isBareKey (h : isBareKey key) :
    (∃ c w, key.toList = c :: w ∧ isBareKeyChar c) ∧ ∀ c ∈ key.toList, isBareKeyChar c := by
  simp only [isBareKey, Bool.and_eq_true, Bool.not_eq_true', List.isEmpty_eq_false_iff, List.all_eq_true] at h
  obtain ⟨hne, hkey⟩ := h
  obtain ⟨c, w, hw⟩ := List.exists_cons_of_ne_nil hne
  exact ⟨⟨c, w, hw, hkey c (hw ▸ List.mem_cons_self)⟩, hkey⟩

theorem simpleKey_bare (h : isBareKey key) (hc : isBareKeyChar c = false) (rest : List Char) :
    simpleKey (key.toList ++ c :: rest) = some (key, c :: rest) := by
  obtain ⟨⟨d, w, hw, hd⟩, hall⟩ := eq_cons_of_isBareKey h
  have htake : (key.toList ++ c :: rest).takeWhile isBareKeyChar = key.toList := by
    rw [List.takeWhile_append_of_pos hall, List.takeWhile_cons_of_neg (by simp [hc]), List.append_nil]
  have hdrop : (key.toList ++ c :: rest).dropWhile isBareKeyChar = c :: rest := by
    rw [List.dropWhile_append_of_pos hall, List.dropWhile_cons_of_neg (by simp [hc])]
  have hkey : String.ofList (d :: w) = key := by rw [← hw, String.ofList_toList]
  rw [simpleKey, htake, hdrop, hw]
  · exact congrArg (fun k => some (k, c :: rest)) hkey
  · rw [hw]
    exact fun _ heq => ne_of_class hd (d := '\x22') rfl (List.cons.inj heq).1
  · rw [hw]
    exact fun _ heq => ne_of_class hd (d := '\x27') rfl (List.cons.inj heq).1

theorem skipBlanks_cons (hc : isBlank c = false) (rest : List Char) : skipBlanks (c :: rest) = c :: rest :=
  List.dropWhile_cons_of_neg (by simp [hc])

/-- A key of one part is read up to the character that ends it. -/
theorem dottedKey_bare (h : isBareKey key) (hc : isBareKeyChar c = false)
    (hdot : ∀ w, skipBlanks (c :: rest) ≠ '.' :: w) :
    dottedKey (n + 1) (key.toList ++ c :: rest) = some ([key], skipBlanks (c :: rest)) := by
  obtain ⟨⟨d, w, hw, hd⟩, -⟩ := eq_cons_of_isBareKey h
  have hskip : skipBlanks (key.toList ++ c :: rest) = key.toList ++ c :: rest := by
    rw [hw, List.cons_append, skipBlanks_cons (isBlank_of_class hd rfl rfl)]
  rw [dottedKey, hskip, simpleKey_bare h hc]
  simp only [Option.bind_eq_bind, Option.bind_some]

theorem says_header (key : String) (hkey : isBareKey key) (h : Says rest ss) :
    Says ('[' :: (key.toList ++ ']' :: '\n' :: rest)) (.table [key] :: ss) := by
  have hread : statement ('[' :: (key.toList ++ ']' :: '\n' :: rest)) = some (.table [key], '\n' :: rest) := by
    have hpath : dottedKey nestingLimit (key.toList ++ ']' :: '\n' :: rest) = some ([key], ']' :: '\n' :: rest) :=
      dottedKey_bare hkey rfl nofun
    obtain ⟨⟨d, w, hw, hd⟩, -⟩ := eq_cons_of_isBareKey hkey
    rw [statement, hpath]
    · rfl
    · rw [hw]
      exact fun _ heq => ne_of_class hd (d := '[') rfl (List.cons.inj heq).1
  have hline : key.toList ++ ']' :: '\n' :: rest = (key.toList ++ [']']) ++ '\n' :: rest := by simp
  rw [hline] at hread ⊢
  exact says_line h rfl (by decide) (by decide) hread

theorem says_key (key : String) (hkey : isBareKey key) (hv : Written v w) (h : Says rest ss) :
    Says (key.toList ++ ' ' :: '=' :: ' ' :: (w ++ '\n' :: rest)) (.assign [key] v :: ss) := by
  have hread : statement (key.toList ++ ' ' :: '=' :: ' ' :: (w ++ '\n' :: rest)) =
      some (.assign [key] v, '\n' :: rest) := by
    have hpath : dottedKey nestingLimit (key.toList ++ ' ' :: '=' :: ' ' :: (w ++ '\n' :: rest)) =
        some ([key], '=' :: ' ' :: (w ++ '\n' :: rest)) := dottedKey_bare hkey rfl nofun
    have hskip : skipBlanks (' ' :: (w ++ '\n' :: rest)) = w ++ '\n' :: rest := by
      obtain ⟨c, w', rfl, hc⟩ := hv.head
      exact skipBlanks_cons hc _
    obtain ⟨⟨d, w', hw, hd⟩, -⟩ := eq_cons_of_isBareKey hkey
    rw [statement, keyValue, hpath]
    · simp [char, hskip, hv.reads]
    · rw [hw]
      exact fun _ heq => ne_of_class hd (d := '[') rfl (List.cons.inj heq).1
    · rw [hw]
      exact fun _ heq => ne_of_class hd (d := '[') rfl (List.cons.inj heq).1
  have hline : key.toList ++ ' ' :: '=' :: ' ' :: (w ++ '\n' :: rest) =
      (key.toList ++ ' ' :: '=' :: ' ' :: w) ++ '\n' :: rest := by simp
  obtain ⟨⟨d, w', hw, hd⟩, -⟩ := eq_cons_of_isBareKey hkey
  rw [hline, hw] at hread ⊢
  exact says_line h (isBlank_of_class hd rfl rfl) (ne_of_class hd rfl) ⟨ne_of_class hd rfl, ne_of_class hd rfl⟩ hread

theorem parse?_of_unmarked {text : String} (hmark : text.toList.head? ≠ some '\ufeff') :
    parse? text = (statements text.toList.length text.toList).bind build? := by
  unfold parse?
  dsimp only
  split
  · rename_i heq
    rw [heq] at hmark
    exact absurd rfl hmark
  · rfl

/-- A document without a byte order mark is what its statements build. -/
theorem parse?_of_says {text : String} (h : Says text.toList ss) (hmark : text.toList.head? ≠ some '\ufeff') :
    parse? text = build? ss := by
  rw [parse?_of_unmarked hmark, h _ (Nat.le_refl _), Option.bind_some]

end Liveness.Toml
