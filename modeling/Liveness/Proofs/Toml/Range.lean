import Liveness.Toml.Reader

/-!
# Integers of a document

Whatever a document looks like, its integers have 64 bits and a sign: no reader takes
a larger one, and building tables only moves values about.
-/

namespace Liveness.Toml

/-- All integers of a value have 64 bits and a sign. -/
inductive Value.InRange : Value → Prop where
  | string (s : String) : InRange (.string s)
  | integer {n : Int} (hlow : -9223372036854775808 ≤ n) (hhigh : n ≤ 9223372036854775807) : InRange (.integer n)
  | float : InRange .float
  | boolean (b : Bool) : InRange (.boolean b)
  | datetime : InRange .datetime
  | array {items : List Value} (h : ∀ v ∈ items, InRange v) : InRange (.array items)
  | table {origin : Origin} {es : Entries} (h : ∀ e ∈ es, InRange e.2) : InRange (.table origin es)
  | tables {items : List Entries} (h : ∀ es ∈ items, ∀ e ∈ es, InRange e.2) : InRange (.tables items)

def Entries.InRange (es : Entries) : Prop := ∀ e ∈ es, e.2.InRange

variable {v : Value} {es es' : Entries} {cs rest : List Char} {n : Nat} {key : String} {path : List String}

/-! ## Building tables -/

namespace Entries

theorem inRange_nil : InRange [] := nofun

theorem InRange.concat (h : es.InRange) (hv : v.InRange) : InRange (es ++ [(key, v)]) := by
  intro e he
  rcases List.mem_append.mp he with he | he
  · exact h e he
  · obtain rfl := List.mem_singleton.mp he
    exact hv

theorem InRange.replace (h : es.InRange) (hv : v.InRange) : InRange (es.replace key v) := by
  intro e he
  obtain ⟨e', he', rfl⟩ := List.mem_map.mp he
  split
  · exact hv
  · exact h e' he'

theorem InRange.get? (h : es.InRange) (hv : es.get? key = some v) : v.InRange := by
  obtain ⟨l, r, rfl, -⟩ := List.lookup_eq_some_iff.mp hv
  exact h (key, v) (by simp)

/-- A change that brings in no larger integer. -/
def Keeps (f : Entries → Option Entries) : Prop := ∀ ⦃es es'⦄, es.InRange → f es = some es' → es'.InRange

theorem Keeps.updateLast {f : Entries → Option Entries} (hf : Keeps f) {items items' : List Entries}
    (h : ∀ es ∈ items, es.InRange) (hu : updateLast f items = some items') : ∀ es ∈ items', es.InRange := by
  fun_induction Entries.updateLast f items generalizing items' with
  | case1 => cases hu
  | case2 es =>
    obtain ⟨es', hes', rfl⟩ := Option.map_eq_some_iff.mp hu
    intro e he
    obtain rfl := List.mem_singleton.mp he
    exact hf (h es List.mem_cons_self) hes'
  | case3 es rest _ ih =>
    obtain ⟨rest', hrest', rfl⟩ := Option.map_eq_some_iff.mp hu
    intro e he
    rcases List.mem_cons.mp he with rfl | he
    · exact h e List.mem_cons_self
    · exact ih (fun e he => h e (List.mem_cons_of_mem es he)) hrest' e he

/-- A change in a table under a key. -/
theorem InRange.changeTable {f : Entries → Option Entries} (hf : Keeps f) {sub : Entries} {origin origin' : Origin}
    (h : es.InRange) (hsub : es.get? key = some (.table origin sub))
    (he : (f sub).map (fun sub => es.replace key (.table origin' sub)) = some es') : es'.InRange := by
  obtain ⟨sub', hsub', rfl⟩ := Option.map_eq_some_iff.mp he
  cases h.get? hsub with
  | table hin => exact h.replace (.table (hf hin hsub'))

theorem InRange.changeTables {f : Entries → Option Entries} (hf : Keeps f) {items : List Entries} (h : es.InRange)
    (hsub : es.get? key = some (.tables items))
    (he : (Entries.updateLast f items).map (fun items => es.replace key (.tables items)) = some es') :
    es'.InRange := by
  obtain ⟨items', hitems', rfl⟩ := Option.map_eq_some_iff.mp he
  cases h.get? hsub with
  | tables hin => exact h.replace (.tables (hf.updateLast hin hitems'))

theorem InRange.newTable {f : Entries → Option Entries} (hf : Keeps f) {origin : Origin} (h : es.InRange)
    (he : (f []).map (fun sub => es ++ [(key, .table origin sub)]) = some es') : es'.InRange := by
  obtain ⟨sub, hsub, rfl⟩ := Option.map_eq_some_iff.mp he
  exact h.concat (.table (hf inRange_nil hsub))

theorem keeps_assign (hv : v.InRange) (path : List String) (direct : Bool) : Keeps (assign v path direct) := by
  induction path generalizing direct with
  | nil => nofun
  | cons key path ih =>
    intro es es' h ha
    cases path with
    | nil =>
      rw [assign, Option.ite_none_right_eq_some] at ha
      obtain ⟨-, ha⟩ := ha
      obtain rfl := Option.some.inj ha
      exact h.concat hv
    | cons key' path =>
      rw [assign] at ha
      split at ha
      · exact h.newTable (ih true) ha
      · exact h.changeTable (ih true) ‹_› ha
      · exact h.changeTable (ih false) ‹_› ha
      · exact h.changeTables (ih false) ‹_› ha
      · cases ha
      · exact nofun

theorem Keeps.within {f : Entries → Option Entries} (hf : Keeps f) (path : List String) : Keeps (within f path) := by
  induction path with
  | nil => exact hf
  | cons key path ih =>
    intro es es' h hw
    rw [Entries.within] at hw
    split at hw
    · exact h.newTable ih hw
    · cases hw
    · exact h.changeTable ih ‹_› hw
    · exact h.changeTables ih ‹_› hw
    · cases hw

theorem keeps_openTable (key : String) : Keeps (openTable key) := by
  intro es es' h ho
  unfold openTable at ho
  split at ho
  · obtain rfl := Option.some.inj ho
    exact h.concat (.table inRange_nil)
  · rename_i sub hsub
    obtain rfl := Option.some.inj ho
    cases h.get? hsub with
    | table hin => exact h.replace (.table hin)
  · cases ho

theorem keeps_addTable (key : String) : Keeps (addTable key) := by
  intro es es' h ha
  unfold addTable at ha
  split at ha
  · obtain rfl := Option.some.inj ha
    refine h.concat (.tables fun es hes => ?_)
    obtain rfl := List.mem_singleton.mp hes
    exact inRange_nil
  · rename_i items hitems
    obtain rfl := Option.some.inj ha
    cases h.get? hitems with
    | tables hin =>
      refine h.replace (.tables fun es hes => ?_)
      rcases List.mem_append.mp hes with hes | hes
      · exact hin es hes
      · obtain rfl := List.mem_singleton.mp hes
        exact inRange_nil
  · cases ha

end Entries

/-- The value that a statement assigns, if it does. -/
def Statement.InRange : Statement → Prop
  | .assign _ v => v.InRange
  | .table _ | .element _ => True

theorem inRange_add {d d' : Draft} {s : Statement} (h : d.entries.InRange) (hs : s.InRange) (ha : d.add s = some d') :
    d'.entries.InRange := by
  cases s with
  | table path =>
    simp only [Draft.add] at ha
    split at ha
    · obtain ⟨es, hes, rfl⟩ := Option.map_eq_some_iff.mp ha
      exact (Entries.keeps_openTable _).within _ h hes
    · cases ha
  | element path =>
    simp only [Draft.add] at ha
    split at ha
    · obtain ⟨es, hes, rfl⟩ := Option.map_eq_some_iff.mp ha
      exact (Entries.keeps_addTable _).within _ h hes
    · cases ha
  | assign path v =>
    obtain ⟨es, hes, rfl⟩ := Option.map_eq_some_iff.mp ha
    exact (Entries.keeps_assign hs path true).within _ h hes

theorem inRange_build? {ss : List Statement} (hs : ∀ s ∈ ss, s.InRange) (hb : build? ss = some es) : es.InRange := by
  suffices ∀ (ss : List Statement) {d d' : Draft}, (∀ s ∈ ss, s.InRange) → d.entries.InRange →
      ss.foldlM Draft.add d = some d' → d'.entries.InRange by
    obtain ⟨d, hd, rfl⟩ := Option.map_eq_some_iff.mp hb
    exact this ss hs Entries.inRange_nil hd
  intro ss
  induction ss with
  | nil =>
    intro d d' _ h hd
    obtain rfl := Option.some.inj hd
    exact h
  | cons s ss ih =>
    intro d d' hs h hd
    rw [List.foldlM_cons, Option.bind_eq_bind, Option.bind_eq_some_iff] at hd
    obtain ⟨d₁, hd₁, hd⟩ := hd
    exact ih (fun s' hs' => hs s' (List.mem_cons_of_mem s hs')) (inRange_add h (hs s List.mem_cons_self) hd₁) hd

theorem inRange_ofPairs {pairs : List (List String × Value)} (hp : ∀ p ∈ pairs, p.2.InRange)
    (ho : ofPairs pairs = some es) : es.InRange := by
  suffices ∀ (pairs : List (List String × Value)) {es es' : Entries}, (∀ p ∈ pairs, p.2.InRange) → es.InRange →
      pairs.foldlM (fun es p => es.assign p.2 p.1 true) es = some es' → es'.InRange from
    this pairs hp Entries.inRange_nil ho
  intro pairs
  induction pairs with
  | nil =>
    intro es es' _ h he
    obtain rfl := Option.some.inj he
    exact h
  | cons p pairs ih =>
    intro es es' hp h he
    rw [List.foldlM_cons, Option.bind_eq_bind, Option.bind_eq_some_iff] at he
    obtain ⟨es₁, hes₁, he⟩ := he
    have hes₁' : es₁.InRange := Entries.keeps_assign (hp p List.mem_cons_self) _ _ h hes₁
    exact ih (fun q hq => hp q (List.mem_cons_of_mem p hq)) hes₁' he

/-! ## Reading values -/

/-- A reader whose values hold no integers that are too large. -/
def Bounded (read : Reader Value) : Prop := ∀ ⦃cs v rest⦄, read cs = some (v, rest) → v.InRange

theorem inRange_integer? {n : Int} (h : integer? n = some v) : v.InRange := by
  rw [integer?, Option.ite_none_right_eq_some] at h
  obtain ⟨⟨hlow, hhigh⟩, h⟩ := h
  obtain rfl := Option.some.inj h
  exact .integer hlow hhigh

theorem bounded_decimal (minus : Bool) : Bounded (decimal minus) := by
  intro cs v rest h
  simp only [decimal, Option.bind_eq_bind, Option.bind_eq_some_iff] at h
  obtain ⟨⟨whole, cs₁⟩, -, ⟨fractional, cs₂⟩, -, ⟨power, cs₃⟩, -, h⟩ := h
  dsimp only at h
  split at h
  · rw [Option.bind_eq_some_iff] at h
    obtain ⟨v', hv, h⟩ := h
    cases h
    exact inRange_integer? hv
  · split at h
    · cases h
    · cases h
      exact .float

theorem bounded_based (base : Nat) (isDigit : Char → Bool) : Bounded (based base isDigit) := by
  intro cs v rest h
  simp only [based, Option.bind_eq_bind, Option.bind_eq_some_iff, Option.some.injEq, Prod.mk.injEq] at h
  obtain ⟨_, -, v', hv, rfl, -⟩ := h
  exact inRange_integer? hv

theorem bounded_magnitude (minus : Bool) : Bounded (magnitude minus) := by
  intro cs v rest h
  unfold magnitude at h
  split at h
  · cases h
    exact .float
  · cases h
    exact .float
  · exact bounded_decimal minus h

theorem bounded_dateOrNumber : Bounded dateOrNumber := by
  intro cs v rest h
  unfold dateOrNumber at h
  split at h
  · obtain ⟨_, -, heq⟩ := Option.map_eq_some_iff.mp h
    cases heq
    exact .datetime
  · split at h
    · obtain ⟨_, -, heq⟩ := Option.map_eq_some_iff.mp h
      cases heq
      exact .datetime
    · split at h
      · exact bounded_based _ _ h
      · exact bounded_based _ _ h
      · exact bounded_based _ _ h
      · dsimp only at h
        split at h
        · exact bounded_magnitude _ h
        · exact bounded_decimal _ h

theorem inRange_keyValue {read : Reader Value} (hread : Bounded read) {p : List String × Value}
    (h : keyValue read cs = some (p, rest)) : p.2.InRange := by
  simp only [keyValue, Option.bind_eq_bind, Option.bind_eq_some_iff, Option.some.injEq, Prod.mk.injEq] at h
  obtain ⟨_, -, _, -, _, hv, rfl, -⟩ := h
  exact hread hv

theorem inRange_arrayItems {read : Reader Value} (hread : Bounded read) {vs : List Value}
    (h : arrayItems read n cs = some (vs, rest)) : ∀ v ∈ vs, v.InRange := by
  induction n generalizing cs vs rest with
  | zero => cases h
  | succ n ih =>
    unfold arrayItems at h
    split at h
    · cases h
      exact nofun
    · rw [Option.bind_eq_bind, Option.bind_eq_some_iff] at h
      obtain ⟨⟨v, cs'⟩, hv, h⟩ := h
      dsimp only at h
      split at h
      · cases h
        intro v' hv'
        obtain rfl := List.mem_singleton.mp hv'
        exact hread hv
      · rw [Option.bind_eq_bind, Option.bind_eq_some_iff] at h
        obtain ⟨⟨vs', cs''⟩, hvs', h⟩ := h
        cases h
        intro v' hv'
        rcases List.mem_cons.mp hv' with rfl | hv'
        · exact hread hv
        · exact ih hvs' v' hv'
      · cases h

theorem inRange_inlinePairs {read : Reader Value} (hread : Bounded read) {ps : List (List String × Value)}
    (h : inlinePairs read n cs = some (ps, rest)) : ∀ p ∈ ps, p.2.InRange := by
  induction n generalizing cs ps rest with
  | zero => cases h
  | succ n ih =>
    rw [inlinePairs, Option.bind_eq_bind, Option.bind_eq_some_iff] at h
    obtain ⟨⟨p, cs'⟩, hp, h⟩ := h
    dsimp only at h
    split at h
    · cases h
      intro p' hp'
      obtain rfl := List.mem_singleton.mp hp'
      exact inRange_keyValue hread hp
    · rw [Option.bind_eq_bind, Option.bind_eq_some_iff] at h
      obtain ⟨⟨ps', cs''⟩, hps', h⟩ := h
      cases h
      intro p' hp'
      rcases List.mem_cons.mp hp' with rfl | hp'
      · exact inRange_keyValue hread hp
      · exact ih hps' p' hp'
    · cases h

theorem inRange_inlineTable {read : Reader Value} (hread : Bounded read) {ps : List (List String × Value)}
    (h : inlineTable read cs = some (ps, rest)) : ∀ p ∈ ps, p.2.InRange := by
  unfold inlineTable at h
  split at h
  · cases h
    exact nofun
  · exact inRange_inlinePairs hread h

/-- A value holds no large integers if none of the values within its brackets and braces does. -/
theorem bounded_value_of_inner (hinner : ∀ m, n = m + 1 → Bounded (value m)) : Bounded (value n) := by
  intro cs v rest h
  unfold value at h
  split at h
  · cases h
    exact .boolean true
  · cases h
    exact .boolean false
  · cases h
    exact .float
  · cases h
    exact .float
  · obtain ⟨⟨vs, rest'⟩, hvs, heq⟩ := Option.map_eq_some_iff.mp h
    cases heq
    exact .array (inRange_arrayItems (hinner _ rfl) hvs)
  · simp only [Option.bind_eq_bind, Option.bind_eq_some_iff] at h
    obtain ⟨⟨pairs, rest'⟩, hpairs, es, hes, heq⟩ := h
    cases heq
    exact .table (inRange_ofPairs (inRange_inlineTable (hinner _ rfl) hpairs) hes)
  · split at h
    · obtain ⟨⟨s, rest'⟩, -, heq⟩ := Option.map_eq_some_iff.mp h
      cases heq
      exact .string _
    · exact bounded_dateOrNumber h
  · cases h

theorem bounded_value (n : Nat) : Bounded (value n) := by
  induction n with
  | zero => exact bounded_value_of_inner fun m hm => absurd hm (Nat.succ_ne_zero m).symm
  | succ n ih =>
    refine bounded_value_of_inner fun m hm => ?_
    obtain rfl := Nat.succ.inj hm
    exact ih

/-! ## Documents -/

theorem inRange_statement {s : Statement} (h : statement cs = some (s, rest)) : s.InRange := by
  unfold statement at h
  split at h
  · simp only [Option.bind_eq_bind, Option.bind_eq_some_iff] at h
    obtain ⟨_, -, _, -, _, -, heq⟩ := h
    cases heq
    trivial
  · simp only [Option.bind_eq_bind, Option.bind_eq_some_iff] at h
    obtain ⟨_, -, _, -, heq⟩ := h
    cases heq
    trivial
  · rw [Option.bind_eq_bind, Option.bind_eq_some_iff] at h
    obtain ⟨⟨⟨path, v⟩, cs'⟩, hv, heq⟩ := h
    cases heq
    exact inRange_keyValue (bounded_value _) hv

theorem inRange_statements {ss : List Statement} (h : statements n cs = some ss) : ∀ s ∈ ss, s.InRange := by
  induction n generalizing cs ss with
  | zero =>
    cases cs with
    | nil =>
      cases h
      exact nofun
    | cons c cs => cases h
  | succ n ih =>
    unfold statements at h
    split at h
    · cases h
      exact nofun
    · cases ‹n + 1 = 0›
    · rename_i heq _
      obtain rfl := Nat.succ.inj heq
      split at h
      · exact ih h
      · simp only [Option.bind_eq_bind, Option.bind_eq_some_iff] at h
        obtain ⟨⟨s, cs'⟩, hs, cs'', -, ss', hss', heq⟩ := h
        cases heq
        intro s' hs'
        rcases List.mem_cons.mp hs' with rfl | hs'
        · exact inRange_statement hs
        · exact ih hss' s' hs'

/-- Integers of a document have 64 bits and a sign. -/
theorem inRange_parse? {text : String} (h : parse? text = some es) : es.InRange := by
  obtain ⟨ss, hss, hb⟩ := Option.bind_eq_some_iff.mp h
  exact inRange_build? (inRange_statements hss) hb

end Liveness.Toml
