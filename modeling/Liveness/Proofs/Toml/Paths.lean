import Liveness.Proofs.Toml.Range

/-!
# What a document says at a path

Each line of a document puts one value at one path of keys: a header an empty table, a key
its value.  By itself it describes a small tree (`Statement.tree`).  What stands at a path in
the tables that the lines build is what one of these trees has there (`at?_build?`), so neither
the order of the lines counts nor whether a path is spelled out by a header, by a dotted key
or by a table in braces.  Tables written one by one under a doubled header are apart: a path
never leads through them.
-/

namespace Liveness.Toml

variable {v w : Value} {es es' sub : Entries} {key : String} {path : List String} {f : Entries → Option Entries}
  {items : List Entries} {origin : Origin}

namespace Value

/-- What stands at a path of keys; of tables only that they are some, however they were written. -/
def at? : Value → List String → Option Value
  | .table _ _, [] | .tables _, [] => some (.table .header [])
  | v, [] => some v
  | .table _ es, key :: path => (Entries.get? es key).bind (·.at? path)
  | _, _ :: _ => none

/-- A path leads through no tables that were written one by one. -/
def Clear : Value → List String → Prop
  | .table _ es, key :: path => ∀ v, Entries.get? es key = some v → v.Clear path
  | .tables _, _ :: _ => False
  | _, _ => True

/-- The tree that holds a value at a path and nothing else. -/
def nest : List String → Value → Value
  | [], v => v
  | key :: path, v => .table .dotted [(key, nest path v)]

@[simp] theorem at?_table_nil (origin : Origin) (es : Entries) :
    (table origin es).at? [] = some (.table .header []) := rfl

@[simp] theorem at?_table_cons (origin : Origin) (es : Entries) (key : String) (path : List String) :
    (table origin es).at? (key :: path) = (es.get? key).bind (·.at? path) := rfl

@[simp] theorem at?_tables_nil (items : List Entries) : (tables items).at? [] = some (.table .header []) := rfl

theorem exists_at?_nil (v : Value) : ∃ w, v.at? [] = some w := by
  cases v <;> exact ⟨_, rfl⟩

theorem clear_nil (v : Value) : v.Clear [] := by
  cases v <;> trivial

theorem nest_append (p q : List String) (v : Value) : nest (p ++ q) v = nest p (nest q v) := by
  induction p with
  | nil => rfl
  | cons key p ih => rw [List.cons_append, nest, nest, ih]

end Value

namespace Entries

@[simp] theorem get?_nil (key : String) : get? [] key = none := rfl

theorem get?_cons (key k : String) (v : Value) (es : Entries) :
    get? ((key, v) :: es) k = if k = key then some v else get? es k := by
  rw [get?, List.lookup_cons]
  by_cases h : k = key
  · rw [if_pos h, beq_iff_eq.mpr h]
  · rw [if_neg h, beq_eq_false_iff_ne.mpr h]
    rfl

/-- One key has a new value, and all others have what they had. -/
def Sets (es : Entries) (key : String) (v : Value) (es' : Entries) : Prop :=
  ∀ k, es'.get? k = if k = key then some v else es.get? k

theorem sets_concat (h : es.get? key = none) (v : Value) : es.Sets key v (es ++ [(key, v)]) := by
  intro k
  have happend : get? (es ++ [(key, v)]) k = (es.get? k).or (get? [(key, v)] k) := List.lookup_append
  rw [happend, get?_cons, get?_nil]
  by_cases hk : k = key
  · subst hk
    rw [h, Option.none_or]
  · rw [if_neg hk, if_neg hk, Option.or_none]

theorem get?_replace (es : Entries) (key k : String) (v : Value) :
    (es.replace key v).get? k = if k = key then (es.get? key).map fun _ => v else es.get? k := by
  induction es with
  | nil => simp [replace]
  | cons e es ih =>
    obtain ⟨key', w⟩ := e
    have htail : replace ((key', w) :: es) key v =
        (if key' == key then (key, v) else (key', w)) :: Entries.replace es key v := rfl
    by_cases hkey : key' = key
    · subst hkey
      rw [htail, if_pos (beq_self_eq_true _), get?_cons, get?_cons, get?_cons, if_pos rfl, ih]
      by_cases hk : k = key' <;> simp [hk]
    · rw [htail, if_neg (by simpa using hkey), get?_cons, get?_cons, get?_cons, if_neg (Ne.symm hkey), ih]
      by_cases hk : k = key
      · rw [if_neg (hk ▸ Ne.symm hkey), if_pos hk, if_pos hk]
      · rw [if_neg hk, if_neg hk]

theorem sets_replace (h : es.get? key = some w) (v : Value) : es.Sets key v (es.replace key v) := by
  intro k
  rw [get?_replace, h, Option.map_some]

end Entries

/-! ## Joining trees -/

/-- What stands in a place after a tree has been joined to what was there. -/
structure Joins (old tree new : Option Value) : Prop where
  clear : ∀ p, (∀ v, new = some v → v.Clear p) → ∀ v, old = some v → v.Clear p
  at_iff : ∀ p, (∀ v, new = some v → v.Clear p) → ∀ o,
    new.bind (·.at? p) = some o ↔ old.bind (·.at? p) = some o ∨ tree.bind (·.at? p) = some o

namespace Joins

theorem nothing (old : Option Value) : Joins old none old where
  clear := fun _ h => h
  at_iff := fun p _ o => by simp

theorem fresh (v : Value) : Joins none (some v) (some v) where
  clear := nofun
  at_iff := fun p _ o => by simp

/-- Tables are joined key by key. -/
theorem table {ts : Entries} {a b c : Origin} (h : ∀ key, Joins (es.get? key) (ts.get? key) (es'.get? key)) :
    Joins (some (.table a es)) (some (.table b ts)) (some (.table c es')) where
  clear := by
    intro p hclear v hv
    obtain rfl := Option.some.inj hv
    cases p with
    | nil => exact Value.clear_nil _
    | cons key p => exact (h key).clear p (hclear _ rfl)
  at_iff := by
    intro p hclear o
    cases p with
    | nil => simp
    | cons key p => exact (h key).at_iff p (hclear _ rfl) o

/-- Nothing is found below tables that are written one by one. -/
theorem tables {old : Option Value} {tree : Value} (htree : tree.at? [] = some (.table .header []))
    (hold : ∀ v, old = some v → v.at? [] = some (.table .header [])) (items : List Entries) :
    Joins old (some tree) (some (.tables items)) where
  clear := by
    intro p hclear v hv
    cases p with
    | nil => exact Value.clear_nil v
    | cons key p => exact (hclear _ rfl).elim
  at_iff := by
    intro p hclear o
    cases p with
    | cons key p => exact (hclear _ rfl).elim
    | nil =>
      rw [Option.bind_some, Option.bind_some, htree, Value.at?_tables_nil, Option.some.injEq]
      refine ⟨.inr, ?_⟩
      rintro (h | h)
      · obtain ⟨v, hv, hat⟩ := Option.bind_eq_some_iff.mp h
        rw [hold v hv] at hat
        exact Option.some.inj hat
      · exact h

/-- A place without anything is as good as one with an empty table, if a table is joined to it. -/
theorem of_empty {tree : Value} {new : Option Value} (htree : tree.at? [] = some (.table .header []))
    (h : Joins (some (.table origin [])) (some tree) new) : Joins none (some tree) new where
  clear := nofun
  at_iff := by
    intro p hclear o
    rw [h.at_iff p hclear o]
    cases p with
    | nil => simp [htree]
    | cons key p => simp

/-- To set the value of a key joins a tree that has this key alone. -/
theorem of_sets {x : Value} {a b : Origin} (hs : es.Sets key v es') (h : Joins (es.get? key) (some x) (some v)) :
    Joins (some (.table a es)) (some (.table .dotted [(key, x)])) (some (.table b es')) := by
  refine table fun k => ?_
  rw [hs k, Entries.get?_cons, Entries.get?_nil]
  by_cases hk : k = key
  · rw [if_pos hk, if_pos hk, hk]
    exact h
  · rw [if_neg hk, if_neg hk]
    exact nothing _

end Joins

/-! ## Lines -/

/-- A change of a table that joins a tree of keys to it. -/
structure Adds (f : Entries → Option Entries) (tree : Value) : Prop where
  isTable : tree.at? [] = some (.table .header [])
  joins : ∀ ⦃es es'⦄, f es = some es' → ∀ a b, Joins (some (.table a es)) (some tree) (some (.table b es'))

namespace Adds

variable {tree : Value}

theorem newTable (hf : Adds f tree) (hkey : es.get? key = none)
    (h : (f []).map (fun sub => es ++ [(key, .table origin sub)]) = some es') (a b : Origin) :
    Joins (some (.table a es)) (some (.table .dotted [(key, tree)])) (some (.table b es')) := by
  obtain ⟨sub, hsub, rfl⟩ := Option.map_eq_some_iff.mp h
  refine .of_sets (Entries.sets_concat hkey _) ?_
  rw [hkey]
  exact (hf.joins hsub origin origin).of_empty hf.isTable

theorem changeTable (hf : Adds f tree) {origin' : Origin} (hkey : es.get? key = some (.table origin sub))
    (h : (f sub).map (fun sub => es.replace key (.table origin' sub)) = some es') (a b : Origin) :
    Joins (some (.table a es)) (some (.table .dotted [(key, tree)])) (some (.table b es')) := by
  obtain ⟨sub', hsub, rfl⟩ := Option.map_eq_some_iff.mp h
  refine .of_sets (Entries.sets_replace hkey _) ?_
  rw [hkey]
  exact hf.joins hsub origin origin'

theorem changeTables (hf : Adds f tree) (hkey : es.get? key = some (.tables items))
    (h : (Entries.updateLast f items).map (fun items => es.replace key (.tables items)) = some es') (a b : Origin) :
    Joins (some (.table a es)) (some (.table .dotted [(key, tree)])) (some (.table b es')) := by
  obtain ⟨items', -, rfl⟩ := Option.map_eq_some_iff.mp h
  refine .of_sets (Entries.sets_replace hkey _) ?_
  rw [hkey]
  refine .tables hf.isTable (fun v hv => ?_) items'
  obtain rfl := Option.some.inj hv
  rfl

/-- A header path leads to where a change is made. -/
protected theorem within (hf : Adds f tree) (path : List String) : Adds (Entries.within f path) (.nest path tree) := by
  induction path with
  | nil => exact hf
  | cons key path ih =>
    refine ⟨rfl, fun es es' h => ?_⟩
    rw [Entries.within] at h
    split at h
    · exact ih.newTable ‹_› h
    · cases h
    · exact ih.changeTable ‹_› h
    · exact ih.changeTables ‹_› h
    · cases h

end Adds

/-- A change that is always refused is refused wherever a path leads. -/
theorem within_eq_none (hf : ∀ es, f es = none) (path : List String) (es : Entries) : Entries.within f path es = none := by
  have hlast : ∀ {f : Entries → Option Entries}, (∀ es, f es = none) → ∀ items, Entries.updateLast f items = none := by
    intro f hf items
    fun_induction Entries.updateLast f items with
    | case1 => rfl
    | case2 es => rw [hf, Option.map_none]
    | case3 es rest hrest ih => rw [ih, Option.map_none]
  induction path generalizing es with
  | nil => exact hf es
  | cons key path ih =>
    rw [Entries.within]
    split
    · rw [ih, Option.map_none]
    · rfl
    · rw [ih, Option.map_none]
    · rw [hlast ih, Option.map_none]
    · rfl

theorem adds_assign (v : Value) (key : String) (path : List String) (direct : Bool) :
    Adds (Entries.assign v (key :: path) direct) (.nest (key :: path) v) := by
  induction path generalizing key direct with
  | nil =>
    refine ⟨rfl, fun es es' h a b => ?_⟩
    rw [Entries.assign, Option.ite_none_right_eq_some, Bool.and_eq_true, Option.isNone_iff_eq_none] at h
    obtain ⟨⟨-, hkey⟩, heq⟩ := h
    obtain rfl := Option.some.inj heq
    refine .of_sets (Entries.sets_concat hkey v) ?_
    rw [hkey]
    exact .fresh v
  | cons key' path ih =>
    refine ⟨rfl, fun es es' h => ?_⟩
    rw [Entries.assign] at h
    split at h
    · exact (ih key' true).newTable ‹_› h
    · exact (ih key' true).changeTable ‹_› h
    · exact (ih key' false).changeTable ‹_› h
    · exact (ih key' false).changeTables ‹_› h
    · cases h
    · exact List.cons_ne_nil key' path

theorem adds_openTable (key : String) : Adds (Entries.openTable key) (.nest [key] (.table .header [])) := by
  refine ⟨rfl, fun es es' h a b => ?_⟩
  unfold Entries.openTable at h
  split at h
  · rename_i hkey
    obtain rfl := Option.some.inj h
    refine .of_sets (Entries.sets_concat hkey _) ?_
    rw [hkey]
    exact .fresh _
  · rename_i hkey
    obtain rfl := Option.some.inj h
    refine .of_sets (Entries.sets_replace hkey _) ?_
    rw [hkey]
    exact .table fun key => .nothing _
  · cases h

theorem adds_addTable (key : String) : Adds (Entries.addTable key) (.nest [key] (.table .header [])) := by
  refine ⟨rfl, fun es es' h a b => ?_⟩
  unfold Entries.addTable at h
  split at h
  · rename_i hkey
    obtain rfl := Option.some.inj h
    refine .of_sets (Entries.sets_concat hkey _) ?_
    rw [hkey]
    refine .tables rfl (fun v hv => ?_) _
    cases hv
  · rename_i hkey
    obtain rfl := Option.some.inj h
    refine .of_sets (Entries.sets_replace hkey _) ?_
    rw [hkey]
    refine .tables rfl (fun v hv => ?_) _
    obtain rfl := Option.some.inj hv
    rfl
  · cases h

namespace Statement

/-- The path of the table that is open after a line. -/
def opened (path : List String) : Statement → List String
  | .table path | .element path => path
  | .assign _ _ => path

/-- What a line says by itself, after a header with the path given. -/
def tree (path : List String) : Statement → Value
  | .table path | .element path => .nest path (.table .header [])
  | .assign keys v => .nest (path ++ keys) v

end Statement

/-- What the lines of a document say, one by one. -/
def trees : List String → List Statement → List Value
  | _, [] => []
  | path, s :: ss => s.tree path :: trees (s.opened path) ss

/-- A line that is taken joins its tree to the tables. -/
theorem joins_add {d d' : Draft} {s : Statement} (h : d.add s = some d') (a b : Origin) :
    d'.path = s.opened d.path ∧ Joins (some (.table a d.entries)) (some (s.tree d.path)) (some (.table b d'.entries)) := by
  -- the last key of a header is opened in the table that the others lead to
  have hheader : ∀ {f : String → Entries → Option Entries}, (∀ key, Adds (f key) (.nest [key] (.table .header []))) →
      ∀ {path key}, path.getLast? = some key → Adds (Entries.within (f key) path.dropLast) (.nest path (.table .header [])) := by
    intro f hf path key hlast
    have hpath : path.dropLast ++ [key] = path := by
      obtain ⟨init, rfl⟩ := List.getLast?_eq_some_iff.mp hlast
      rw [List.dropLast_concat]
    have hwithin := (hf key).within path.dropLast
    rwa [← Value.nest_append, hpath] at hwithin
  cases s with
  | table path =>
    simp only [Draft.add] at h
    split at h
    · rename_i hlast
      obtain ⟨es, hes, rfl⟩ := Option.map_eq_some_iff.mp h
      exact ⟨rfl, (hheader adds_openTable hlast).joins hes a b⟩
    · cases h
  | element path =>
    simp only [Draft.add] at h
    split at h
    · rename_i hlast
      obtain ⟨es, hes, rfl⟩ := Option.map_eq_some_iff.mp h
      exact ⟨rfl, (hheader adds_addTable hlast).joins hes a b⟩
    · cases h
  | assign path v =>
    obtain ⟨es, hes, rfl⟩ := Option.map_eq_some_iff.mp h
    cases path with
    | nil => cases (within_eq_none (fun _ => rfl) d.path d.entries).symm.trans hes
    | cons key path =>
      refine ⟨rfl, ?_⟩
      rw [Statement.tree, Value.nest_append]
      exact ((adds_assign v key path true).within d.path).joins hes a b

/-- What stands at a path after some lines stood there before, or one of the lines says it. -/
theorem at?_foldlM {d d' : Draft} {ss : List Statement} (h : ss.foldlM Draft.add d = some d') {p : List String}
    (hclear : (Value.table .header d'.entries).Clear p) :
    (Value.table .header d.entries).Clear p ∧ ∀ o, (Value.table .header d'.entries).at? p = some o ↔
      (Value.table .header d.entries).at? p = some o ∨ ∃ t ∈ trees d.path ss, t.at? p = some o := by
  induction ss generalizing d with
  | nil =>
    obtain rfl := Option.some.inj h
    exact ⟨hclear, fun o => by simp [trees]⟩
  | cons s ss ih =>
    rw [List.foldlM_cons, Option.bind_eq_bind, Option.bind_eq_some_iff] at h
    obtain ⟨d₁, hd₁, h⟩ := h
    obtain ⟨hclear₁, hat⟩ := ih h
    obtain ⟨hpath, hjoins⟩ := joins_add hd₁ .header .header
    have hclear₁' : ∀ v, some (Value.table .header d₁.entries) = some v → v.Clear p := by
      intro v hv
      exact Option.some.inj hv ▸ hclear₁
    refine ⟨hjoins.clear p hclear₁' _ rfl, fun o => ?_⟩
    have hline : (Value.table .header d₁.entries).at? p = some o ↔
        (Value.table .header d.entries).at? p = some o ∨ (s.tree d.path).at? p = some o := hjoins.at_iff p hclear₁' o
    rw [hat o, hline, trees, ← hpath, or_assoc]
    simp only [List.mem_cons, exists_eq_or_imp]

/-- What stands at a path of a document is what one of its lines says there. -/
theorem at?_build? {ss : List Statement} (h : build? ss = some es) {p : List String} (hp : p ≠ [])
    (hclear : (Value.table .header es).Clear p) (o : Value) :
    (Value.table .header es).at? p = some o ↔ ∃ t ∈ trees [] ss, t.at? p = some o := by
  obtain ⟨d, hd, rfl⟩ := Option.map_eq_some_iff.mp h
  obtain ⟨-, hat⟩ := at?_foldlM hd hclear
  rw [hat o]
  obtain ⟨key, path, rfl⟩ := List.exists_cons_of_ne_nil hp
  simp

/-- The statements of a document; a byte order mark may come first. -/
def statements? (text : String) : Option (List Statement) :=
  let cs := match text.toList with
    | '\ufeff' :: cs => cs
    | cs => cs
  statements cs.length cs

theorem parse?_eq (text : String) : parse? text = (statements? text).bind build? := rfl

/-- One of the lines of a document says what stands at a path. -/
def Tells (text : String) (p : List String) (o : Value) : Prop :=
  ∃ ss, statements? text = some ss ∧ ∃ t ∈ trees [] ss, t.at? p = some o

theorem at?_parse? {text : String} (h : parse? text = some es) {p : List String} (hp : p ≠ [])
    (hclear : (Value.table .header es).Clear p) (o : Value) :
    (Value.table .header es).at? p = some o ↔ Tells text p o := by
  rw [parse?_eq, Option.bind_eq_some_iff] at h
  obtain ⟨ss, hss, hes⟩ := h
  rw [at?_build? hes hp hclear o]
  constructor
  · intro hline
    exact ⟨ss, hss, hline⟩
  · rintro ⟨ss', hss', hline⟩
    obtain rfl := Option.some.inj (hss.symm.trans hss')
    exact hline

end Liveness.Toml
