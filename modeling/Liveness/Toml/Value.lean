/-! # TOML documents -/

namespace Liveness.Toml

/-- How a table came to be, which decides what may still be added to it. -/
inductive Origin where
  /-- Written in braces, closed for ever. -/
  | inline
  /-- Opened by a header of its own. -/
  | header
  /-- Named only on the way to a longer header. -/
  | implied
  /-- Made by a dotted key. -/
  | dotted
deriving DecidableEq, Repr

/-- A value of a document. The digits of floats and dates are not kept. -/
inductive Value where
  | string (s : String)
  | integer (n : Int)
  | float
  | boolean (b : Bool)
  | datetime
  | array (items : List Value)
  | table (origin : Origin) (entries : List (String × Value))
  /-- Tables written one by one under a doubled header. -/
  | tables (items : List (List (String × Value)))
deriving Inhabited

/-- The keys of a table with their values. -/
abbrev Entries := List (String × Value)

namespace Entries

def get? (es : Entries) (key : String) : Option Value := es.lookup key

/-- Puts a value in the place of the one under a key. -/
def replace (es : Entries) (key : String) (v : Value) : Entries :=
  es.map fun e => if e.1 == key then (key, v) else e

/-- Changes the last of a list of tables. -/
def updateLast (f : Entries → Option Entries) : List Entries → Option (List Entries)
  | [] => none
  | [es] => (f es).map ([·])
  | es :: rest => (updateLast f rest).map (es :: ·)

/-- Adds a value under a dotted key. `direct` tells whether this very table takes a plain key. -/
def assign (v : Value) : (path : List String) → (direct : Bool) → Entries → Option Entries
  | [], _, _ => none
  | [key], direct, es =>
    if direct && (es.get? key).isNone then some (es ++ [(key, v)]) else none
  | key :: path, _, es =>
    match es.get? key with
    | none => (assign v path true []).map fun sub => es ++ [(key, .table .dotted sub)]
    | some (.table .dotted sub) =>
      (assign v path true sub).map fun sub => es.replace key (.table .dotted sub)
    | some (.table .implied sub) =>
      (assign v path false sub).map fun sub => es.replace key (.table .implied sub)
    | some (.tables items) =>
      (updateLast (assign v path false) items).map fun items => es.replace key (.tables items)
    | some _ => none

/-- Carries out a change in the table that a header path leads to. -/
def within (f : Entries → Option Entries) : List String → Entries → Option Entries
  | [], es => f es
  | key :: path, es =>
    match es.get? key with
    | none => (within f path []).map fun sub => es ++ [(key, .table .implied sub)]
    | some (.table .inline _) => none
    | some (.table origin sub) => (within f path sub).map fun sub => es.replace key (.table origin sub)
    | some (.tables items) =>
      (updateLast (within f path) items).map fun items => es.replace key (.tables items)
    | some _ => none

/-- Opens the table of a header: it must be new, or so far only implied. -/
def openTable (key : String) (es : Entries) : Option Entries :=
  match es.get? key with
  | none => some (es ++ [(key, .table .header [])])
  | some (.table .implied sub) => some (es.replace key (.table .header sub))
  | some _ => none

/-- Starts one more table under a doubled header. -/
def addTable (key : String) (es : Entries) : Option Entries :=
  match es.get? key with
  | none => some (es ++ [(key, .tables [[]])])
  | some (.tables items) => some (es.replace key (.tables (items ++ [[]])))
  | some _ => none

end Entries

/-- One line of a document that says something. -/
inductive Statement where
  | table (path : List String)
  | element (path : List String)
  | assign (path : List String) (v : Value)

/-- The tables built so far and the path of the one that is open. -/
structure Draft where
  entries : Entries := []
  path : List String := []

namespace Draft

/-- Takes a header or a key, refusing what would define something twice. -/
def add (d : Draft) : Statement → Option Draft
  | .table path =>
    match path.getLast? with
    | some key => (d.entries.within (Entries.openTable key) path.dropLast).map (⟨·, path⟩)
    | none => none
  | .element path =>
    match path.getLast? with
    | some key => (d.entries.within (Entries.addTable key) path.dropLast).map (⟨·, path⟩)
    | none => none
  | .assign path v => (d.entries.within (Entries.assign v path true) d.path).map (⟨·, d.path⟩)

end Draft

/-- The root table that a list of statements describes. -/
def build? (statements : List Statement) : Option Entries :=
  (statements.foldlM Draft.add {}).map Draft.entries

end Liveness.Toml
