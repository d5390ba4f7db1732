import Liveness.Config.Basic
import Liveness.Json.Reader
import Liveness.Toml.Reader

/-! # Reading a configuration from structured values

The shape is the same in every format: a section gives its fields by name or, in order, as a list.
Fields that are left out take their defaults.
-/

namespace Liveness

/-- How one format writes what a configuration is made of. Each reader refuses the wrong kind of value. -/
structure ConfigFormat (V : Type) where
  text : V → Option String
  flag : V → Option Bool
  /-- A whole number of milliseconds. -/
  millis : V → Option Span
  /-- The values of named fields of a section, `none` for those left out. -/
  fields : List String → V → Option (List (Option V))

namespace ConfigFormat

variable {V : Type} (F : ConfigFormat V)

/-- A field that may be left out. -/
def orDefault {α : Type} (read : V → Option α) (default : α) : Option V → Option α
  | none => some default
  | some v => read v

def sweep (v : V) : Option SweepSettings := do
  let base : SweepSettings := {}
  match ← F.fields ["expire_after_ms", "sweep_interval_ms"] v with
  | [a, b] =>
    some { expireAfter := ← orDefault F.millis base.expireAfter a
           interval := ← orDefault F.millis base.interval b }
  | _ => none

def reconnect (v : V) : Option ReconnectSettings := do
  let base : ReconnectSettings := {}
  match ← F.fields ["enabled", "period_ms", "fire_immediately"] v with
  | [a, b, c] =>
    some { enabled := ← orDefault F.flag base.enabled a
           period := ← orDefault F.millis base.period b
           fireImmediately := ← orDefault F.flag base.fireImmediately c }
  | _ => none

def report (v : V) : Option ReportSettings := do
  let base : ReportSettings := {}
  match ← F.fields ["interval_ms"] v with
  | [a] => some { interval := ← orDefault F.millis base.interval a }
  | _ => none

def config (v : V) : Option Config := do
  let base : Config := {}
  match ← F.fields ["log_level", "sweep", "reconnect", "stats"] v with
  | [a, b, c, d] =>
    some { logLevel := ← orDefault F.text base.logLevel a
           sweep := ← orDefault F.sweep base.sweep b
           reconnect := ← orDefault F.reconnect base.reconnect c
           report := ← orDefault F.report base.report d }
  | _ => none

end ConfigFormat

namespace Toml

/-- Documents write milliseconds as integers that are not negative. A date counts as a section
without any field, and a list may have items beyond the fields. -/
def configFormat : ConfigFormat Value where
  text | .string s => some s | _ => none
  flag | .boolean b => some b | _ => none
  millis
    | .integer n => if 0 ≤ n then some (Span.ofMillis n.toNat) else none
    | _ => none
  fields names
    | .table _ es => some (names.map (Toml.Entries.get? es))
    | .array items => some ((List.range names.length).map (items[·]?))
    | .tables items => some ((List.range names.length).map fun i => (items[i]?).map (.table .header))
    | .datetime => some (names.map fun _ => none)
    | _ => none

end Toml

namespace Json

/-- The one member of a name; a name must not come twice. -/
def member? (members : List (String × Json)) (name : String) : Option (Option Json) :=
  match members.filter (·.1 == name) with
  | [] => some none
  | [m] => some (some m.2)
  | _ => none

/-- JSON writes milliseconds as whole numbers that fit a word, and a list has no more items than
there are fields. -/
def configFormat : ConfigFormat Json where
  text := Json.text?
  flag | .bool b => some b | _ => none
  millis
    | .int n => if 0 ≤ n ∧ n ≤ wordMax then some (Span.ofMillis n.toNat) else none
    | _ => none
  fields names
    | .object members => names.mapM (member? members)
    | .array items =>
      if items.length ≤ names.length then some ((List.range names.length).map (items[·]?)) else none
    | _ => none

end Json

namespace Config

/-- Reads a document without checking the spans. -/
def decodeToml? (text : String) : Option Config :=
  (Toml.parse? text).bind fun entries => Toml.configFormat.config (.table .header entries)

/-- Reads a document and checks the spans. -/
def ofToml (text : String) : Except ConfigError Config := do
  match decodeToml? text with
  | none => .error .malformed
  | some c =>
    c.validate
    .ok c

/-- Reads JSON text without checking the spans. -/
def ofJson? (text : String) : Option Config := (Json.parse? text).bind Json.configFormat.config

end Config

end Liveness
