import Liveness.Proofs.Config.Truncation
import Liveness.Proofs.Toml.Paths

/-!
# Documents by their known keys

Seven keys of a document are read, and each may be left out.  Where the three sections are
tables, if they are there at all, a configuration is read from a document if and only if
each of its parts stands under its key or is the default (`decodeToml?_iff`).  So the outcome is
settled by what the lines of the document say at the seven paths (`known_keys_decide`):
other keys count for nothing, and neither do the order and the notation of the lines.
-/

namespace Liveness

open Toml

namespace Config

variable {es : Entries} {c : Config} {text : String}

/-- What a key is read as. -/
inductive Kind where
  | text
  | flag
  | millis

/-- The values that a key takes; milliseconds are an integer of 63 bits without a sign. -/
def Kind.Admits : Kind → Value → Prop
  | .text, v => ∃ s, v = .string s
  | .flag, v => ∃ b, v = .boolean b
  | .millis, v => ∃ n : Nat, n ≤ 9223372036854775807 ∧ v = .integer n

/-- The keys that a configuration is read from. -/
def knownKeys : List (List String × Kind) :=
  [(["log_level"], .text), (["sweep", "expire_after_ms"], .millis), (["sweep", "sweep_interval_ms"], .millis),
    (["reconnect", "enabled"], .flag), (["reconnect", "period_ms"], .millis),
    (["reconnect", "fire_immediately"], .flag), (["stats", "interval_ms"], .millis)]

/-- A part of a configuration is what stands under its key, or the default when nothing does. -/
inductive Stands {α : Type} (written : α → Value → Prop) (default : α) : Option Value → α → Prop where
  | absent : Stands written default none default
  | present {v : Value} {a : α} (h : written a v) : Stands written default (some v) a

def IsText (s : String) (v : Value) : Prop := v = .string s

def IsFlag (b : Bool) (v : Value) : Prop := v = .boolean b

def IsMillis (s : Span) (v : Value) : Prop := ∃ n : Nat, n ≤ 9223372036854775807 ∧ v = .integer n ∧ s = .ofMillis n

/-- The configuration that the known keys of a document stand for. -/
structure Describes (root : Value) (c : Config) : Prop where
  logLevel : Stands IsText "info" (root.at? ["log_level"]) c.logLevel
  expireAfter : Stands IsMillis (.ofMillis 5000) (root.at? ["sweep", "expire_after_ms"]) c.sweep.expireAfter
  interval : Stands IsMillis (.ofMillis 1000) (root.at? ["sweep", "sweep_interval_ms"]) c.sweep.interval
  enabled : Stands IsFlag true (root.at? ["reconnect", "enabled"]) c.reconnect.enabled
  period : Stands IsMillis (.ofMillis 10000) (root.at? ["reconnect", "period_ms"]) c.reconnect.period
  fireImmediately : Stands IsFlag true (root.at? ["reconnect", "fire_immediately"]) c.reconnect.fireImmediately
  report : Stands IsMillis (.ofMillis 5000) (root.at? ["stats", "interval_ms"]) c.report.interval

/-! ## Single keys -/

/-- A reader that takes just the values that are written for what it gives. -/
def Reads {α : Type} (read : Value → Option α) (written : α → Value → Prop) : Prop :=
  ∀ ⦃v⦄, v.InRange → ∀ a, read v = some a ↔ ∃ w, v.at? [] = some w ∧ written a w

theorem reads_text : Reads configFormat.text IsText := by
  intro v _ a
  cases v <;> simp [configFormat, Value.at?, IsText, eq_comm]

theorem reads_flag : Reads configFormat.flag IsFlag := by
  intro v _ a
  cases v <;> simp [configFormat, Value.at?, IsFlag, eq_comm]

theorem reads_millis : Reads configFormat.millis IsMillis := by
  intro v hin a
  cases hin with
  | @integer n _ hhigh =>
    have hread : configFormat.millis (.integer n) = if 0 ≤ n then some (.ofMillis n.toNat) else none := rfl
    rw [hread, Option.ite_none_right_eq_some]
    constructor
    · rintro ⟨hsign, hspan⟩
      obtain rfl := Option.some.inj hspan
      exact ⟨_, rfl, n.toNat, by omega, by rw [Int.toNat_of_nonneg hsign], rfl⟩
    · rintro ⟨w, hw, m, -, rfl, rfl⟩
      obtain rfl : n = m := Value.integer.inj (Option.some.inj hw)
      exact ⟨Int.natCast_nonneg m, rfl⟩
  | _ => simp [configFormat, Value.at?, IsMillis]

theorem orDefault_iff {α : Type} {read : Value → Option α} {written : α → Value → Prop} (hread : Reads read written)
    {o : Option Value} (ho : ∀ v, o = some v → v.InRange) (default a : α) :
    ConfigFormat.orDefault read default o = some a ↔ Stands written default (o.bind (·.at? [])) a := by
  cases o with
  | none =>
    constructor
    · intro h
      obtain rfl := Option.some.inj h
      exact .absent
    · rintro ⟨⟩
      rfl
  | some v =>
    obtain ⟨w, hw⟩ := v.exists_at?_nil
    have hwritten : read v = some a ↔ ∃ w, v.at? [] = some w ∧ written a w := hread (ho v rfl) a
    rw [ConfigFormat.orDefault, hwritten, Option.bind_some, hw]
    constructor
    · rintro ⟨w', hw', ha⟩
      obtain rfl := Option.some.inj hw'
      exact .present ha
    · rintro (_ | ha)
      exact ⟨w, rfl, ha⟩

/-! ## Sections -/

/-- A section is a table, if it is there at all. -/
def IsSection : Option Value → Prop
  | none | some (.table _ _) => True
  | some _ => False

theorem IsSection.eq_table {v : Value} (h : IsSection (some v)) : ∃ origin sub, v = .table origin sub := by
  cases v with
  | table origin sub => exact ⟨origin, sub, rfl⟩
  | _ => exact h.elim

/-- A section that is left out is as good as an empty one. -/
theorem exists_section (hin : es.InRange) {name : String} (h : IsSection (es.get? name)) :
    ∃ origin sub, Entries.InRange sub ∧
      (∀ key, (Value.table .header es).at? [name, key] = (Entries.get? sub key).bind (·.at? [])) ∧
      ∀ {α : Type} {read : Value → Option α} {default : α}, (∀ origin, read (.table origin []) = some default) →
        ConfigFormat.orDefault read default (es.get? name) = read (.table origin sub) := by
  cases hname : es.get? name with
  | none =>
    refine ⟨.header, [], Entries.inRange_nil, fun key => ?_, fun hread => ?_⟩
    · simp [hname]
    · exact (hread .header).symm
  | some v =>
    rw [hname] at h
    obtain ⟨origin, sub, rfl⟩ := h.eq_table
    refine ⟨origin, sub, ?_, fun key => ?_, fun _ => rfl⟩
    · cases hin.get? hname with
      | table hsub => exact hsub
    · simp [hname]

theorem sweep_iff (hin : es.InRange) (h : IsSection (es.get? "sweep")) (s : SweepSettings) :
    ConfigFormat.orDefault configFormat.sweep {} (es.get? "sweep") = some s ↔
      Stands IsMillis (.ofMillis 5000) ((Value.table .header es).at? ["sweep", "expire_after_ms"]) s.expireAfter ∧
      Stands IsMillis (.ofMillis 1000) ((Value.table .header es).at? ["sweep", "sweep_interval_ms"]) s.interval := by
  obtain ⟨origin, sub, hsub, hat, hread⟩ := exists_section hin h
  have hkey : ∀ key v, Entries.get? sub key = some v → v.InRange := fun key v => hsub.get?
  have hfields : configFormat.fields ["expire_after_ms", "sweep_interval_ms"] (.table origin sub) =
    some [Entries.get? sub "expire_after_ms", Entries.get? sub "sweep_interval_ms"] := rfl
  rw [hread fun _ => rfl, hat, hat, ← orDefault_iff reads_millis (hkey _), ← orDefault_iff reads_millis (hkey _)]
  obtain ⟨expireAfter, interval⟩ := s
  simp only [ConfigFormat.sweep, Option.bind_eq_bind, hfields, Option.bind_some, Option.bind_eq_some_iff,
    Option.some.injEq, SweepSettings.mk.injEq]
  constructor
  · rintro ⟨_, ha, _, hb, rfl, rfl⟩
    exact ⟨ha, hb⟩
  · rintro ⟨ha, hb⟩
    exact ⟨_, ha, _, hb, rfl, rfl⟩

theorem reconnect_iff (hin : es.InRange) (h : IsSection (es.get? "reconnect")) (s : ReconnectSettings) :
    ConfigFormat.orDefault configFormat.reconnect {} (es.get? "reconnect") = some s ↔
      Stands IsFlag true ((Value.table .header es).at? ["reconnect", "enabled"]) s.enabled ∧
      Stands IsMillis (.ofMillis 10000) ((Value.table .header es).at? ["reconnect", "period_ms"]) s.period ∧
      Stands IsFlag true ((Value.table .header es).at? ["reconnect", "fire_immediately"]) s.fireImmediately := by
  obtain ⟨origin, sub, hsub, hat, hread⟩ := exists_section hin h
  have hkey : ∀ key v, Entries.get? sub key = some v → v.InRange := fun key v => hsub.get?
  have hfields : configFormat.fields ["enabled", "period_ms", "fire_immediately"] (.table origin sub) =
    some [Entries.get? sub "enabled", Entries.get? sub "period_ms", Entries.get? sub "fire_immediately"] := rfl
  rw [hread fun _ => rfl, hat, hat, hat, ← orDefault_iff reads_flag (hkey _), ← orDefault_iff reads_millis (hkey _),
    ← orDefault_iff reads_flag (hkey _)]
  obtain ⟨enabled, period, fireImmediately⟩ := s
  simp only [ConfigFormat.reconnect, Option.bind_eq_bind, hfields, Option.bind_some, Option.bind_eq_some_iff,
    Option.some.injEq, ReconnectSettings.mk.injEq]
  constructor
  · rintro ⟨_, ha, _, hb, _, hc, rfl, rfl, rfl⟩
    exact ⟨ha, hb, hc⟩
  · rintro ⟨ha, hb, hc⟩
    exact ⟨_, ha, _, hb, _, hc, rfl, rfl, rfl⟩

theorem report_iff (hin : es.InRange) (h : IsSection (es.get? "stats")) (s : ReportSettings) :
    ConfigFormat.orDefault configFormat.report {} (es.get? "stats") = some s ↔
      Stands IsMillis (.ofMillis 5000) ((Value.table .header es).at? ["stats", "interval_ms"]) s.interval := by
  obtain ⟨origin, sub, hsub, hat, hread⟩ := exists_section hin h
  have hkey : ∀ key v, Entries.get? sub key = some v → v.InRange := fun key v => hsub.get?
  have hfields : configFormat.fields ["interval_ms"] (.table origin sub) = some [Entries.get? sub "interval_ms"] := rfl
  rw [hread fun _ => rfl, hat, ← orDefault_iff reads_millis (hkey _)]
  obtain ⟨interval⟩ := s
  simp only [ConfigFormat.report, Option.bind_eq_bind, hfields, Option.bind_some, Option.bind_eq_some_iff,
    Option.some.injEq, ReportSettings.mk.injEq]
  constructor
  · rintro ⟨_, ha, rfl⟩
    exact ha
  · intro ha
    exact ⟨_, ha, rfl⟩

/-- The sections of a document are tables, as far as they are there. -/
def HasSections (es : Entries) : Prop := ∀ name ∈ ["sweep", "reconnect", "stats"], IsSection (es.get? name)

/-- What is read from a document is what its known keys stand for. -/
theorem config_iff (hin : es.InRange) (h : HasSections es) (c : Config) :
    configFormat.config (.table .header es) = some c ↔ Describes (.table .header es) c := by
  have hfields : configFormat.fields ["log_level", "sweep", "reconnect", "stats"] (.table .header es) =
    some [es.get? "log_level", es.get? "sweep", es.get? "reconnect", es.get? "stats"] := rfl
  have hlevel : ∀ s, ConfigFormat.orDefault configFormat.text "info" (es.get? "log_level") = some s ↔
      Stands IsText "info" ((Value.table .header es).at? ["log_level"]) s := fun s =>
    orDefault_iff reads_text (fun v => hin.get?) _ s
  have hsweep := sweep_iff hin (h "sweep" (by simp))
  have hreconnect := reconnect_iff hin (h "reconnect" (by simp))
  have hreport := report_iff hin (h "stats" (by simp))
  obtain ⟨level, sweep, reconnect, report⟩ := c
  simp only [ConfigFormat.config, Option.bind_eq_bind, hfields, Option.bind_some, Option.bind_eq_some_iff,
    Option.some.injEq, Config.mk.injEq]
  constructor
  · rintro ⟨_, hl, _, hs, _, hr, _, hp, rfl, rfl, rfl, rfl⟩
    obtain ⟨ha, hb⟩ := (hsweep _).mp hs
    obtain ⟨he, hd, hf⟩ := (hreconnect _).mp hr
    exact ⟨(hlevel _).mp hl, ha, hb, he, hd, hf, (hreport _).mp hp⟩
  · rintro ⟨hl, ha, hb, he, hd, hf, hp⟩
    exact ⟨_, (hlevel _).mpr hl, _, (hsweep _).mpr ⟨ha, hb⟩, _, (hreconnect _).mpr ⟨he, hd, hf⟩, _,
      (hreport _).mpr hp, rfl, rfl, rfl, rfl⟩

/-! ## Documents -/

theorem decodeToml?_iff (h : parse? text = some es) (hsections : HasSections es) (c : Config) :
    decodeToml? text = some c ↔ Describes (.table .header es) c := by
  rw [decodeToml?, h, Option.bind_some]
  exact config_iff (inRange_parse? h) hsections c

/-- No known key lies in tables that are written one by one. -/
theorem clear_of_mem (h : HasSections es) {k : List String × Kind} (hk : k ∈ knownKeys) :
    (Value.table .header es).Clear k.1 := by
  have hsection : ∀ name ∈ ["sweep", "reconnect", "stats"], ∀ key, (Value.table .header es).Clear [name, key] := by
    intro name hname key v hv
    have hname' := h name hname
    rw [hv] at hname'
    obtain ⟨origin, sub, rfl⟩ := hname'.eq_table
    exact fun w _ => w.clear_nil
  have hroot : ∀ key, (Value.table .header es).Clear [key] := fun key v _ => v.clear_nil
  simp only [knownKeys, List.mem_cons, List.not_mem_nil, or_false] at hk
  rcases hk with rfl | rfl | rfl | rfl | rfl | rfl | rfl
  · exact hroot _
  all_goals exact hsection _ (by simp) _

theorem exists_stands_iff {α : Type} {written : α → Value → Prop} {default : α} {o : Option Value} :
    (∃ a, Stands written default o a) ↔ ∀ v, o = some v → ∃ a, written a v := by
  constructor
  · rintro ⟨a, _ | ha⟩ v hv
    · cases hv
    · obtain rfl := Option.some.inj hv
      exact ⟨a, ha⟩
  · intro h
    cases o with
    | none => exact ⟨default, .absent⟩
    | some v =>
      obtain ⟨a, ha⟩ := h v rfl
      exact ⟨a, .present ha⟩

theorem exists_isMillis_iff {v : Value} : (∃ s, IsMillis s v) ↔ Kind.millis.Admits v := by
  constructor
  · rintro ⟨s, n, hn, hv, -⟩
    exact ⟨n, hn, hv⟩
  · rintro ⟨n, hn, hv⟩
    exact ⟨_, n, hn, hv, rfl⟩

/-- The known keys stand for a configuration if each that is there is of its kind. -/
theorem exists_describes_iff {root : Value} :
    (∃ c, Describes root c) ↔ ∀ k ∈ knownKeys, ∀ v, root.at? k.1 = some v → k.2.Admits v := by
  have htext : ∀ o, (∃ a, Stands IsText "info" o a) ↔ ∀ v, o = some v → Kind.text.Admits v := fun _ => exists_stands_iff
  have hflag : ∀ o, (∃ a, Stands IsFlag true o a) ↔ ∀ v, o = some v → Kind.flag.Admits v := fun _ => exists_stands_iff
  have hmillis : ∀ d o, (∃ a, Stands IsMillis d o a) ↔ ∀ v, o = some v → Kind.millis.Admits v := by
    intro d o
    simp only [exists_stands_iff, exists_isMillis_iff]
  simp only [knownKeys, List.forall_mem_cons, List.not_mem_nil, false_imp_iff, implies_true, and_true]
  rw [← htext, ← hmillis, ← hmillis, ← hflag, ← hmillis, ← hflag, ← hmillis]
  constructor
  · rintro ⟨c, hl, ha, hb, he, hd, hf, hp⟩
    exact ⟨⟨_, hl⟩, ⟨_, ha⟩, ⟨_, hb⟩, ⟨_, he⟩, ⟨_, hd⟩, ⟨_, hf⟩, ⟨_, hp⟩⟩
  · rintro ⟨⟨_, hl⟩, ⟨_, ha⟩, ⟨_, hb⟩, ⟨_, he⟩, ⟨_, hd⟩, ⟨_, hf⟩, ⟨_, hp⟩⟩
    exact ⟨⟨_, ⟨_, _⟩, ⟨_, _, _⟩, ⟨_⟩⟩, hl, ha, hb, he, hd, hf, hp⟩

theorem Describes.congr {root root' : Value} (h : ∀ k ∈ knownKeys, root.at? k.1 = root'.at? k.1)
    (hc : Describes root c) : Describes root' c := by
  simp only [knownKeys, List.forall_mem_cons, List.not_mem_nil, false_imp_iff, implies_true, and_true] at h
  obtain ⟨hl, ha, hb, he, hd, hf, hp⟩ := h
  exact ⟨hl ▸ hc.logLevel, ha ▸ hc.expireAfter, hb ▸ hc.interval, he ▸ hc.enabled, hd ▸ hc.period,
    hf ▸ hc.fireImmediately, hp ▸ hc.report⟩

/-- Two documents whose lines say the same at the known keys are read alike. -/
theorem decodeToml?_congr {text' : String} {es' : Entries} (h : parse? text = some es) (hsections : HasSections es)
    (h' : parse? text' = some es') (hsections' : HasSections es')
    (hsame : ∀ k ∈ knownKeys, ∀ o, Tells text k.1 o ↔ Tells text' k.1 o) : decodeToml? text = decodeToml? text' := by
  have hat : ∀ k ∈ knownKeys, (Value.table .header es).at? k.1 = (Value.table .header es').at? k.1 := by
    intro k hk
    have hne : k.1 ≠ [] := by
      revert k
      decide
    refine Option.ext fun o => ?_
    rw [at?_parse? h hne (clear_of_mem hsections hk), at?_parse? h' hne (clear_of_mem hsections' hk)]
    exact hsame k hk o
  refine Option.ext fun c => ?_
  rw [decodeToml?_iff h hsections, decodeToml?_iff h' hsections']
  exact ⟨.congr hat, .congr fun k hk => (hat k hk).symm⟩

/-- A text that is no document is refused, and so is a document in which some known key has a value of another kind
or an integer that is negative; a larger integer than 63 bits hold is none of a document.  Else each known key has its
default or the value written under it, and these make the configuration, unless a span that must not be zero is: then
the first such span is refused.  What stands under the known keys is what single lines say, be it by headers, dotted
keys or tables in braces, so a document is read like any other whose lines say the same there. -/
theorem known_keys_decide (text : String) :
    (parse? text = none → ofToml text = .error .malformed) ∧
    ∀ es, parse? text = some es → HasSections es →
      let root := Value.table .header es
      ((∃ k ∈ knownKeys, ∃ v, root.at? k.1 = some v ∧ ¬k.2.Admits v) → ofToml text = .error .malformed) ∧
      ((∀ k ∈ knownKeys, ∀ v, root.at? k.1 = some v → k.2.Admits v) →
        ∃ c, Describes root c ∧
          ofToml text = match c.checked.find? (·.2.isZero) with
            | some f => .error (.zero f.1)
            | none => .ok c) ∧
      (∀ k ∈ knownKeys, ∀ o, root.at? k.1 = some o ↔ Tells text k.1 o) ∧
      ∀ text' es', parse? text' = some es' → HasSections es' →
        (∀ k ∈ knownKeys, ∀ o, Tells text k.1 o ↔ Tells text' k.1 o) → ofToml text' = ofToml text := by
  refine ⟨fun h => ?_, fun es h hsections => ⟨?_, fun hkinds => ?_, fun k hk o => ?_, ?_⟩⟩
  · exact ofToml_of_none (by rw [decodeToml?, h, Option.bind_none])
  · rintro ⟨k, hk, v, hv, hkind⟩
    refine ofToml_of_none (Option.eq_none_iff_forall_ne_some.mpr fun c hc => ?_)
    have hdescribes := (decodeToml?_iff h hsections c).mp hc
    exact hkind (exists_describes_iff.mp ⟨c, hdescribes⟩ k hk v hv)
  · obtain ⟨c, hc⟩ := exists_describes_iff.mpr hkinds
    refine ⟨c, hc, ?_⟩
    rw [ofToml_of_decodeToml? ((decodeToml?_iff h hsections c).mpr hc), validate_eq_refusal, refusal]
    cases c.checked.find? (·.2.isZero) <;> rfl
  · have hne : k.1 ≠ [] := by
      revert k
      decide
    exact at?_parse? h hne (clear_of_mem hsections hk) o
  · intro text' es' h' hsections' hsame
    rw [ofToml, ofToml, decodeToml?_congr h hsections h' hsections' hsame]

/-- One configuration in two notations, with a report interval that is refused in both, and a negative span. -/
theorem known_keys_decide_notations :
    ofToml "[stats]\ninterval_ms = 0\n[sweep]\nexpire_after_ms = 7\n" = .error (.zero "stats.interval_ms") ∧
      ofToml "sweep = \x7b other = [1], expire_after_ms = 7 \x7d\nunknown.key = 1979-05-27\nstats.interval_ms = 0" =
        .error (.zero "stats.interval_ms") ∧
      ofToml "stats.interval_ms = -1" = .error .malformed := by
  let es : Entries := [("stats", .table .header [("interval_ms", .integer 0)]),
    ("sweep", .table .header [("expire_after_ms", .integer 7)])]
  let es' : Entries := [("sweep", .table .inline [("other", .array [.integer 1]), ("expire_after_ms", .integer 7)]),
    ("unknown", .table .dotted [("key", .datetime)]), ("stats", .table .dotted [("interval_ms", .integer 0)])]
  let es'' : Entries := [("stats", .table .dotted [("interval_ms", .integer (-1))])]
  have hes : parse? "[stats]\ninterval_ms = 0\n[sweep]\nexpire_after_ms = 7\n" = some es := by rfl
  have hes' : parse? "sweep = \x7b other = [1], expire_after_ms = 7 \x7d\nunknown.key = 1979-05-27\nstats.interval_ms = 0" =
    some es' := by rfl
  have hes'' : parse? "stats.interval_ms = -1" = some es'' := by rfl
  have hsections : HasSections es := by simp [HasSections, es, Entries.get?, List.lookup_cons, IsSection]
  have hsections' : HasSections es' := by simp [HasSections, es', Entries.get?, List.lookup_cons, IsSection]
  have hsections'' : HasSections es'' := by simp [HasSections, es'', Entries.get?, List.lookup_cons, IsSection]
  obtain ⟨-, hread, htells, hsame⟩ := (known_keys_decide _).2 es hes hsections
  obtain ⟨-, -, htells', -⟩ := (known_keys_decide _).2 es' hes' hsections'
  obtain ⟨hrefused, -⟩ := (known_keys_decide _).2 es'' hes'' hsections''
  have hkinds : ∀ k ∈ knownKeys, ∀ v, (Value.table .header es).at? k.1 = some v → k.2.Admits v := by
    simp [knownKeys, es, Entries.get?, List.lookup_cons, Value.at?, Kind.Admits]
    exact ⟨⟨7, by decide, rfl⟩, ⟨0, by decide, rfl⟩⟩
  have hat : ∀ k ∈ knownKeys, (Value.table .header es).at? k.1 = (Value.table .header es').at? k.1 := by
    simp [knownKeys, es, es', Entries.get?, List.lookup_cons, Value.at?]
  obtain ⟨c, hc, hof⟩ := hread hkinds
  have hzero : ofToml "[stats]\ninterval_ms = 0\n[sweep]\nexpire_after_ms = 7\n" = .error (.zero "stats.interval_ms") := by
    have hdecode : decodeToml? "[stats]\ninterval_ms = 0\n[sweep]\nexpire_after_ms = 7\n" =
      some { sweep := { expireAfter := .ofMillis 7 }, report := { interval := .ofMillis 0 } } := by rfl
    obtain rfl := Option.some.inj (((decodeToml?_iff hes hsections c).mpr hc).symm.trans hdecode)
    exact hof
  refine ⟨hzero, ?_, hrefused ⟨(["stats", "interval_ms"], .millis), ?_⟩⟩
  · rw [← hzero]
    refine hsame _ es' hes' hsections' fun k hk o => ?_
    rw [← htells k hk, ← htells' k hk, hat k hk]
  · simp [knownKeys, es'', Entries.get?, Value.at?, Kind.Admits]

/-- An unknown key can decide as well: with a value in eighty brackets, one more than are read, a document is refused
that would mean the defaults without it. -/
theorem deep_unknown_key :
    let cs := "x = ".toList ++ List.replicate 80 '[' ++ List.replicate 80 ']'
    ((keyValue (value 80) cs).map fun r => (r.1.1, r.2)) = some (["x"], []) ∧
      ofToml (String.ofList cs) = .error .malformed ∧ ofToml "" = .ok {} := by
  decide +kernel

end Config

end Liveness
