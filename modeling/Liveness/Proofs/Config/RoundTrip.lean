import Liveness.Config.Print
import Liveness.Proofs.Config.Millis
import Liveness.Proofs.Toml.Lines
import Liveness.Proofs.Toml.Range

/-!
# Configurations read back

A configuration that passes its own check and whose spans are whole milliseconds of at
most 63 bits is written as a document (`says_toToml`), and that document gives it back.
No document gives any other configuration (`isWritable_of_decodeToml?`), so a document
can always be replaced by the one that is written for its configuration.
-/

namespace Liveness

open Toml

/-- A span that a document can hold. -/
def Span.IsWritable (s : Span) : Prop := ∃ n : Nat, n ≤ 9223372036854775807 ∧ s = .ofMillis n

namespace Config

/-- A configuration that a document can hold. -/
structure IsWritable (c : Config) : Prop where
  valid : c.validate = .ok ()
  expireAfter : c.sweep.expireAfter.IsWritable
  interval : c.sweep.interval.IsWritable
  period : c.reconnect.period.IsWritable
  report : c.report.interval.IsWritable

theorem millisText_ofMillis {n : Nat} (hn : n ≤ 9223372036854775807) :
    millisText (.ofMillis n) = .ok (toString n) := by
  have hword : n ≤ wordMax := Nat.le_trans hn (by decide)
  rw [millisText, Span.millis_ofMillis hword, if_pos hn]

theorem written_flagText (b : Bool) : Written (.boolean b) (flagText b).toList := by
  cases b
  · exact written_false
  · exact written_true

/-- What the document of a configuration says. -/
def statements (c : Config) (expireAfter interval period report : Nat) : List Statement :=
  [.assign ["log_level"] (.string c.logLevel),
    .table ["sweep"],
    .assign ["expire_after_ms"] (.integer expireAfter),
    .assign ["sweep_interval_ms"] (.integer interval),
    .table ["reconnect"],
    .assign ["enabled"] (.boolean c.reconnect.enabled),
    .assign ["period_ms"] (.integer period),
    .assign ["fire_immediately"] (.boolean c.reconnect.fireImmediately),
    .table ["stats"],
    .assign ["interval_ms"] (.integer report)]

/-- What is read from the tables of a document is the configuration that it was written from. -/
theorem decode_statements (c : Config) {a b p r : Nat} (ha : c.sweep.expireAfter = .ofMillis a)
    (hb : c.sweep.interval = .ofMillis b) (hp : c.reconnect.period = .ofMillis p)
    (hr : c.report.interval = .ofMillis r) :
    (build? (c.statements a b p r)).bind (fun es => configFormat.config (.table .header es)) = some c := by
  obtain ⟨level, ⟨expireAfter, interval⟩, ⟨enabled, period, fire⟩, ⟨report⟩⟩ := c
  cases ha
  cases hb
  cases hp
  cases hr
  rfl

/-- A configuration that a document can hold is written as one. -/
theorem says_toToml {c : Config} {a b p r : Nat} (ha : a ≤ 9223372036854775807 ∧ c.sweep.expireAfter = .ofMillis a)
    (hb : b ≤ 9223372036854775807 ∧ c.sweep.interval = .ofMillis b)
    (hp : p ≤ 9223372036854775807 ∧ c.reconnect.period = .ofMillis p)
    (hr : r ≤ 9223372036854775807 ∧ c.report.interval = .ofMillis r) :
    ∃ text, c.toToml = .ok text ∧ text.toList.head? ≠ some '\ufeff' ∧ Says text.toList (c.statements a b p r) := by
  obtain ⟨ha, ha'⟩ := ha
  obtain ⟨hb, hb'⟩ := hb
  obtain ⟨hp, hp'⟩ := hp
  obtain ⟨hr, hr'⟩ := hr
  unfold toToml
  rw [ha', hb', hp', hr', millisText_ofMillis ha, millisText_ofMillis hb, millisText_ofMillis hp,
    millisText_ofMillis hr]
  refine ⟨_, rfl, by simp, ?_⟩
  have hstats := says_header "stats" rfl (says_key "interval_ms" rfl (written_integer hr) says_nil)
  have hreconnect := says_header "reconnect" rfl
    (says_key "enabled" rfl (written_flagText c.reconnect.enabled)
      (says_key "period_ms" rfl (written_integer hp)
        (says_key "fire_immediately" rfl (written_flagText c.reconnect.fireImmediately) (says_blank hstats))))
  have hsweep := says_header "sweep" rfl
    (says_key "expire_after_ms" rfl (written_integer ha)
      (says_key "sweep_interval_ms" rfl (written_integer hb) (says_blank hreconnect)))
  have hdocument := says_key "log_level" rfl (written_string c.logLevel) (says_blank hsweep)
  simpa [statements, Nat.toString_eq_ofList_toDigits] using hdocument

/-! ## What a document can hold -/

theorem inRange_fields {names : List String} {v : Value} {vs : List (Option Value)} (h : v.InRange)
    (hf : configFormat.fields names v = some vs) {w : Value} (hw : some w ∈ vs) : w.InRange := by
  cases h with
  | table hin =>
    obtain rfl := Option.some.inj hf
    obtain ⟨name, -, hget⟩ := List.mem_map.mp hw
    exact Entries.InRange.get? hin hget
  | array hin =>
    obtain rfl := Option.some.inj hf
    obtain ⟨i, -, hget⟩ := List.mem_map.mp hw
    exact hin w (List.mem_of_getElem? hget)
  | tables hin =>
    obtain rfl := Option.some.inj hf
    obtain ⟨i, -, hget⟩ := List.mem_map.mp hw
    obtain ⟨es, hes, rfl⟩ := Option.map_eq_some_iff.mp hget
    exact .table (hin es (List.mem_of_getElem? hes))
  | datetime =>
    obtain rfl := Option.some.inj hf
    obtain ⟨name, -, hnone⟩ := List.mem_map.mp hw
    cases hnone
  | string | integer | float | boolean => cases hf

theorem isWritable_millis {v : Value} {s : Span} (h : v.InRange) (hm : configFormat.millis v = some s) :
    s.IsWritable := by
  cases h with
  | integer hlow hhigh =>
    obtain ⟨hn, hs⟩ := Option.ite_none_right_eq_some.mp hm
    obtain rfl := Option.some.inj hs
    exact ⟨_, by omega, rfl⟩
  | string | float | boolean | datetime | array | table | tables => cases hm

/-- What holds of a default and of all that is read holds of a field that may be left out. -/
theorem of_orDefault {α : Type} {read : Value → Option α} {default a : α} {o : Option Value} {P : α → Prop}
    (hd : P default) (hread : ∀ w, o = some w → read w = some a → P a)
    (ha : ConfigFormat.orDefault read default o = some a) : P a := by
  cases o with
  | none =>
    obtain rfl := Option.some.inj ha
    exact hd
  | some w => exact hread w rfl ha

theorem isWritable_orDefault {n : Nat} (hn : n ≤ 9223372036854775807) {o : Option Value} {s : Span}
    (ho : ∀ w, o = some w → w.InRange)
    (hs : ConfigFormat.orDefault configFormat.millis (.ofMillis n) o = some s) : s.IsWritable :=
  of_orDefault ⟨n, hn, rfl⟩ (fun w hw hm => isWritable_millis (ho w hw) hm) hs

theorem isWritable_sweep {v : Value} {s : SweepSettings} (h : v.InRange) (hs : configFormat.sweep v = some s) :
    s.expireAfter.IsWritable ∧ s.interval.IsWritable := by
  simp only [ConfigFormat.sweep, Option.bind_eq_bind, Option.bind_eq_some_iff] at hs
  obtain ⟨vs, hvs, hs⟩ := hs
  split at hs
  · simp only [Option.bind_eq_some_iff] at hs
    obtain ⟨expireAfter, ha, interval, hb, heq⟩ := hs
    cases heq
    exact ⟨isWritable_orDefault (by decide) (fun w hw => inRange_fields h hvs (by simp [hw])) ha,
      isWritable_orDefault (by decide) (fun w hw => inRange_fields h hvs (by simp [hw])) hb⟩
  · cases hs

theorem isWritable_reconnect {v : Value} {s : ReconnectSettings} (h : v.InRange)
    (hs : configFormat.reconnect v = some s) : s.period.IsWritable := by
  simp only [ConfigFormat.reconnect, Option.bind_eq_bind, Option.bind_eq_some_iff] at hs
  obtain ⟨vs, hvs, hs⟩ := hs
  split at hs
  · simp only [Option.bind_eq_some_iff] at hs
    obtain ⟨enabled, -, period, hp, fire, -, heq⟩ := hs
    cases heq
    exact isWritable_orDefault (by decide) (fun w hw => inRange_fields h hvs (by simp [hw])) hp
  · cases hs

theorem isWritable_report {v : Value} {s : ReportSettings} (h : v.InRange) (hs : configFormat.report v = some s) :
    s.interval.IsWritable := by
  simp only [ConfigFormat.report, Option.bind_eq_bind, Option.bind_eq_some_iff] at hs
  obtain ⟨vs, hvs, hs⟩ := hs
  split at hs
  · simp only [Option.bind_eq_some_iff] at hs
    obtain ⟨interval, hr, heq⟩ := hs
    cases heq
    exact isWritable_orDefault (by decide) (fun w hw => inRange_fields h hvs (by simp [hw])) hr
  · cases hs

/-- The spans of a configuration that a document gives are whole milliseconds of at most 63 bits. -/
theorem isWritable_of_decodeToml? {text : String} {c : Config} (h : decodeToml? text = some c)
    (hvalid : c.validate = .ok ()) : c.IsWritable := by
  obtain ⟨es, hes, hc⟩ := Option.bind_eq_some_iff.mp h
  have hdocument : (Value.table .header es).InRange := .table (inRange_parse? hes)
  simp only [ConfigFormat.config, Option.bind_eq_bind, Option.bind_eq_some_iff] at hc
  obtain ⟨vs, hvs, hc⟩ := hc
  split at hc
  · simp only [Option.bind_eq_some_iff] at hc
    obtain ⟨level, -, sweep, hsweep, reconnect, hreconnect, report, hreport, heq⟩ := hc
    cases heq
    have hsweep := of_orDefault (P := fun s => s.expireAfter.IsWritable ∧ s.interval.IsWritable)
      ⟨⟨5000, by decide, rfl⟩, 1000, by decide, rfl⟩
      (fun w hw hs => isWritable_sweep (inRange_fields hdocument hvs (by simp [hw])) hs) hsweep
    have hreconnect := of_orDefault (P := fun s => s.period.IsWritable) ⟨10000, by decide, rfl⟩
      (fun w hw hs => isWritable_reconnect (inRange_fields hdocument hvs (by simp [hw])) hs) hreconnect
    have hreport := of_orDefault (P := fun s => s.interval.IsWritable) ⟨5000, by decide, rfl⟩
      (fun w hw hs => isWritable_report (inRange_fields hdocument hvs (by simp [hw])) hs) hreport
    exact ⟨hvalid, hsweep.1, hsweep.2, hreconnect, hreport⟩
  · cases hc

/-! ## There and back -/

theorem ofToml_eq_ok {text : String} {c : Config} :
    ofToml text = .ok c ↔ decodeToml? text = some c ∧ c.validate = .ok () := by
  unfold ofToml
  cases decodeToml? text with
  | none => simp
  | some c' =>
    cases hvalid : c'.validate with
    | error e =>
      constructor
      · intro h
        simp [hvalid, bind, Except.bind] at h
      · rintro ⟨heq, hok⟩
        obtain rfl := Option.some.inj heq
        cases hvalid.symm.trans hok
    | ok u =>
      constructor
      · intro h
        simp only [hvalid, bind, Except.bind, Except.ok.injEq] at h
        obtain rfl := h
        exact ⟨rfl, hvalid⟩
      · rintro ⟨heq, -⟩
        obtain rfl := Option.some.inj heq
        simp [hvalid, bind, Except.bind]

theorem ofToml_of_none {text : String} (h : decodeToml? text = none) : ofToml text = .error .malformed := by
  rw [ofToml, h]

theorem ofToml_of_says {text : String} {c : Config} {ss : List Statement} (h : Says text.toList ss)
    (hmark : text.toList.head? ≠ some '\ufeff')
    (hbuild : (build? ss).bind (fun es => configFormat.config (.table .header es)) = some c)
    (hvalid : c.validate = .ok ()) : ofToml text = .ok c := by
  refine ofToml_eq_ok.mpr ⟨?_, hvalid⟩
  rw [decodeToml?, parse?_of_says h hmark]
  exact hbuild

theorem IsWritable.exists_says {c : Config} (h : c.IsWritable) :
    ∃ text ss, c.toToml = .ok text ∧ text.toList.head? ≠ some '\ufeff' ∧ Says text.toList ss ∧
      (build? ss).bind (fun es => configFormat.config (.table .header es)) = some c := by
  obtain ⟨-, ⟨a, ha, ha'⟩, ⟨b, hb, hb'⟩, ⟨p, hp, hp'⟩, ⟨r, hr, hr'⟩⟩ := h
  obtain ⟨text, htext, hmark, hsays⟩ := says_toToml ⟨ha, ha'⟩ ⟨hb, hb'⟩ ⟨hp, hp'⟩ ⟨hr, hr'⟩
  exact ⟨text, _, htext, hmark, hsays, decode_statements c ha' hb' hp' hr'⟩

/-- A configuration that a document can hold is written, and what is written gives it back. -/
theorem IsWritable.reads_back {c : Config} (h : c.IsWritable) :
    ∃ text, c.toToml = .ok text ∧ ofToml text = .ok c := by
  obtain ⟨text, ss, htext, hmark, hsays, hbuild⟩ := h.exists_says
  exact ⟨text, htext, ofToml_of_says hsays hmark hbuild h.valid⟩

/-- Every configuration that passes its own check and whose spans are whole milliseconds of at most 63 bits is
written as a document that gives it back; every configuration that a document gives is of this kind; and so
writing what was read and reading it again changes nothing. -/
theorem toml_round_trip (c : Config) :
    (c.IsWritable → ∃ text, c.toToml = .ok text ∧ ofToml text = .ok c) ∧
      ∀ text, ofToml text = .ok c → c.IsWritable ∧ ∃ text', c.toToml = .ok text' ∧ ofToml text' = .ok c := by
  refine ⟨IsWritable.reads_back, fun text h => ?_⟩
  obtain ⟨hdecode, hvalid⟩ := ofToml_eq_ok.mp h
  have hwritable := isWritable_of_decodeToml? hdecode hvalid
  exact ⟨hwritable, hwritable.reads_back⟩

/-- A filter that no one style of quotes can hold as it is, and a document whose sections are lists. -/
theorem toml_round_trip_of_quotes :
    let c : Config := { logLevel := "\n\x27\x27\x27\\\x22\x22\x22", reconnect := .disabled }
    let read : Config := { sweep := { expireAfter := .ofMillis 9223372036854775807 } }
    c.IsWritable ∧ (∃ text, c.toToml = .ok text ∧ ofToml text = .ok c) ∧
      ofToml "sweep = [9223372036854775807]" = .ok read ∧ read.IsWritable := by
  intro c read
  have hc : c.IsWritable :=
    ⟨rfl, ⟨5000, by decide, rfl⟩, ⟨1000, by decide, rfl⟩, ⟨10000, by decide, rfl⟩, ⟨5000, by decide, rfl⟩⟩
  have hread : ofToml "sweep = [9223372036854775807]" = .ok read := by rfl
  exact ⟨hc, (toml_round_trip c).1 hc, hread, ((toml_round_trip read).2 _ hread).1⟩

end Config

end Liveness
