import Liveness.Proofs.Config.RoundTrip

/-!
# Configurations that lose parts of milliseconds

A document holds whole milliseconds, so a configuration is read back with its spans
truncated.  The check asks which spans are zero, once before they are truncated and once
when they are read: a span below one millisecond passes the one and fails the other
(`truncated_of_toToml`).
-/

namespace Liveness

open Toml

namespace Span

/-- A span without what is left after its last whole millisecond. -/
def truncated (s : Span) : Span := .ofMillis (s.nanos / 1000000)

@[simp] theorem millis_truncated (s : Span) : s.truncated.millis = s.millis := by
  rw [millis, millis, truncated, nanos_ofMillis, Nat.mul_div_cancel _ (by decide)]

theorem truncated_eq_ofMillis {s : Span} (h : s.millis ≤ 9223372036854775807) : s.truncated = .ofMillis s.millis := by
  unfold millis wordMax at *
  rw [truncated, Nat.min_eq_left (by omega)]

/-- Spans below one millisecond are truncated to zero. -/
@[simp] theorem isZero_truncated (s : Span) : s.truncated.isZero = decide (s.nanos < 1000000) := by
  rw [isZero, truncated, nanos_ofMillis, Bool.eq_iff_iff, beq_iff_eq, decide_eq_true_iff]
  omega

end Span

namespace Config

/-- A configuration without what is left of its spans after their last whole milliseconds. -/
def truncated (c : Config) : Config where
  logLevel := c.logLevel
  sweep := ⟨c.sweep.expireAfter.truncated, c.sweep.interval.truncated⟩
  reconnect := { c.reconnect with period := c.reconnect.period.truncated }
  report := ⟨c.report.interval.truncated⟩

variable {c : Config} {text : String}

/-! ## The check -/

/-- The spans that must not be zero, each with the name of its field, in the order in which they are checked. -/
def checked (c : Config) : List (String × Span) :=
  ("sweep.expire_after_ms", c.sweep.expireAfter) :: ("sweep.sweep_interval_ms", c.sweep.interval) ::
    ((if c.reconnect.enabled then [("reconnect.period_ms", c.reconnect.period)] else []) ++
      [("stats.interval_ms", c.report.interval)])

/-- The check of spans in order refuses the first one that is zero. -/
def refusal (fields : List (String × Span)) : Except ConfigError Unit :=
  match fields.find? (·.2.isZero) with
  | some f => .error (.zero f.1)
  | none => .ok ()

theorem refusal_cons (name : String) (s : Span) (fields : List (String × Span)) :
    refusal ((name, s) :: fields) = (do requirePositive name s; refusal fields) := by
  rw [refusal, List.find?_cons, requirePositive]
  cases s.isZero <;> rfl

theorem validate_eq_refusal (c : Config) : c.validate = refusal c.checked := by
  have hreport : requirePositive "stats.interval_ms" c.report.interval =
      refusal [("stats.interval_ms", c.report.interval)] := by
    rw [refusal_cons, requirePositive]
    cases c.report.interval.isZero <;> rfl
  rw [checked, refusal_cons, refusal_cons, validate, SweepSettings.validate, ReconnectSettings.validate, hreport]
  cases c.reconnect.enabled with
  | true => simp only [if_true, List.singleton_append, refusal_cons, bind_assoc]
  | false => simp only [Bool.false_eq_true, if_false, List.nil_append, bind_assoc]; rfl

theorem refusal_eq_ok {fields : List (String × Span)} :
    refusal fields = .ok () ↔ ∀ f ∈ fields, f.2.isZero = false := by
  unfold refusal
  split
  · rename_i f hf
    refine ⟨nofun, fun h => ?_⟩
    have hzero := List.find?_some hf
    cases hzero.symm.trans (h f (List.mem_of_find?_eq_some hf))
  · rename_i hnone
    simpa using hnone

theorem checked_truncated (c : Config) :
    c.truncated.checked = c.checked.map fun f => (f.1, f.2.truncated) := by
  unfold checked truncated
  cases c.reconnect.enabled <;> rfl

/-- Once spans are truncated the first one below one millisecond is refused. -/
theorem refusal_truncated (c : Config) :
    refusal c.truncated.checked =
      match c.checked.find? (fun f => f.2.nanos < 1000000) with
      | some f => .error (.zero f.1)
      | none => .ok () := by
  have htest : (fun f : String × Span => f.2.isZero) ∘ (fun f : String × Span => (f.1, f.2.truncated)) =
      fun f => decide (f.2.nanos < 1000000) := by
    funext f
    rw [Function.comp_apply]
    exact f.2.isZero_truncated
  rw [refusal, checked_truncated, List.find?_map, htest]
  cases c.checked.find? fun f => f.2.nanos < 1000000 with
  | none => rfl
  | some f => rfl

/-! ## Reading back -/

theorem except_bind_eq_ok {ε α β : Type} {x : Except ε α} {f : α → Except ε β} {b : β} :
    (x >>= f) = .ok b ↔ ∃ a, x = .ok a ∧ f a = .ok b := by
  cases x <;> simp [bind, Except.bind]

theorem of_millisText {s : Span} (h : millisText s = .ok text) : s.millis ≤ 9223372036854775807 := by
  unfold millisText at h
  split at h
  · assumption
  · cases h

/-- A configuration is written like the one that is truncated. -/
theorem toToml_truncated (c : Config) : c.truncated.toToml = c.toToml := by
  simp only [toToml, millisText, truncated, Span.millis_truncated]

/-- What can be written has spans of at most 63 bits of milliseconds. -/
theorem millis_le_of_toToml (h : c.toToml = .ok text) :
    c.sweep.expireAfter.millis ≤ 9223372036854775807 ∧ c.sweep.interval.millis ≤ 9223372036854775807 ∧
      c.reconnect.period.millis ≤ 9223372036854775807 ∧ c.report.interval.millis ≤ 9223372036854775807 := by
  simp only [toToml, except_bind_eq_ok] at h
  obtain ⟨_, hexpire, _, hinterval, _, hperiod, _, hreport, -⟩ := h
  exact ⟨of_millisText hexpire, of_millisText hinterval, of_millisText hperiod, of_millisText hreport⟩

/-- What is written of a configuration says that it is the truncated one. -/
theorem decode_of_toToml (h : c.toToml = .ok text) : decodeToml? text = some c.truncated := by
  obtain ⟨hexpire, hinterval, hperiod, hreport⟩ := millis_le_of_toToml h
  have hexpire' : c.truncated.sweep.expireAfter = _ := Span.truncated_eq_ofMillis hexpire
  have hinterval' : c.truncated.sweep.interval = _ := Span.truncated_eq_ofMillis hinterval
  have hperiod' : c.truncated.reconnect.period = _ := Span.truncated_eq_ofMillis hperiod
  have hreport' : c.truncated.report.interval = _ := Span.truncated_eq_ofMillis hreport
  obtain ⟨text', htext', hmark, hsays⟩ :=
    says_toToml ⟨hexpire, hexpire'⟩ ⟨hinterval, hinterval'⟩ ⟨hperiod, hperiod'⟩ ⟨hreport, hreport'⟩
  rw [toToml_truncated, h, Except.ok.injEq] at htext'
  subst htext'
  rw [decodeToml?, parse?_of_says hsays hmark]
  exact decode_statements _ hexpire' hinterval' hperiod' hreport'

theorem ofToml_of_decodeToml? (h : decodeToml? text = some c) : ofToml text = c.validate.map fun _ => c := by
  rw [ofToml, h]
  cases hvalid : c.validate <;> simp [hvalid, bind, Except.bind, Except.map]

instance {ε α : Type} [DecidableEq ε] [DecidableEq α] : DecidableEq (Except ε α)
  | .ok a, .ok b => decidable_of_iff (a = b) (by rw [Except.ok.injEq])
  | .error e, .error f => decidable_of_iff (e = f) (by rw [Except.error.injEq])
  | .ok _, .error _ => isFalse nofun
  | .error _, .ok _ => isFalse nofun

/-- A configuration that passes the check is written, if its spans are not too long, as a document that says that
it is the truncated one.  Reading the document gives the truncated one, unless some span that must not be zero is
below one millisecond: then the first such span is refused. -/
theorem truncated_of_toToml (hvalid : c.validate = .ok ()) (h : c.toToml = .ok text) :
    decodeToml? text = some c.truncated ∧
      ((∀ f ∈ c.checked, 1000000 ≤ f.2.nanos) ∧ ofToml text = .ok c.truncated ∨
        ∃ f, c.checked.find? (fun f => f.2.nanos < 1000000) = some f ∧ 0 < f.2.nanos ∧
          ofToml text = .error (.zero f.1)) := by
  have hdecode := decode_of_toToml h
  have hread : ofToml text = (refusal c.truncated.checked).map fun _ => c.truncated := by
    rw [ofToml_of_decodeToml? hdecode, validate_eq_refusal]
  rw [refusal_truncated] at hread
  refine ⟨hdecode, ?_⟩
  cases hfirst : c.checked.find? fun f => f.2.nanos < 1000000 with
  | none =>
    rw [hfirst] at hread
    refine .inl ⟨fun f hf => ?_, hread⟩
    simpa using List.find?_eq_none.mp hfirst f hf
  | some f =>
    rw [hfirst] at hread
    -- the check has passed it, so it is not zero
    have hpassed := refusal_eq_ok.mp (validate_eq_refusal c ▸ hvalid) f (List.mem_of_find?_eq_some hfirst)
    rw [Span.isZero, beq_eq_false_iff_ne] at hpassed
    exact .inr ⟨f, rfl, Nat.pos_of_ne_zero hpassed, hread⟩

/-- A configuration that sweeps twice in a millisecond passes the check and is written, but what is written is
refused; the period of half a millisecond that is never used is read as zero. -/
theorem truncated_of_toToml_below_milli :
    let c : Config := { sweep := { interval := ⟨500000⟩ }, reconnect := { enabled := false, period := ⟨500000⟩ } }
    let text := "log_level = \"info\"\n\n[sweep]\nexpire_after_ms = 5000\nsweep_interval_ms = 0\n\n" ++
      "[reconnect]\nenabled = false\nperiod_ms = 0\nfire_immediately = true\n\n[stats]\ninterval_ms = 5000\n"
    c.validate = .ok () ∧ c.toToml = .ok text ∧ decodeToml? text = some c.truncated ∧
      ofToml text = .error (.zero "sweep.sweep_interval_ms") := by
  intro c text
  have htext : c.toToml = .ok text := by decide +kernel
  obtain ⟨hdecode, ⟨hall, -⟩ | ⟨f, hfirst, -, hread⟩⟩ := truncated_of_toToml (c := c) rfl htext
  · exact absurd (hall ("sweep.sweep_interval_ms", ⟨500000⟩) (by simp [checked, c])) (by decide)
  · obtain rfl : f = ("sweep.sweep_interval_ms", ⟨500000⟩) := Option.some.inj (hfirst.symm.trans rfl)
    exact ⟨rfl, htext, hdecode, hread⟩

/-- A configuration that passes the check and is written can be refused when it is read back. -/
theorem truncated_to_zero :
    let c : Config := { sweep := { expireAfter := ⟨500000⟩ } }
    let text := "log_level = \"info\"\n\n[sweep]\nexpire_after_ms = 0\nsweep_interval_ms = 1000\n\n" ++
      "[reconnect]\nenabled = true\nperiod_ms = 10000\nfire_immediately = true\n\n[stats]\ninterval_ms = 5000\n"
    c.validate = .ok () ∧ c.toToml = .ok text ∧ ofToml text = .error (.zero "sweep.expire_after_ms") := by
  intro c text
  have htext : c.toToml = .ok text := by decide +kernel
  have hread := ofToml_of_decodeToml? (decode_of_toToml htext)
  rw [validate_eq_refusal, refusal_truncated] at hread
  exact ⟨rfl, htext, hread⟩

end Config

end Liveness
