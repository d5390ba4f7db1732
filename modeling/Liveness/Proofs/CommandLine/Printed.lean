import Liveness.CommandLine.Run
import Liveness.Proofs.Config.RoundTrip
import Liveness.Proofs.Toml.Comments
import Mathlib.Data.List.TakeWhile

/-!
# The configuration as it is printed

The configuration that is printed is the one that the services are started with, and its
document gives it back.  Above the document stands a comment with the path, as it is: what the
text means depends on what the comment leaves of its line (`printed_config`).  A path of
printable characters does no harm; after a line break in it the rest is taken for lines of the
document, and with any other control character the text is no document.
-/

namespace Liveness

namespace Config

variable {c : Config} {text : String}

theorem isWritable_default : IsWritable {} :=
  ⟨rfl, ⟨5000, by decide, rfl⟩, ⟨1000, by decide, rfl⟩, ⟨10000, by decide, rfl⟩, ⟨5000, by decide, rfl⟩⟩

/-- What is loaded from a file is a configuration that a document can hold. -/
theorem isWritable_of_ofFile {file : FileText} (h : ofFile file = .ok c) : c.IsWritable := by
  cases file with
  | missing =>
    cases h
    exact isWritable_default
  | unreadable => cases h
  | text content =>
    obtain ⟨hdecode, hvalid⟩ := ofToml_eq_ok.mp h
    exact isWritable_of_decodeToml? hdecode hvalid

theorem ofToml_congr {text' : String} (h : Toml.parse? text = Toml.parse? text') : ofToml text = ofToml text' := by
  unfold ofToml decodeToml?
  rw [h]

/-- The document of a configuration gives it back, also under an empty line. -/
theorem IsWritable.reads_back_below (h : c.IsWritable) :
    ∃ document, c.toToml = .ok document ∧ ofToml (String.ofList ('\n' :: document.toList)) = .ok c := by
  obtain ⟨document, ss, hdocument, -, hsays, hbuild⟩ := h.exists_says
  exact ⟨document, hdocument, ofToml_of_says (by simpa using Toml.says_blank hsays) (by simp) hbuild h.valid⟩

end Config

namespace CommandLine

variable {env : Surroundings} {args : List String} {explicit : Option String} {c : Config}

/-- The configuration at a path; without one the defaults hold. -/
def configAt (read : String → FileText) : Option String → Except ConfigError Config
  | some path => Config.ofFile (read path)
  | none => .ok {}

/-- The comment above a configuration that is printed. -/
def heading : Option String → String
  | some path => "# " ++ path ++ "\n"
  | none => "# built-in defaults\n"

theorem path_source (env : Surroundings) (explicit : Option String) :
    (source env explicit).map ConfigSource.path = (explicit <|> env.environment <|> env.standard) := by
  cases explicit with
  | some path => rfl
  | none =>
    obtain ⟨environment, standard, read⟩ := env
    cases environment with
    | some path => rfl
    | none => cases standard <;> rfl

theorem load_eq_configAt (env : Surroundings) (explicit : Option String) :
    Config.load env.read (source env explicit) = configAt env.read (explicit <|> env.environment <|> env.standard) := by
  rw [← path_source]
  cases source env explicit <;> rfl

theorem configText_eq (selected : Option ConfigSource) (document : String) :
    configText selected document = heading (selected.map ConfigSource.path) ++ document := by
  cases selected with
  | none => rfl
  | some s => rfl

theorem run_showConfig (hparse : parse? args = some (.showConfig explicit)) :
    let place := explicit <|> env.environment <|> env.standard
    run env args = match configAt env.read place with
      | .error e => .badConfig e
      | .ok c => match c.toToml with
        | .error e => .badConfig e
        | .ok document => .printed (heading place ++ document) := by
  intro place
  rw [run, hparse]
  simp only [showConfig, load_eq_configAt, configText_eq, path_source]
  rfl

theorem run_of_configAt {document : String} (hparse : parse? args = some (.showConfig explicit))
    (hc : configAt env.read (explicit <|> env.environment <|> env.standard) = .ok c)
    (hdocument : c.toToml = .ok document) :
    run env args = .printed (heading (explicit <|> env.environment <|> env.standard) ++ document) := by
  rw [run_showConfig hparse, hc]
  simp only [hdocument]

theorem isWritable_of_configAt {read : String → FileText} {place : Option String} (h : configAt read place = .ok c) :
    c.IsWritable := by
  cases place with
  | none =>
    cases h
    exact Config.isWritable_default
  | some path => exact Config.isWritable_of_ofFile h

/-- What is started has the configuration that its request selects. -/
theorem config_of_start {request : Request} {s : Start} (hparse : parse? args = some request)
    (h : run env args = .start s) : Config.load env.read (source env request.config?) = .ok s.config := by
  have hbegin : ∀ {explicit simulation}, begin env explicit simulation = .start s →
      Config.load env.read (source env explicit) = .ok s.config := by
    intro explicit simulation h
    unfold begin at h
    split at h
    · cases h
    · rename_i config hload
      split at h
      · cases h
        exact hload
      · cases h
      · cases h
  rw [run, hparse] at h
  cases request with
  | version | help => cases h
  | run config | simulate config plan refusals => exact hbegin h
  | showConfig config =>
    simp only [showConfig] at h
    split at h
    · cases h
    · split at h <;> cases h

/-- A heading is read as what its comment leaves of the line of the path. -/
theorem ofToml_heading {document : String} (hread : Config.ofToml (String.ofList ('\n' :: document.toList)) = .ok c)
    (path : String) :
    Config.ofToml (heading (some path) ++ document) =
      match Toml.lineBreak? (path.toList.dropWhile Toml.isPrintable ++ ['\n']) with
      | some [] => .ok c
      | some lines => Config.ofToml (String.ofList ('\n' :: (lines ++ document.toList)))
      | none => .error .malformed := by
  have htext : heading (some path) ++ document =
      String.ofList ('#' :: ((' ' :: path.toList) ++ '\n' :: document.toList)) := by
    rw [← String.toList_inj]
    simp [heading]
  have hblank : (' ' :: path.toList).dropWhile Toml.isPrintable = path.toList.dropWhile Toml.isPrintable := rfl
  have hparse := Toml.parse?_comment_line (' ' :: path.toList) document.toList
  rw [hblank] at hparse
  rw [htext]
  split
  · rename_i hlines
    rw [hlines] at hparse
    exact (Config.ofToml_congr hparse).trans hread
  · rename_i lines _ hlines
    rw [hlines] at hparse
    exact Config.ofToml_congr hparse
  · rename_i hlines
    rw [hlines] at hparse
    refine Config.ofToml_of_none ?_
    rw [Config.decodeToml?, hparse]
    rfl

theorem ofToml_heading_of_printable {document : String}
    (hread : Config.ofToml (String.ofList ('\n' :: document.toList)) = .ok c) (path : String)
    (h : ∀ ch ∈ path.toList, Toml.isPrintable ch) : Config.ofToml (heading (some path) ++ document) = .ok c := by
  rw [ofToml_heading hread, List.dropWhile_eq_nil_iff.mpr h]
  rfl

theorem ofArgument_config (path : String) : Word.ofArgument ("--config=" ++ path) = .long "config" (some path) := by
  have hlist : ("--config=" ++ path).toList = '-' :: '-' :: ("config".toList ++ '=' :: path.toList) := by
    rw [String.toList_append]
    rfl
  rw [Word.ofArgument, hlist]
  simp [splitEquals]

/-- Any path that is not empty can be given outright. -/
theorem parse?_config (path : String) (h : path ≠ "") :
    parse? ["config", "--config=" ++ path] = some (.showConfig (some path)) := by
  have hword : Word.ofArgument "config" = .plain "config" := rfl
  have hoptions : parseOptions [.config] [] ["--config=" ++ path] = .given [(.config, path)] := by
    simp [parseOptions, ofArgument_config, parseOptions.takeValue, Opt.long, give, Opt.allows, h]
  rw [parse?, hword]
  simp [Verb.ofName?, Verb.options, hoptions, Verb.request]

/-- The request to print a configuration succeeds just if the selected one loads. The path that is given outright
counts, else that of the environment, else the standard one; a file that is not there means the defaults, and
nothing else that is around makes a difference. What is printed is the document of the configuration that the
services would be started with, below a comment. It gives the configuration back if the path has printable
characters only, which includes that there is none. Else it depends on what the comment leaves of the path:
after a line break the rest is read as lines of the document, and anything but a line break makes it malformed. -/
theorem printed_config (env : Surroundings) (hparse : parse? args = some (.showConfig explicit)) :
    let place := explicit <|> env.environment <|> env.standard
    Config.load env.read (source env explicit) = configAt env.read place ∧
    (∀ e, configAt env.read place = .error e → run env args = .badConfig e) ∧
    (∀ c, configAt env.read place = .ok c →
      ∃ document, c.toToml = .ok document ∧ run env args = .printed (heading place ++ document) ∧
        (∀ others request s, parse? others = some request → request.config? = explicit →
          run env others = .start s → s.config = c) ∧
        ((∀ path, place = some path → ∀ ch ∈ path.toList, Toml.isPrintable ch) →
          Config.ofToml (heading place ++ document) = .ok c) ∧
        ∀ path, place = some path → Config.ofToml (heading place ++ document) =
          match Toml.lineBreak? (path.toList.dropWhile Toml.isPrintable ++ ['\n']) with
          | some [] => .ok c
          | some lines => Config.ofToml (String.ofList ('\n' :: (lines ++ document.toList)))
          | none => .error .malformed) ∧
    ∀ env' args' explicit', parse? args' = some (.showConfig explicit') →
      (explicit' <|> env'.environment <|> env'.standard) = place →
      (∀ path, place = some path → env'.read path = env.read path) → run env' args' = run env args := by
  intro place
  refine ⟨load_eq_configAt env explicit, fun e he => ?_, fun c hc => ?_, fun env' args' explicit' hparse' hplace hread => ?_⟩
  · rw [run_showConfig hparse, he]
  · obtain ⟨document, hdocument, hback⟩ := (isWritable_of_configAt hc).reads_back_below
    refine ⟨document, hdocument, run_of_configAt hparse hc hdocument, fun others request s hothers hconfig hstart => ?_,
      fun hprintable => ?_, ?_⟩
    · have hload := config_of_start hothers hstart
      rw [hconfig, load_eq_configAt] at hload
      exact Except.ok.inj (hload.symm.trans hc)
    · cases hplace : place with
      | none => exact ofToml_heading_of_printable hback "built-in defaults" (List.all_eq_true.mp rfl)
      | some path => exact ofToml_heading_of_printable hback path (hprintable path hplace)
    · rintro path hplace
      rw [hplace]
      exact ofToml_heading hback path
  · have hsame : configAt env'.read place = configAt env.read place := by
      cases hplace' : place with
      | none => rfl
      | some path => exact congrArg Config.ofFile (hread path hplace')
    rw [run_showConfig hparse, run_showConfig hparse', hplace, hsame]

/-- A file that is given outright is printed, whatever the environment names. -/
theorem printed_config_of_file :
    let env : Surroundings :=
      { environment := some "b.toml", standard := none,
        read := fun path => if path = "a.toml" then .text "[stats]\ninterval_ms = 7\n" else .unreadable }
    parse? ["config", "--config=a.toml"] = some (.showConfig (some "a.toml")) ∧
      ∃ document, run env ["config", "--config=a.toml"] = .printed ("# a.toml\n" ++ document) ∧
        Config.ofToml ("# a.toml\n" ++ document) = .ok { report := { interval := .ofMillis 7 } } := by
  intro env
  have hparse : parse? ["config", "--config=a.toml"] = some (.showConfig (some "a.toml")) :=
    parse?_config "a.toml" (by decide)
  have hloaded : configAt env.read (some "a.toml") = .ok { report := { interval := .ofMillis 7 } } := by rfl
  obtain ⟨-, -, hprints, -⟩ := printed_config env hparse
  obtain ⟨document, -, hrun, -, hback, -⟩ := hprints _ hloaded
  refine ⟨hparse, document, hrun, hback fun path hpath => ?_⟩
  obtain rfl := Option.some.inj hpath
  exact List.all_eq_true.mp rfl

/-- A path of two lines is printed as it is: what is printed may be no document, or the document of another
configuration than the services are started with. -/
theorem heading_of_two_lines :
    let env (file : FileText) : Surroundings := { environment := none, standard := none, read := fun _ => file }
    (∃ text, run (env .missing) ["config", "--config=a\nb"] = .printed text ∧
        Config.ofToml text = .error .malformed) ∧
      ∃ text, run (env (.text "log_level = 'debug'")) ["config", "--config=a\n[b]"] = .printed text ∧
        Config.ofToml "log_level = 'debug'" = .ok { logLevel := "debug" } ∧ Config.ofToml text = .ok {} := by
  intro env
  have hparse : parse? ["config", "--config=a\nb"] = some (.showConfig (some "a\nb")) :=
    parse?_config "a\nb" (by decide)
  have hparse' : parse? ["config", "--config=a\n[b]"] = some (.showConfig (some "a\n[b]")) :=
    parse?_config "a\n[b]" (by decide)
  have hread : Config.ofToml "log_level = 'debug'" = .ok { logLevel := "debug" } := by rfl
  refine ⟨⟨_, run_of_configAt hparse rfl rfl, ?_⟩, _, run_of_configAt hparse' hread rfl, hread, ?_⟩
  · decide +kernel
  · decide +kernel

end CommandLine

end Liveness
