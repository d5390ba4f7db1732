import Liveness.Config.Decode

/-! # Finding and loading the configuration file -/

namespace Liveness

/-- What reading a path as text gives. -/
inductive FileText where
  | missing
  | unreadable
  | text (content : String)
deriving DecidableEq, Repr

/-- Bytes are text when they are valid UTF-8. -/
def FileText.ofBytes (bytes : ByteArray) : FileText :=
  match String.fromUTF8? bytes with
  | some s => .text s
  | none => .unreadable

/-- The place where the configuration file is named. -/
inductive ConfigSource where
  | explicit (path : String)
  | environment (path : String)
  | standard (path : String)
deriving DecidableEq, Repr

namespace ConfigSource

def path : ConfigSource → String
  | .explicit p | .environment p | .standard p => p

/-- A path given outright wins over the environment, which wins over the standard place. -/
def select (explicit environment standard : Option String) : Option ConfigSource :=
  explicit.map .explicit <|> environment.map .environment <|> standard.map .standard

end ConfigSource

namespace Config

/-- A file that is not there means the defaults. -/
def ofFile : FileText → Except ConfigError Config
  | .missing => .ok {}
  | .unreadable => .error .unreadable
  | .text content => ofToml content

/-- Loads the file that a source names; without a source the defaults hold. -/
def load (read : String → FileText) : Option ConfigSource → Except ConfigError Config
  | some source => ofFile (read source.path)
  | none => .ok {}

end Config

end Liveness
