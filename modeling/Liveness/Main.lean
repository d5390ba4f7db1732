import Liveness.CommandLine.Run

/-! # The program -/

namespace Liveness.Main

/-- Reads a path as text. -/
def readText (path : String) : IO FileText := do
  try
    return FileText.ofBytes (← IO.FS.readBinFile path)
  catch
    | .noFileOrDirectory .. => return .missing
    | _ => return .unreadable

/-- The place of the user's own configuration: below an absolute directory for configurations, or else
below the home directory. -/
def standardPath : IO (Option String) := do
  match ← IO.getEnv "XDG_CONFIG_HOME" with
  | some directory =>
    if directory.startsWith "/" then return some (directory ++ "/devlive/config.toml")
  | none => pure ()
  return (← IO.getEnv "HOME").map (· ++ "/.config/devlive/config.toml")

/-- What the program finds around it, as far as a request needs it. -/
def surroundings (request : Option CommandLine.Request) : IO CommandLine.Surroundings := do
  let environment ← IO.getEnv "DEVLIVE_CONFIG"
  let standard ← standardPath
  let content ← match ConfigSource.select (request.bind (·.config?)) environment standard with
    | some source => readText source.path
    | none => pure .missing
  return { environment, standard, read := fun _ => content }

/-- Lets the services run for ever in real time. -/
partial def serve (start : Nat) (s : Station) : IO Unit := do
  let (happenings, s) := s.takeTrace
  for h in happenings do
    if let some line := h.logText? then IO.println line
  (← IO.getStdout).flush
  let now ← IO.monoNanosNow
  let wake := (s.agenda.nextWake.getD (s.now + 1000000000)).toNat
  let pause := (start + wake - now + 999999) / 1000000
  if 0 < pause then IO.sleep pause.toUInt32
  let now ← IO.monoNanosNow
  serve start (s.advance ⟨now - start - s.now.toNat⟩)

end Liveness.Main

open Liveness in
def main (args : List String) : IO UInt32 := do
  let env ← Main.surroundings (CommandLine.parse? args)
  let outcome := CommandLine.run env args
  IO.print outcome.stdout
  IO.eprint outcome.stderr
  if let .start s := outcome then
    Main.serve (← IO.monoNanosNow) (.ofConfig s.config s.simulation)
  return outcome.code.toUInt32
