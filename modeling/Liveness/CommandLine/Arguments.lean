import Liveness.Config.Basic

/-! # Command-line arguments -/

namespace Liveness.CommandLine

/-- What the user asks the program to do. -/
inductive Request where
  | version
  | help
  | run (config : Option String)
  | simulate (config : Option String) (plan : SimulationPlan) (refusals : Nat)
  | showConfig (config : Option String)
deriving DecidableEq, Repr

/-- The path of a configuration that a request gives outright. -/
def Request.config? : Request → Option String
  | .run config | .simulate config _ _ | .showConfig config => config
  | .version | .help => none

/-- An option that takes a value. -/
inductive Opt where
  | config
  | devices
  | silent
  | connectFailures
deriving DecidableEq, Repr

namespace Opt

def long : Opt → String
  | .config => "config"
  | .devices => "devices"
  | .silent => "silent"
  | .connectFailures => "connect-failures"

def short? : Opt → Option Char
  | .config => some 'c'
  | _ => none

/-- A path must not be empty, and a count is a word, possibly after a plus sign. -/
def allows (o : Opt) (v : String) : Bool :=
  match o with
  | .config => v != ""
  | _ =>
    let ds := match v.toList with
      | '+' :: cs => cs
      | cs => cs
    !ds.isEmpty && ds.all Char.isDigit &&
      ds.foldl (fun n c => n * 10 + (c.toNat - 48)) 0 ≤ wordMax

end Opt

/-- A subcommand that does something. -/
inductive Verb where
  | run
  | simulate
  | config
deriving DecidableEq, Repr

namespace Verb

def ofName? : String → Option Verb
  | "run" => some .run
  | "simulate" => some .simulate
  | "config" => some .config
  | _ => none

def options : Verb → List Opt
  | .simulate => [.config, .devices, .silent, .connectFailures]
  | _ => [.config]

end Verb

/-- How an argument reads. -/
inductive Word where
  /-- Two hyphens alone: what follows is no option. -/
  | escape
  /-- A long option and what stands after its equals sign. -/
  | long (name : String) (value : Option String)
  /-- Letters after a single hyphen. -/
  | short (letters : List Char)
  | plain (text : String)

/-- What stands before and after the first equals sign. -/
def splitEquals (cs : List Char) : String × Option String :=
  let name := String.ofList (cs.takeWhile (· != '='))
  match cs.dropWhile (· != '=') with
  | [] => (name, none)
  | _ :: value => (name, some (String.ofList value))

def Word.ofArgument (arg : String) : Word :=
  match arg.toList with
  | ['-', '-'] => .escape
  | '-' :: '-' :: cs => let (name, value) := splitEquals cs; .long name value
  | '-' :: c :: cs => .short (c :: cs)
  | _ => .plain arg

/-- Values given so far, in order. -/
abbrev Given := List (Opt × String)

/-- Takes a value for an option; twice, or one it does not allow, is an error. -/
def give (given : Given) (o : Opt) (v : String) : Option Given :=
  if (given.lookup o).isSome || !o.allows v then none else some (given ++ [(o, v)])

/-- What came of reading arguments. -/
inductive Parsed where
  | misuse
  | help
  | given (values : Given)

/-- Reads the options of a subcommand; it takes no other arguments. -/
def parseOptions (known : List Opt) (given : Given) : List String → Parsed
  | [] => .given given
  | arg :: rest =>
    match Word.ofArgument arg with
    | .escape => if rest.isEmpty then .given given else .misuse
    | .plain _ => .misuse
    | .long name value =>
      if name = "help" then
        if value.isNone then .help else .misuse
      else takeValue (known.find? (·.long == name)) value rest
    | .short ('h' :: _) => .help
    | .short (c :: cs) =>
      let attached := match cs with
        | [] => none
        | '=' :: v => some (String.ofList v)
        | v => some (String.ofList v)
      takeValue (known.find? (·.short? == some c)) attached rest
    | .short [] => .misuse
where
  /-- An option's value is attached, or it is the next argument unless that reads as an option. -/
  takeValue (o : Option Opt) (attached : Option String) : List String → Parsed
    | [] =>
      match o, attached with
      | some o, some v => ((give given o v).map .given).getD .misuse
      | _, _ => .misuse
    | next :: rest =>
      match o, attached with
      | none, _ => .misuse
      | some o, some v =>
        match give given o v with
        | some given => parseOptions known given (next :: rest)
        | none => .misuse
      | some o, none =>
        match Word.ofArgument next with
        | .plain v =>
          match give given o v with
          | some given => parseOptions known given rest
          | none => .misuse
        | _ => .misuse

def count (given : Given) (o : Opt) (default : Nat) : Nat :=
  match given.lookup o with
  | some v =>
    (v.toList.filter (· != '+')).foldl (fun n c => n * 10 + (c.toNat - 48)) 0
  | none => default

def Verb.request (given : Given) : Verb → Request
  | .run => .run (given.lookup .config)
  | .config => .showConfig (given.lookup .config)
  | .simulate =>
    let plan : SimulationPlan := {}
    .simulate (given.lookup .config)
      { plan with
        devices := count given .devices plan.devices
        silent := count given .silent plan.silent }
      (count given .connectFailures 3)

/-- The request that all arguments together make; none is a misuse. -/
def parse? : List String → Option Request
  | [] => some (.run none)
  | arg :: rest =>
    match Word.ofArgument arg with
    | .escape => if rest.isEmpty then some (.run none) else none
    | .long "version" none => some .version
    | .long "help" none => some .help
    | .short ('V' :: _) => some .version
    | .short ('h' :: _) => some .help
    | .plain "help" => help rest
    | .plain name =>
      match Verb.ofName? name with
      | some verb =>
        match parseOptions verb.options [] rest with
        | .given values => some (verb.request values)
        | .help => some .help
        | .misuse => none
      | none => none
    | _ => none
where
  /-- Help may be asked for one subcommand by name. -/
  help : List String → Option Request
    | [] => some .help
    | [name] => if name = "help" || (Verb.ofName? name).isSome then some .help else none
    | _ => none

end Liveness.CommandLine
