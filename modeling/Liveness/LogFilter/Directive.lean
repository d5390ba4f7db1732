import Liveness.LogFilter.Pattern
import Liveness.Text.Alphanumeric

/-! # Filters for log lines

A filter is a list of directives. A directive names a target, spans of it between brackets with fields between braces, and a level. It
is read without the white space around it, but its parts are cut out of the text with that space, at
the places counted without it. So white space in front shifts what the parts are, and when a cut falls
within a character reading breaks down.
-/

namespace Liveness.LogFilter

/-- A level is a name in any case, a number up to five, or nothing. -/
def isLevel (cs : List Char) : Bool :=
  ["", "off", "error", "warn", "info", "debug", "trace"].contains
    (String.ofList (cs.map Char.toLower)) || isNumber cs
where
  /-- A number up to five, possibly after a plus sign and zeros. -/
  isNumber : List Char → Bool
    | '+' :: cs => isSmall cs
    | cs => isSmall cs
  isSmall (cs : List Char) : Bool :=
    !cs.isEmpty && cs.all Char.isDigit && (cs.foldl (fun n c => n * 10 + (c.toNat - 48)) 0 ≤ 5)

/-- Why a directive cannot be used. -/
inductive Fault where
  | refused
  /-- A cut falls within a character. -/
  | broken
deriving DecidableEq, Repr

/-- The part of a directive that is being read, and the place where it began. -/
inductive Part where
  | start
  | target
  | span (first : Nat)
  | field (first : Nat)
  | fieldEnd
  | spanEnd
  | level (first : Nat)
deriving DecidableEq, Repr

def cut (cs : List Char) (start stop : Nat) : Except Fault (List Char) :=
  match cut? start stop cs with
  | some part => .ok part
  | none => .error .broken

/-- A field has a name, and a value after an equals sign up to another one. -/
def isField (cs : List Char) : Bool :=
  !cs.isEmpty &&
    match cs.dropWhile (· != '=') with
    | [] => true
    | _ :: value => Pattern.isValue (value.takeWhile (· != '='))

namespace Part

/-- Reads one character, at its place, of the directive in the text. -/
def next (text : List Char) (place : Nat) (c : Char) : Part → Except Fault Part
  | .start =>
    if c = '[' then .ok (.span (place + 1))
    else if ['-', ':', '_'].contains c || isAlphanumeric c then .ok .target
    else .error .refused
  | .target =>
    if c = '=' then (cut text 0 place).map fun _ => .level (place + 1)
    else if c = '[' then (cut text 0 place).map fun _ => .span (place + 1)
    else .ok .target
  | .span first =>
    if c = ']' then (cut text first place).map fun _ => .spanEnd
    else if c = '{' then (cut text first place).map fun _ => .field (place + 1)
    else .ok (.span first)
  | .field first =>
    if c = '}' then do
      let field ← cut text first place
      if isField field then .ok .fieldEnd else .error .refused
    else .ok (.field first)
  | .fieldEnd => if c = ']' then .ok .spanEnd else .error .refused
  | .spanEnd => if c = '=' then .ok (.level (place + 1)) else .error .refused
  | .level first => .ok (.level first)

/-- The end of the directive. The level is what is left of the text. -/
def finish (text : List Char) : Part → Except Fault Unit
  | .target | .spanEnd => .ok ()
  | .level first => do
    let level ← cut text first (byteLength text)
    if isLevel level then .ok () else .error .refused
  | _ => .error .refused

/-- Reads the rest of the directive in the text from a place on. -/
def readAll (text : List Char) : Nat → Part → List Char → Except Fault Unit
  | _, part, [] => part.finish text
  | place, part, c :: cs => do
    let part ← part.next text place c
    readAll text (place + c.utf8Size) part cs

end Part

/-- Whether a text is a directive. -/
def readDirective (text : List Char) : Except Fault Unit :=
  Part.start.readAll text 0 (trimBlanks text)

/-- Whether a filter can be used: each text between its commas is empty or a directive. The first one
that is neither decides. -/
def check (filter : String) : Except Fault Unit :=
  ((filter.splitOn ",").filter (· != "")).forM fun directive => readDirective directive.toList

/-- The filter that gives the program and its library one level. -/
def forLevel (level : String) : String := s!"devlived={level},devlive_core={level}"

end Liveness.LogFilter
