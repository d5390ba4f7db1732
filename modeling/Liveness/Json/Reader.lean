import Liveness.Json.Value

/-! # Reading JSON text -/

namespace Liveness.Json

/-- A reader takes a value off the front of a text. -/
abbrev Reader (α : Type) := List Char → Option (α × List Char)

def isBlank (c : Char) : Bool := c == ' ' || c == '\n' || c == '\t' || c == '\r'

def skipBlanks (cs : List Char) : List Char := cs.dropWhile isBlank

def hexValue? (c : Char) : Option Nat :=
  if '0' ≤ c && c ≤ '9' then some (c.toNat - 48)
  else if 'a' ≤ c && c ≤ 'f' then some (c.toNat - 87)
  else if 'A' ≤ c && c ≤ 'F' then some (c.toNat - 55)
  else none

/-- What the reader of a string expects next. -/
inductive StringMode where
  | plain
  | escaped
  /-- Digits of a code unit are still to come. -/
  | unit (left value : Nat)

/-- The character that a one-letter escape stands for. -/
def escapeChar? : Char → Option Nat
  | '\x22' => some 0x22
  | '\\' => some 0x5c
  | '/' => some 0x2f
  | 'b' => some 0x08
  | 'f' => some 0x0c
  | 'n' => some 0x0a
  | 'r' => some 0x0d
  | 't' => some 0x09
  | _ => none

/-- The code points and escaped code units of a string, up to its closing quote. -/
def units : StringMode → Reader (List Nat)
  | _, [] => none
  | .plain, c :: cs =>
    if c = '\x22' then some ([], cs)
    else if c = '\\' then units .escaped cs
    else if c.toNat < 32 then none
    else (units .plain cs).map fun (us, rest) => (c.toNat :: us, rest)
  | .escaped, c :: cs =>
    if c = 'u' then units (.unit 3 0) cs
    else match escapeChar? c with
      | some u => (units .plain cs).map fun (us, rest) => (u :: us, rest)
      | none => none
  | .unit left value, c :: cs =>
    match hexValue? c, left with
    | none, _ => none
    | some d, 0 => (units .plain cs).map fun (us, rest) => ((value * 16 + d) :: us, rest)
    | some d, n + 1 => units (.unit n (value * 16 + d)) cs

def isHighHalf (u : Nat) : Bool := 0xd800 ≤ u && u < 0xdc00
def isLowHalf (u : Nat) : Bool := 0xdc00 ≤ u && u < 0xe000

/-- Joins surrogate pairs; a half without its partner makes the string no text. -/
def joinHalves : List Nat → Option (List Char)
  | [] => some []
  | u :: us =>
    if isHighHalf u then
      match us with
      | v :: rest =>
        if isLowHalf v then
          (joinHalves rest).map (Char.ofNat (0x10000 + (u - 0xd800) * 0x400 + (v - 0xdc00)) :: ·)
        else none
      | [] => none
    else if isLowHalf u then none
    else (joinHalves us).map (Char.ofNat u :: ·)

/-- A string after its opening quote, `none` inside when it is no text. -/
def stringBody : Reader (Option String) := fun cs =>
  (units .plain cs).map fun (us, rest) => ((joinHalves us).map String.ofList, rest)

def isDigit (c : Char) : Bool := '0' ≤ c && c ≤ '9'

def digitsValue (ds : List Char) : Nat := ds.foldl (fun n d => n * 10 + (d.toNat - 48)) 0

/-- At least one digit and all that follow. -/
def digits : Reader (List Char) := fun cs =>
  match cs.takeWhile isDigit with
  | [] => none
  | ds => some (ds, cs.dropWhile isDigit)

/-- The digits before the point: a zero stands alone. -/
def wholeDigits : Reader (List Char)
  | '0' :: c :: cs => if isDigit c then none else some (['0'], c :: cs)
  | cs => digits cs

/-- Skips a fraction; says whether there was one. -/
def fraction : Reader Bool
  | '.' :: cs => (digits cs).map fun (_, rest) => (true, rest)
  | cs => some (false, cs)

/-- Skips an exponent; says whether there was one. -/
def exponent : Reader Bool
  | c :: cs =>
    if c = 'e' || c = 'E' then
      let cs := match cs with
        | s :: more => if s = '+' || s = '-' then more else cs
        | [] => cs
      (digits cs).map fun (_, rest) => (true, rest)
    else some (false, c :: cs)
  | [] => some (false, [])

/-- A number without its sign. -/
def magnitude (negative : Bool) : Reader Json := fun cs => do
  let (ds, cs) ← wholeDigits cs
  let (hasFraction, cs) ← fraction cs
  let (hasExponent, cs) ← exponent cs
  let n := digitsValue ds
  if hasFraction || hasExponent || (negative && n == 0) then some (.decimal, cs)
  else some (.int (if negative then -n else n), cs)

def number : Reader Json
  | '-' :: cs => magnitude true cs
  | cs => magnitude false cs

/-- Items between commas up to a closing bracket; the fuel bounds their number. -/
def itemsUntil {α : Type} (close : Char) (item : Reader α) : Nat → Reader (List α)
  | 0, _ => none
  | n + 1, cs => do
    let (v, cs) ← item (skipBlanks cs)
    match skipBlanks cs with
    | c :: rest =>
      if c = close then some ([v], rest)
      else if c = ',' then
        let (vs, rest) ← itemsUntil close item n rest
        some (v :: vs, rest)
      else none
    | [] => none

/-- As `itemsUntil`, but there may be no item at all. -/
def bracketed {α : Type} (close : Char) (item : Reader α) (fuel : Nat) : Reader (List α) :=
  fun cs => match skipBlanks cs with
    | c :: rest => if c = close then some ([], rest) else itemsUntil close item fuel (c :: rest)
    | [] => none

/-- A name, a colon and a value. -/
def member (value : Reader Json) : Reader (Option String × Json)
  | '\x22' :: cs => do
    let (name, cs) ← stringBody cs
    match skipBlanks cs with
    | ':' :: cs =>
      let (v, cs) ← value (skipBlanks cs)
      some ((name, v), cs)
    | _ => none
  | _ => none

/-- An object of its members, or no text when a name is none. -/
def ofMembers (ms : List (Option String × Json)) : Json :=
  match ms.mapM fun (name, v) => name.map (·, v) with
  | some ms => .object ms
  | none => .illFormed

/-- One value at the front of a text; the fuel bounds the nesting and the number of items. -/
def value : Nat → Reader Json
  | 0, _ => none
  | n + 1, cs =>
    match cs with
    | 'n' :: 'u' :: 'l' :: 'l' :: rest => some (.null, rest)
    | 't' :: 'r' :: 'u' :: 'e' :: rest => some (.bool true, rest)
    | 'f' :: 'a' :: 'l' :: 's' :: 'e' :: rest => some (.bool false, rest)
    | '\x22' :: rest => (stringBody rest).map fun (s, rest) => ((s.map string).getD illFormed, rest)
    | '[' :: rest => (bracketed ']' (value n) n rest).map fun (vs, rest) => (.array vs, rest)
    | '\x7b' :: rest =>
      (bracketed '\x7d' (member (value n)) n rest).map fun (ms, rest) => (ofMembers ms, rest)
    | cs => number cs

/-- The value that a whole text writes. -/
def parse? (text : String) : Option Json :=
  let cs := text.toList
  match value (cs.length + 1) (skipBlanks cs) with
  | some (v, rest) => if (skipBlanks rest).isEmpty then some v else none
  | none => none

end Liveness.Json
