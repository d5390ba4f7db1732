import Liveness.Toml.Text

/-! # Numbers and dates of a TOML document -/

namespace Liveness.Toml

def isHexDigit (c : Char) : Bool := (hexValue? c).isSome
def isOctalDigit (c : Char) : Bool := '0' ≤ c && c ≤ '7'
def isBinaryDigit (c : Char) : Bool := c == '0' || c == '1'

/-- Digits after the first one, with single underscores between them. -/
def moreDigits (isDigit : Char → Bool) : Reader (List Char)
  | '_' :: c :: cs => if isDigit c then push [c] (moreDigits isDigit cs) else none
  | ['_'] => none
  | c :: cs => if isDigit c then push [c] (moreDigits isDigit cs) else some ([], c :: cs)
  | [] => some ([], [])

/-- One digit and more. -/
def digits (isDigit : Char → Bool) : Reader (List Char)
  | c :: cs => if isDigit c then push [c] (moreDigits isDigit cs) else none
  | [] => none

/-- Decimal digits where a leading zero stands alone. -/
def wholeDigits : Reader (List Char)
  | '0' :: cs => some (['0'], cs)
  | cs => digits isDigit cs

def digitsValue (base : Nat) (ds : List Char) : Nat :=
  ds.foldl (fun n d => n * base + (hexValue? d).getD 0) 0

/-- Integers have 64 bits and a sign. -/
def integer? (n : Int) : Option Value :=
  if -9223372036854775808 ≤ n ∧ n ≤ 9223372036854775807 then some (.integer n) else none

/-- Whether `m * 10 ^ e` rounds to infinity as a double: `2 ^ 1024 - 2 ^ 970` is the least that does. -/
def overflowsDouble (m : Nat) (e : Int) : Bool :=
  let limit := Nat.pow 2 1024 - Nat.pow 2 970
  let size := (toString m).length
  if m = 0 || e + size < 300 then false
  else if 310 < e + size then true
  else if 0 ≤ e then limit ≤ m * Nat.pow 10 e.toNat
  else limit * Nat.pow 10 (-e).toNat ≤ m

/-- The digits after a decimal point, when there is one. -/
def fraction : Reader (Option (List Char))
  | '.' :: cs => (digits isDigit cs).map fun (ds, rest) => (some ds, rest)
  | cs => some (none, cs)

/-- A sign, where a minus counts as true. -/
def sign : List Char → Option Bool × List Char
  | '+' :: cs => (some false, cs)
  | '-' :: cs => (some true, cs)
  | cs => (none, cs)

/-- The number after an exponent mark, when there is one. -/
def exponent : Reader (Option Int)
  | c :: cs =>
    if c = 'e' || c = 'E' then
      let (minus, cs) := sign cs
      (digits isDigit cs).map fun (ds, rest) =>
        let n := digitsValue 10 ds
        (some (if minus == some true then -n else n), rest)
    else some (none, c :: cs)
  | [] => some (none, [])

/-- A decimal integer, or a float: a float that rounds to positive infinity is refused. -/
def decimal (minus : Bool) : Reader Value := fun cs => do
  let (whole, cs) ← wholeDigits cs
  let (fractional, cs) ← fraction cs
  let (power, cs) ← exponent cs
  match fractional, power with
  | none, none =>
    let n : Int := digitsValue 10 whole
    let v ← integer? (if minus then -n else n)
    some (v, cs)
  | _, _ =>
    let places := fractional.getD []
    if !minus && overflowsDouble (digitsValue 10 (whole ++ places)) (power.getD 0 - places.length)
    then none
    else some (.float, cs)

/-- A number in another base, after its mark. -/
def based (base : Nat) (isDigit : Char → Bool) : Reader Value := fun cs => do
  let (ds, cs) ← digits isDigit cs
  let v ← integer? (digitsValue base ds)
  some (v, cs)

/-- A number after its sign. -/
def magnitude (minus : Bool) : Reader Value
  | 'i' :: 'n' :: 'f' :: cs => some (.float, cs)
  | 'n' :: 'a' :: 'n' :: cs => some (.float, cs)
  | cs => decimal minus cs

/-- Exactly so many digits, as a number. -/
def fixedDigits (n : Nat) : Reader Nat := fun cs =>
  let ds := cs.take n
  if ds.length = n ∧ ds.all isDigit then some (digitsValue 10 ds, cs.drop n) else none

/-- A fixed-width number in a range. -/
def field (width low high : Nat) : Reader Nat := fun cs => do
  let (n, cs) ← fixedDigits width cs
  if low ≤ n ∧ n ≤ high then some (n, cs) else none

/-- One given character. -/
def char (c : Char) : List Char → Option (List Char)
  | d :: cs => if d = c then some cs else none
  | [] => none

def daysIn (year month : Nat) : Nat :=
  if month = 2 then
    if year % 4 = 0 ∧ (year % 100 ≠ 0 ∨ year % 400 = 0) then 29 else 28
  else if month = 4 ∨ month = 6 ∨ month = 9 ∨ month = 11 then 30
  else 31

/-- The month and day after a year and its hyphen. -/
def monthAndDay (year : Nat) (cs : List Char) : Option (List Char) := do
  let (month, cs) ← field 2 1 12 cs
  let cs ← char '-' cs
  let (_, cs) ← field 2 1 (daysIn year month) cs
  some cs

/-- The minute, second and fraction after an hour and its colon. -/
def minuteAndSecond (cs : List Char) : Option (List Char) := do
  let (_, cs) ← field 2 0 59 cs
  let cs ← char ':' cs
  let (_, cs) ← field 2 0 60 cs
  match cs with
  | '.' :: d :: more => if isDigit d then some (more.dropWhile isDigit) else some cs
  | _ => some cs

/-- An hour and a colon, which only a time of day starts with. -/
def hour? (cs : List Char) : Option (List Char) := do
  let (_, cs) ← field 2 0 23 cs
  char ':' cs

/-- An offset from universal time, when there is one. -/
def offset (cs : List Char) : Option (List Char) :=
  match cs with
  | c :: more =>
    if c = 'Z' || c = 'z' then some more
    else if c = '+' || c = '-' then do
      let rest ← hour? more
      let (_, rest) ← field 2 0 59 rest
      some rest
    else some cs
  | [] => some []

/-- A time of day after a date, when there is one. -/
def timeAfterDate (cs : List Char) : Option (List Char) :=
  match cs with
  | c :: more =>
    if c = 'T' || c = 't' || c = ' ' then
      match hour? more with
      | some rest => (minuteAndSecond rest).bind offset
      | none => some cs
    else some cs
  | [] => some []

/-- A year and a hyphen, which only a date starts with. -/
def year? (cs : List Char) : Option (Nat × List Char) := do
  let (year, cs) ← fixedDigits 4 cs
  let cs ← char '-' cs
  some (year, cs)

/-- A date, a time of day or a number; what starts like one of the first two must be one. -/
def dateOrNumber (cs : List Char) : Option (Value × List Char) :=
  match year? cs with
  | some (year, rest) =>
    ((monthAndDay year rest).bind timeAfterDate).map fun rest => (.datetime, rest)
  | none =>
    match hour? cs with
    | some rest => (minuteAndSecond rest).map fun rest => (.datetime, rest)
    | none =>
      match cs with
      | '0' :: 'x' :: rest => based 16 isHexDigit rest
      | '0' :: 'o' :: rest => based 8 isOctalDigit rest
      | '0' :: 'b' :: rest => based 2 isBinaryDigit rest
      | _ =>
        let (minus, rest) := sign cs
        if minus.isSome then magnitude (minus == some true) rest else decimal false cs

end Liveness.Toml
