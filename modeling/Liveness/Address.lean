/-! # Socket addresses and their text -/

namespace Liveness

/-- The address of a socket: an internet host and a number there. -/
inductive Address where
  | v4 (octets : List Nat) (portNumber : Nat)
  /-- Eight groups of sixteen bits, and a scope that is written only when it is not zero. -/
  | v6 (groups : List Nat) (scope portNumber : Nat)
deriving DecidableEq, Repr

namespace Address

/-- The host of an address within this machine. -/
def loopback (portNumber : Nat) : Address := .v4 [127, 0, 0, 1] portNumber

def dotted (octets : List Nat) : String := ".".intercalate (octets.map toString)

/-- The lower-case hexadecimal text of a group. -/
def groupText (n : Nat) : String := String.ofList (Nat.toDigits 16 n)

def groupsText (gs : List Nat) : String := ":".intercalate (gs.map groupText)

/-- Start and length of the first longest run of zeros; `here` is the run that ends just before. -/
def longestZeros : List Nat → (index : Nat) → (here best : Nat × Nat) → Nat × Nat
  | [], _, _, best => best
  | g :: gs, i, here, best =>
    if g = 0 then
      let here := if here.2 = 0 then (i, 1) else (here.1, here.2 + 1)
      longestZeros gs (i + 1) here (if best.2 < here.2 then here else best)
    else longestZeros gs (i + 1) (0, 0) best

/-- The text of eight groups: an embedded address of the older kind keeps its dots, and the first
longest run of at least two zeros is left out. -/
def hostText : List Nat → String
  | [0, 0, 0, 0, 0, 0xffff, a, b] => "::ffff:" ++ dotted [a / 256, a % 256, b / 256, b % 256]
  | gs =>
    let (start, length) := longestZeros gs 0 (0, 0) (0, 0)
    if 1 < length then groupsText (gs.take start) ++ "::" ++ groupsText (gs.drop (start + length))
    else groupsText gs

def text : Address → String
  | .v4 octets portNumber => s!"{dotted octets}:{portNumber}"
  | .v6 groups scope portNumber =>
    let zone := if scope = 0 then "" else s!"%{scope}"
    "[" ++ hostText groups ++ zone ++ s!"]:{portNumber}"

/-- The value of a digit in a base up to sixteen. -/
def digit? (base : Nat) (c : Char) : Option Nat :=
  let n :=
    if '0' ≤ c && c ≤ '9' then c.toNat - 48
    else if 'a' ≤ c && c ≤ 'f' then c.toNat - 87
    else if 'A' ≤ c && c ≤ 'F' then c.toNat - 55
    else base
  if n < base then some n else none

/-- A number of at least one digit and at most so many, below a limit. -/
def number (base limit : Nat) (width : Option Nat) (cs : List Char) : Option (Nat × List Char) :=
  let ds := cs.takeWhile fun c => (digit? base c).isSome
  let n := ds.foldl (fun n c => n * base + (digit? base c).getD 0) 0
  let fits := match width with
    | some w => ds.length ≤ w
    | none => true
  if ds.isEmpty || !fits || limit ≤ n then none else some (n, cs.drop ds.length)

def char (c : Char) : List Char → Option (List Char)
  | d :: cs => if d = c then some cs else none
  | [] => none

/-- A byte in decimal without leading zeros. -/
def octet (cs : List Char) : Option (Nat × List Char) :=
  match cs with
  | '0' :: c :: _ => if (digit? 10 c).isSome then none else number 10 256 (some 3) cs
  | _ => number 10 256 (some 3) cs

/-- Four bytes with dots between them. -/
def octets (cs : List Char) : Option (List Nat × List Char) := do
  let (a, cs) ← octet cs
  let (b, cs) ← octet (← char '.' cs)
  let (c, cs) ← octet (← char '.' cs)
  let (d, cs) ← octet (← char '.' cs)
  some ([a, b, c, d], cs)

/-- Groups with colons between them, at most `limit`; the last two may be four bytes with dots,
which the flag reports. -/
def groups : (limit : Nat) → (first : Bool) → List Char → List Nat × Bool × List Char
  | 0, _, cs => ([], false, cs)
  | limit + 1, first, cs =>
    let body := if first then some cs else char ':' cs
    let embedded := if limit = 0 then none else body.bind octets
    match embedded with
    | some ([a, b, c, d], rest) => ([a * 256 + b, c * 256 + d], true, rest)
    | _ =>
      match body.bind (number 16 0x10000 (some 4)) with
      | some (g, rest) =>
        let (gs, dots, rest) := groups limit false rest
        (g :: gs, dots, rest)
      | none => ([], false, cs)

/-- Eight groups, where a doubled colon stands for at least one zero. -/
def host (cs : List Char) : Option (List Nat × List Char) := do
  let (front, dots, cs) := groups 8 true cs
  if front.length = 8 then some (front, cs)
  else if dots then none
  else
    let cs ← char ':' (← char ':' cs)
    let (back, _, cs) := groups (7 - front.length) true cs
    some (front ++ List.replicate (8 - front.length - back.length) 0 ++ back, cs)

def portNumber (cs : List Char) : Option Nat := do
  let (n, rest) ← number 10 0x10000 none (← char ':' cs)
  if rest.isEmpty then some n else none

/-- The address that a text writes. -/
def parse? (s : String) : Option Address :=
  match s.toList with
  | '[' :: cs => do
    let (gs, cs) ← host cs
    let (scope, cs) ← match cs with
      | '%' :: more => number 10 0x100000000 none more
      | _ => some (0, cs)
    let p ← portNumber (← char ']' cs)
    some (.v6 gs scope p)
  | cs => do
    let (os, cs) ← octets cs
    let p ← portNumber cs
    some (.v4 os p)

end Address

end Liveness
