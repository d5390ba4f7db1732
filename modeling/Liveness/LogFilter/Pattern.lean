/-! # Patterns for the values of fields

The value that a directive asks of a field is a number or a regular expression. A comma ends the
directive and a closing brace the field, so neither occurs in an expression and no count of
repetitions can be closed. Classes by property, word boundaries and matching without regard to case
are not supported.
-/

namespace Liveness.LogFilter.Pattern

def hexDigit? (c : Char) : Option Nat :=
  if c.isDigit then some (c.toNat - '0'.toNat)
  else if 'a' ≤ c && c ≤ 'f' then some (c.toNat - 'a'.toNat + 10)
  else if 'A' ≤ c && c ≤ 'F' then some (c.toNat - 'A'.toNat + 10)
  else none

/-- The character with a number of so many hexadecimal digits, and the rest. -/
def numbered? (digits : Nat) (cs : List Char) : Option (Char × List Char) :=
  if cs.length < digits then none
  else
    match (cs.take digits).mapM hexDigit? with
    | none => none
    | some ds =>
      let n := ds.foldl (fun n d => n * 16 + d) 0
      if n.isValidChar then some (Char.ofNat n, cs.drop digits) else none

/-- The character that stands behind a backslash, and the rest. -/
def escaped? : List Char → Option (Char × List Char)
  | [] => none
  | 'a' :: cs => some ('\x07', cs)
  | 'f' :: cs => some ('\x0c', cs)
  | 't' :: cs => some ('\t', cs)
  | 'n' :: cs => some ('\n', cs)
  | 'r' :: cs => some ('\r', cs)
  | 'v' :: cs => some ('\x0b', cs)
  | 'x' :: cs => numbered? 2 cs
  | 'u' :: cs => numbered? 4 cs
  | 'U' :: cs => numbered? 8 cs
  | c :: cs =>
    if c.toNat < 128 && !c.isAlphanum && c != '<' && c != '>' then some (c, cs) else none

/-- The rest after an escape outside of brackets, which may also stand for an end of the text. -/
def afterEscape? : List Char → Option (List Char)
  | 'A' :: cs | 'z' :: cs => some cs
  | cs => (escaped? cs).map (·.2)

/-- A member of a class: a character or an escape. -/
def member? : List Char → Option (Char × List Char)
  | [] => none
  | '\\' :: cs => escaped? cs
  | c :: cs => some (c, cs)

def classNames : List String :=
  ["alnum", "alpha", "ascii", "blank", "cntrl", "digit", "graph", "lower", "print", "punct", "space",
    "upper", "word", "xdigit"]

/-- The rest after the name of a class between colons. -/
def afterNamedClass? (cs : List Char) : Option (List Char) :=
  let cs := if cs.head? = some '^' then cs.drop 1 else cs
  let (name, rest) := cs.span (· != ':')
  match rest with
  | ':' :: ']' :: rest => if classNames.contains (String.ofList name) then some rest else none
  | _ => none

/-- The start of a class: it may be negated, and dashes or a closing bracket there mean themselves. -/
def classStart (cs : List Char) : List Char :=
  let cs := if cs.head? = some '^' then cs.drop 1 else cs
  match cs with
  | ']' :: cs => cs
  | cs => cs.dropWhile (· == '-')

/-- The rest after the members of a class, which may hold classes. -/
def afterClass? : Nat → Nat → List Char → Option (List Char)
  | 0, _, _ => none
  | _ + 1, _, [] => none
  | _ + 1, 0, ']' :: cs => some cs
  | fuel + 1, depth + 1, ']' :: cs => afterClass? fuel depth cs
  | fuel + 1, depth, '[' :: cs =>
    match cs with
    | ':' :: named =>
      match afterNamedClass? named with
      | some rest => afterClass? fuel depth rest
      | none => afterClass? fuel (depth + 1) (classStart cs)
    | _ => afterClass? fuel (depth + 1) (classStart cs)
  | fuel + 1, depth, '&' :: '&' :: cs => afterClass? fuel depth cs
  | fuel + 1, depth, '-' :: '-' :: cs => afterClass? fuel depth cs
  | fuel + 1, depth, '~' :: '~' :: cs => afterClass? fuel depth cs
  | fuel + 1, depth, cs =>
    match member? cs with
    | none => none
    | some (first, '-' :: rest) =>
      if rest.head? = some ']' || rest.head? = some '-' then afterClass? fuel depth ('-' :: rest)
      else
        match member? rest with
        | some (last, rest) => if first ≤ last then afterClass? fuel depth rest else none
        | none => none
    | some (_, rest) => afterClass? fuel depth rest

/-- The rest after the name of a group and its closing mark. -/
def afterName? (cs : List Char) : Option (List Char) :=
  let (name, rest) := cs.span (· != '>')
  let isStart (c : Char) : Bool := c.isAlpha || c == '_'
  let isMore (c : Char) : Bool := c.isAlphanum || ['_', '.', '[', ']'].contains c
  if (name.head?.any isStart) && name.all isMore then rest.tail? else none

/-- What the opening of a group leads to: the rest, and whether the group is open there. Flags alone
hold for what follows and open nothing. -/
def afterOpening? : List Char → Option (List Char × Bool)
  | '?' :: 'P' :: '<' :: cs | '?' :: '<' :: cs => (afterName? cs).map (·, true)
  | '?' :: cs =>
    let (flags, rest) := cs.span ['m', 's', 'U', 'R'].contains
    if !flags.Nodup then none
    else
      match rest with
      | ':' :: rest => some (rest, true)
      | ')' :: rest => if flags.isEmpty then none else some (rest, false)
      | _ => none
  | cs => some (cs, true)

/-- Reads an expression inside so many open groups. A repetition needs something before it. -/
def scan : Nat → Nat → Bool → List Char → Bool
  | _, depth, _, [] => depth == 0
  | 0, _, _, _ => false
  | fuel + 1, depth, repeatable, c :: cs =>
    match c with
    | '\\' => (afterEscape? cs).any (scan fuel depth true)
    | '[' => (afterClass? (cs.length + 1) 0 (classStart cs)).any (scan fuel depth true)
    | '(' => (afterOpening? cs).any fun (rest, opened) =>
      scan fuel (if opened then depth + 1 else depth) false rest
    | ')' => decide (0 < depth) && scan fuel (depth - 1) true cs
    | '|' => scan fuel depth false cs
    | '*' | '+' | '?' => repeatable && scan fuel depth true cs
    | '{' => false
    | _ => scan fuel depth true cs

/-- Whether a text after a plus sign is a number: digits with a point and an exponent, or a name. -/
def isNumber (cs : List Char) : Bool :=
  let (whole, rest) := cs.span Char.isDigit
  let (fraction, rest) := match rest with
    | '.' :: rest => rest.span Char.isDigit
    | rest => ([], rest)
  let exponent := match rest with
    | [] => true
    | e :: '+' :: ds | e :: '-' :: ds | e :: ds =>
      (e == 'e' || e == 'E') && !ds.isEmpty && ds.all Char.isDigit
  ["inf", "infinity", "nan"].contains (String.ofList (cs.map Char.toLower)) ||
    (!whole.isEmpty || !fraction.isEmpty) && exponent

/-- Whether a text is a value that a field can be asked for. -/
def isValue : List Char → Bool
  | '+' :: cs => isNumber cs
  | cs => scan cs.length 0 false cs

end Liveness.LogFilter.Pattern
