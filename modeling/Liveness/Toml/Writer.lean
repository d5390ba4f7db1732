/-! # Writing TOML strings -/

namespace Liveness.Toml

/-- The five styles that a string may be written in. -/
inductive Style where
  | basic
  | literal
  | block
  | literalBlock
  /-- Double quotes with escapes, in a block when there is a line feed. -/
  | escaped
deriving DecidableEq, Repr

/-- A control character other than tab and line feed, which only an escape can write. -/
def isControl (c : Char) : Bool := (c.toNat < 32 && c != '\t' && c != '\n') || c.toNat == 127

/-- Whether a character stands three times in a row. -/
def hasTriple (q : Char) : List Char → Bool
  | a :: b :: c :: cs => (a == q && b == q && c == q) || hasTriple q (b :: c :: cs)
  | _ => false

/-- The first style that can hold a string. -/
def styleFor (s : List Char) : Style :=
  if s.any isControl then .escaped
  else if !s.any (fun c => c == '\\' || c == '\x22' || c == '\n') then .basic
  else if !s.any (fun c => c == '\x27' || c == '\n') then .literal
  else if !s.contains '\\' && !hasTriple '\x22' s then .block
  else if !hasTriple '\x27' s then .literalBlock
  else .escaped

/-- A hexadecimal digit in upper case. -/
def upperHexDigit (n : Nat) : Char := (Nat.digitChar (n % 16)).toUpper

/-- An escape for a character that double quotes cannot hold as it is. -/
def escape (c : Char) : List Char :=
  if c = '\x08' then ['\\', 'b']
  else if c = '\t' then ['\\', 't']
  else if c = '\x0c' then ['\\', 'f']
  else if c = '\r' then ['\\', 'r']
  else if c = '\\' then ['\\', '\\']
  else if isControl c then ['\\', 'u', '0', '0', upperHexDigit (c.toNat / 16), upperHexDigit c.toNat]
  else [c]

/-- The text between single-line double quotes. -/
def escapeLine (s : List Char) : List Char :=
  s.flatMap fun c =>
    if c = '\x22' then ['\\', '\x22'] else if c = '\n' then ['\\', 'n'] else escape c

/-- The text between block double quotes: every third quote of a run is escaped.
The number counts the quotes just before. -/
def escapeBlock : Nat → List Char → List Char
  | _, [] => []
  | n, c :: cs =>
    if c = '\x22' then
      if n = 2 then '\\' :: c :: escapeBlock 0 cs else c :: escapeBlock (n + 1) cs
    else escape c ++ escapeBlock 0 cs

/-- A block that holds a line feed starts on a new line. -/
def blockOpening (s : List Char) : List Char := if s.contains '\n' then ['\n'] else []

def tripleQuotes : List Char := ['\x22', '\x22', '\x22']
def tripleApostrophes : List Char := ['\x27', '\x27', '\x27']

/-- A string between block double quotes. -/
def writeBlock (s : List Char) : List Char :=
  tripleQuotes ++ blockOpening s ++ escapeBlock 0 s ++ tripleQuotes

/-- A string in the first style that can hold it. -/
def writeString (s : List Char) : List Char :=
  match styleFor s with
  | .basic => '\x22' :: escapeLine s ++ ['\x22']
  | .literal => '\x27' :: s ++ ['\x27']
  | .block => writeBlock s
  | .literalBlock => tripleApostrophes ++ blockOpening s ++ s ++ tripleApostrophes
  | .escaped => if s.contains '\n' then writeBlock s else '\x22' :: escapeLine s ++ ['\x22']

end Liveness.Toml
