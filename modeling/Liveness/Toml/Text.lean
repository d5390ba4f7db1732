import Liveness.Toml.Value

/-! # Strings of a TOML document

Each reader is a machine that takes one character at a time; its mode is what it expects next.
-/

namespace Liveness.Toml

/-- A reader takes a value off the front of a text. -/
abbrev Reader (α : Type) := List Char → Option (α × List Char)

def isBlank (c : Char) : Bool := c == ' ' || c == '\t'

def isDigit (c : Char) : Bool := '0' ≤ c && c ≤ '9'

def hexValue? (c : Char) : Option Nat :=
  if isDigit c then some (c.toNat - 48)
  else if 'a' ≤ c && c ≤ 'f' then some (c.toNat - 87)
  else if 'A' ≤ c && c ≤ 'F' then some (c.toNat - 55)
  else none

/-- No control character, save the tab. -/
def isPrintable (c : Char) : Bool := c == '\t' || (32 ≤ c.toNat && c.toNat != 127)

/-- A line break is a line feed, or a carriage return and a line feed. -/
def lineBreak? : List Char → Option (List Char)
  | '\n' :: cs => some cs
  | '\r' :: '\n' :: cs => some cs
  | _ => none

/-- The character with a code point, unless the number is a surrogate or too large. -/
def scalar? (n : Nat) : Option Char :=
  if n < 0xd800 || (0xdfff < n && n < 0x110000) then some (Char.ofNat n) else none

/-- The character that a one-letter escape stands for. -/
def escapeChar? : Char → Option Char
  | 'b' => some '\x08'
  | 't' => some '\t'
  | 'n' => some '\n'
  | 'f' => some '\x0c'
  | 'r' => some '\r'
  | '\x22' => some '\x22'
  | '\\' => some '\\'
  | _ => none

/-- Puts characters in front of a string that was read. -/
def push (front : List Char) (r : Option (List Char × List Char)) : Option (List Char × List Char) :=
  r.map fun (s, rest) => (front ++ s, rest)

inductive BasicMode where
  | plain
  | escaped
  /-- Digits of a code point are still to come. -/
  | unicode (left value : Nat)

/-- A one-line string in double quotes, after the opening quote. -/
def basic : BasicMode → Reader (List Char)
  | _, [] => none
  | .plain, c :: cs =>
    if c = '\x22' then some ([], cs)
    else if c = '\\' then basic .escaped cs
    else if isPrintable c then push [c] (basic .plain cs)
    else none
  | .escaped, c :: cs =>
    if c = 'u' then basic (.unicode 3 0) cs
    else if c = 'U' then basic (.unicode 7 0) cs
    else match escapeChar? c with
      | some d => push [d] (basic .plain cs)
      | none => none
  | .unicode left value, c :: cs =>
    match hexValue? c, left with
    | none, _ => none
    | some d, n + 1 => basic (.unicode n (value * 16 + d)) cs
    | some d, 0 =>
      match scalar? (value * 16 + d) with
      | some e => push [e] (basic .plain cs)
      | none => none

/-- A one-line string in single quotes, after the opening quote. -/
def literal : Reader (List Char)
  | [] => none
  | c :: cs =>
    if c = '\x27' then some ([], cs)
    else if isPrintable c then push [c] (literal cs)
    else none

inductive BlockMode where
  | plain
  /-- Quotes that may yet turn out to close the string. -/
  | quotes (count : Nat)
  /-- The closing quotes are there; up to two quotes before them belong to the string. -/
  | closing (extra : Nat)
  /-- A carriage return, which a line feed must follow. -/
  | carriage
  | escaped
  | unicode (left value : Nat)
  /-- Blanks after a backslash, which must end the line. -/
  | lineEnd
  | lineEndReturn
  /-- Blanks and line breaks after a backslash at the end of a line. -/
  | folded
  | foldedReturn

/-- What a block string in double quotes does with an ordinary character. -/
def blockPlain (c : Char) : Option (List Char × BlockMode) :=
  if c = '\x22' then some ([], .quotes 1)
  else if c = '\\' then some ([], .escaped)
  else if c = '\n' then some (['\n'], .plain)
  else if c = '\r' then some ([], .carriage)
  else if isPrintable c then some ([c], .plain)
  else none

/-- One step of the machine: the characters it puts out and its next mode. -/
def blockStep : BlockMode → Char → Option (List Char × BlockMode)
  | .plain, c => blockPlain c
  | .quotes n, c =>
    if c = '\x22' then some ([], if n < 2 then .quotes (n + 1) else .closing 0)
    else (blockPlain c).map fun (out, mode) => (List.replicate n '\x22' ++ out, mode)
  | .closing _, _ => none
  | .carriage, c => if c = '\n' then some (['\n'], .plain) else none
  | .escaped, c =>
    if c = 'u' then some ([], .unicode 3 0)
    else if c = 'U' then some ([], .unicode 7 0)
    else if isBlank c then some ([], .lineEnd)
    else if c = '\n' then some ([], .folded)
    else if c = '\r' then some ([], .lineEndReturn)
    else (escapeChar? c).map fun d => ([d], .plain)
  | .unicode left value, c =>
    match hexValue? c, left with
    | none, _ => none
    | some d, n + 1 => some ([], .unicode n (value * 16 + d))
    | some d, 0 => (scalar? (value * 16 + d)).map fun e => ([e], .plain)
  | .lineEnd, c =>
    if isBlank c then some ([], .lineEnd)
    else if c = '\n' then some ([], .folded)
    else if c = '\r' then some ([], .lineEndReturn)
    else none
  | .lineEndReturn, c => if c = '\n' then some ([], .folded) else none
  | .folded, c =>
    if isBlank c || c = '\n' then some ([], .folded)
    else if c = '\r' then some ([], .foldedReturn)
    else blockPlain c
  | .foldedReturn, c => if c = '\n' then some ([], .folded) else none

/-- A block string in double quotes, after the opening quotes and a first line break. -/
def block : BlockMode → Reader (List Char)
  | .closing _, [] => some ([], [])
  | _, [] => none
  | .closing n, c :: cs =>
    if c = '\x22' && n < 2 then push [c] (block (.closing (n + 1)) cs) else some ([], c :: cs)
  | mode, c :: cs =>
    match blockStep mode c with
    | some (out, mode) => push out (block mode cs)
    | none => none

inductive LiteralBlockMode where
  | plain
  | quotes (count : Nat)
  | closing (extra : Nat)
  | carriage

/-- A block string in single quotes, after the opening quotes and a first line break. -/
def literalBlock : LiteralBlockMode → Reader (List Char)
  | .closing _, [] => some ([], [])
  | _, [] => none
  | .closing n, c :: cs =>
    if c = '\x27' && n < 2 then push [c] (literalBlock (.closing (n + 1)) cs) else some ([], c :: cs)
  | .carriage, c :: cs => if c = '\n' then push ['\n'] (literalBlock .plain cs) else none
  | .quotes n, c :: cs =>
    if c = '\x27' then literalBlock (if n < 2 then .quotes (n + 1) else .closing 0) cs
    else if c = '\r' then push (List.replicate n '\x27') (literalBlock .carriage cs)
    else if c = '\n' || isPrintable c then push (List.replicate n '\x27' ++ [c]) (literalBlock .plain cs)
    else none
  | .plain, c :: cs =>
    if c = '\x27' then literalBlock (.quotes 1) cs
    else if c = '\r' then literalBlock .carriage cs
    else if c = '\n' || isPrintable c then push [c] (literalBlock .plain cs)
    else none

/-- A line break right after the opening quotes of a block is not part of it. -/
def dropLineBreak (cs : List Char) : List Char := (lineBreak? cs).getD cs

/-- A string in any of the four forms. -/
def string : Reader (List Char)
  | '\x22' :: '\x22' :: '\x22' :: cs => block .plain (dropLineBreak cs)
  | '\x22' :: cs => basic .plain cs
  | '\x27' :: '\x27' :: '\x27' :: cs => literalBlock .plain (dropLineBreak cs)
  | '\x27' :: cs => literal cs
  | _ => none

end Liveness.Toml
