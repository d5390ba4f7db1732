import Liveness.Toml.Number

/-! # Reading TOML documents -/

namespace Liveness.Toml

def skipBlanks (cs : List Char) : List Char := cs.dropWhile isBlank

/-- A comment up to the end of its line, when there is one. -/
def skipComment : List Char → List Char
  | '#' :: cs => cs.dropWhile isPrintable
  | cs => cs

/-- Blanks and a comment, then a line break or the end of the text. -/
def lineEnd? (cs : List Char) : Option (List Char) :=
  match skipComment (skipBlanks cs) with
  | [] => some []
  | cs => lineBreak? cs

/-- Blanks, line breaks and comments; the flag is set inside a comment. -/
def gap : Bool → List Char → List Char
  | _, [] => []
  | _, '\n' :: cs => gap false cs
  | _, '\r' :: '\n' :: cs => gap false cs
  | true, c :: cs => if isPrintable c then gap true cs else c :: cs
  | false, c :: cs =>
    if c = '#' then gap true cs
    else if isBlank c then gap false cs
    else c :: cs

def isBareKeyChar (c : Char) : Bool :=
  isDigit c || ('a' ≤ c && c ≤ 'z') || ('A' ≤ c && c ≤ 'Z') || c == '-' || c == '_'

/-- One part of a key. -/
def simpleKey : Reader String := fun cs =>
  match cs with
  | '\x22' :: rest => (basic .plain rest).map fun (s, rest) => (String.ofList s, rest)
  | '\x27' :: rest => (literal rest).map fun (s, rest) => (String.ofList s, rest)
  | _ =>
    match cs.takeWhile isBareKeyChar with
    | [] => none
    | key => some (String.ofList key, cs.dropWhile isBareKeyChar)

/-- A key of parts joined by dots, with blanks around each; at most so many parts. -/
def dottedKey : Nat → Reader (List String)
  | 0, _ => none
  | n + 1, cs => do
    let (key, cs) ← simpleKey (skipBlanks cs)
    match skipBlanks cs with
    | '.' :: cs =>
      let (keys, cs) ← dottedKey n cs
      some (key :: keys, cs)
    | cs => some ([key], cs)

/-- Nesting of brackets, and parts of a key, stay below eighty. -/
def nestingLimit : Nat := 79

/-- A key, an equals sign and a value, with blanks around each. -/
def keyValue (value : Reader Value) : Reader (List String × Value) := fun cs => do
  let (path, cs) ← dottedKey nestingLimit cs
  let cs ← char '=' cs
  let (v, cs) ← value (skipBlanks cs)
  some ((path, v), cs)

/-- Array items up to the closing bracket; a comma may follow the last. The fuel bounds their number. -/
def arrayItems (value : Reader Value) : Nat → Reader (List Value)
  | 0, _ => none
  | n + 1, cs =>
    match gap false cs with
    | ']' :: rest => some ([], rest)
    | cs => do
      let (v, cs) ← value cs
      match gap false cs with
      | ']' :: rest => some ([v], rest)
      | ',' :: rest =>
        let (vs, rest) ← arrayItems value n rest
        some (v :: vs, rest)
      | _ => none

/-- Pairs of an inline table up to the closing brace. The fuel bounds their number. -/
def inlinePairs (value : Reader Value) : Nat → Reader (List (List String × Value))
  | 0, _ => none
  | n + 1, cs => do
    let (pair, cs) ← keyValue value cs
    match skipBlanks cs with
    | '\x7d' :: rest => some ([pair], rest)
    | ',' :: rest =>
      let (pairs, rest) ← inlinePairs value n rest
      some (pair :: pairs, rest)
    | _ => none

/-- The pairs of an inline table after its opening brace; there may be none. -/
def inlineTable (value : Reader Value) : Reader (List (List String × Value)) := fun cs =>
  match skipBlanks cs with
  | '\x7d' :: rest => some ([], rest)
  | _ => inlinePairs value cs.length cs

/-- The table that a list of pairs describes. -/
def ofPairs (pairs : List (List String × Value)) : Option Entries :=
  pairs.foldlM (fun es (path, v) => es.assign v path true) []

/-- A value; the number bounds the nesting of brackets and braces. -/
def value : Nat → Reader Value
  | _, 't' :: 'r' :: 'u' :: 'e' :: rest => some (.boolean true, rest)
  | _, 'f' :: 'a' :: 'l' :: 's' :: 'e' :: rest => some (.boolean false, rest)
  | _, 'i' :: 'n' :: 'f' :: rest => some (.float, rest)
  | _, 'n' :: 'a' :: 'n' :: rest => some (.float, rest)
  | n + 1, '[' :: rest =>
    (arrayItems (value n) (rest.length + 1) rest).map fun (vs, rest) => (.array vs, rest)
  | n + 1, '\x7b' :: rest => do
    let (pairs, rest) ← inlineTable (value n) rest
    let entries ← ofPairs pairs
    some (.table .inline entries, rest)
  | _, c :: rest =>
    if c = '\x22' || c = '\x27' then
      (string (c :: rest)).map fun (s, rest) => (.string (String.ofList s), rest)
    else dateOrNumber (c :: rest)
  | _, [] => none

/-- A header or a key with its value, without the end of the line. -/
def statement : Reader Statement
  | '[' :: '[' :: cs => do
    let (path, cs) ← dottedKey nestingLimit cs
    let cs ← char ']' cs
    let cs ← char ']' cs
    some (.element path, cs)
  | '[' :: cs => do
    let (path, cs) ← dottedKey nestingLimit cs
    let cs ← char ']' cs
    some (.table path, cs)
  | cs => do
    let ((path, v), cs) ← keyValue (value nestingLimit) cs
    some (.assign path v, cs)

/-- The statements of a text, a line each. The fuel bounds the number of lines. -/
def statements : Nat → List Char → Option (List Statement)
  | _, [] => some []
  | 0, _ => none
  | n + 1, cs =>
    match lineEnd? cs with
    | some rest => statements n rest
    | none => do
      let (s, cs) ← statement (skipBlanks cs)
      let cs ← lineEnd? cs
      let ss ← statements n cs
      some (s :: ss)

/-- The root table of a document; a byte order mark may come first. -/
def parse? (text : String) : Option Entries :=
  let cs := match text.toList with
    | '\ufeff' :: cs => cs
    | cs => cs
  (statements cs.length cs).bind build?

end Liveness.Toml
