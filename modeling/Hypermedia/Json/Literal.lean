import Hypermedia.Text.CodePoints

/-!
# JSON texts

A JSON text as it is written, before its numbers and strings are given a value. Whoever reads a
part of it decides what that part has to mean; parts that nobody reads only have to be well
formed.

* `Json.Literal` is a written value.
* `Json.Literal.parse?` reads a whole text.
-/

namespace Hypermedia.Json

/-- A number as it is written. -/
structure NumberText where
  /-- Whether it starts with a minus sign. -/
  negative : Bool
  /-- The digits of the integer part. -/
  whole : List Char
  /-- The digits after the point, if there is one. -/
  fraction : Option (List Char)
  /-- Whether the exponent is negative, and its digits, if there is one. -/
  exponent : Option (Bool × List Char)
  deriving DecidableEq, Repr, Inhabited

/-- A JSON value as it is written. A string is `none` if its escapes name half of a surrogate
pair only, so that it stands for no text. -/
inductive Literal where
  /-- The null value. -/
  | null
  /-- A truth value. -/
  | bool (b : Bool)
  /-- A number. -/
  | number (text : NumberText)
  /-- A string. -/
  | string (text : Option String)
  /-- A list of values. -/
  | array (elements : List Literal)
  /-- An object; names may occur several times. -/
  | object (members : List (Option String × Literal))
  deriving Repr, Inhabited

namespace Literal

/-! ## Blanks and numbers -/

/-- The characters that may stand between the parts of a text. -/
def isBlank (c : Char) : Bool :=
  c = ' ' || c = '\t' || c = '\n' || c = '\r'

/-- Skips blanks. -/
def skipBlanks (s : List Char) : List Char :=
  s.dropWhile isBlank

/-- Reads digits, at least one. -/
def digits? (s : List Char) : Option (List Char × List Char) :=
  match s.span Char.isDigit with
  | ([], _) => none
  | (found, rest) => some (found, rest)

/-- Reads the digits after a point, if a point follows. -/
def fraction? (s : List Char) : Option (Option (List Char) × List Char) :=
  match s with
  | '.' :: rest => (digits? rest).map fun (found, rest) => (some found, rest)
  | s => some (none, s)

/-- Reads an exponent, if one follows. -/
def exponent? (s : List Char) : Option (Option (Bool × List Char) × List Char) :=
  let signed (s : List Char) : Option (Option (Bool × List Char) × List Char) :=
    match s with
    | '-' :: rest => (digits? rest).map fun (found, rest) => (some (true, found), rest)
    | '+' :: rest => (digits? rest).map fun (found, rest) => (some (false, found), rest)
    | s => (digits? s).map fun (found, rest) => (some (false, found), rest)
  match s with
  | 'e' :: rest => signed rest
  | 'E' :: rest => signed rest
  | s => some (none, s)

/-- Reads a number; the integer part has no leading zero. -/
def number? (s : List Char) : Option (NumberText × List Char) := do
  let (negative, s) := match s with
    | '-' :: rest => (true, rest)
    | s => (false, s)
  let (whole, s) ← digits? s
  if whole.head? = some '0' && whole.length > 1 then none
  let (fraction, s) ← fraction? s
  let (exponent, s) ← exponent? s
  pure (⟨negative, whole, fraction, exponent⟩, s)

/-! ## Strings -/

/-- A unit of a string: a character, or half of a surrogate pair. -/
inductive Unit16 where
  /-- A character, written as itself or by an escape. -/
  | char (c : Char)
  /-- The first half of a pair. -/
  | high (n : Nat)
  /-- The second half of a pair. -/
  | low (n : Nat)

/-- The unit that four hexadecimal digits name. -/
def unitOf (n : Nat) : Unit16 :=
  if 0xD800 ≤ n && n ≤ 0xDBFF then .high n
  else if 0xDC00 ≤ n && n ≤ 0xDFFF then .low n
  else .char (Char.ofNat n)

/-- The character that an escape of one letter names. -/
def escape? : Char → Option Char
  | '"' => some '"'
  | '\\' => some '\\'
  | '/' => some '/'
  | 'b' => some '\x08'
  | 'f' => some '\x0c'
  | 'n' => some '\n'
  | 'r' => some '\r'
  | 't' => some '\t'
  | _ => none

/-- The units up to the closing quote, and what follows it. -/
def units? : List Char → Option (List Unit16 × List Char)
  | [] => none
  | '"' :: rest => some ([], rest)
  | '\\' :: 'u' :: a :: b :: c :: d :: rest => do
    let a ← Text.hexDigit? a
    let b ← Text.hexDigit? b
    let c ← Text.hexDigit? c
    let d ← Text.hexDigit? d
    let (found, rest) ← units? rest
    pure (unitOf (((a * 16 + b) * 16 + c) * 16 + d) :: found, rest)
  | '\\' :: e :: rest => do
    let c ← escape? e
    let (found, rest) ← units? rest
    pure (.char c :: found, rest)
  | c :: rest =>
    if c.toNat < 0x20 || c = '\\' then none
    else (units? rest).map fun (found, rest) => (.char c :: found, rest)

/-- The characters of a sequence of units; the halves of surrogate pairs must come together. -/
def joinUnits : List Unit16 → Option (List Char)
  | [] => some []
  | .char c :: rest => (joinUnits rest).map (c :: ·)
  | .high h :: .low l :: rest =>
    (joinUnits rest).map (Char.ofNat (0x10000 + (h - 0xD800) * 0x400 + (l - 0xDC00)) :: ·)
  | _ => none

/-- Reads what follows the opening quote of a string. -/
def string? (s : List Char) : Option (Option String × List Char) :=
  (units? s).map fun (found, rest) => ((joinUnits found).map .ofList, rest)

/-! ## Values -/

/-- Reads a fixed word. -/
def word? (word : String) (value : Literal) (s : List Char) : Option (Literal × List Char) :=
  if word.toList.isPrefixOf s then some (value, s.drop word.length) else none

mutual

/-- Reads a value. The first argument bounds the number of values and separators; the length of
the text is enough. -/
def value? : Nat → List Char → Option (Literal × List Char)
  | 0, _ => none
  | fuel + 1, s =>
    match skipBlanks s with
    | '[' :: rest =>
      match skipBlanks rest with
      | ']' :: rest => some (array [], rest)
      | rest => (elements? fuel rest).map fun (found, rest) => (array found, rest)
    | '\x7b' :: rest =>
      match skipBlanks rest with
      | '\x7d' :: rest => some (object [], rest)
      | rest => (members? fuel rest).map fun (found, rest) => (object found, rest)
    | '"' :: rest => (string? rest).map fun (text, rest) => (string text, rest)
    | 'n' :: rest => word? "null" null ('n' :: rest)
    | 't' :: rest => word? "true" (bool true) ('t' :: rest)
    | 'f' :: rest => word? "false" (bool false) ('f' :: rest)
    | s => (number? s).map fun (text, rest) => (number text, rest)

/-- Reads elements up to the closing bracket. -/
def elements? : Nat → List Char → Option (List Literal × List Char)
  | 0, _ => none
  | fuel + 1, s => do
    let (found, rest) ← value? fuel s
    match skipBlanks rest with
    | ',' :: rest => (elements? fuel rest).map fun (more, rest) => (found :: more, rest)
    | ']' :: rest => some ([found], rest)
    | _ => none

/-- Reads members up to the closing brace. -/
def members? : Nat → List Char → Option (List (Option String × Literal) × List Char)
  | 0, _ => none
  | fuel + 1, s =>
    match skipBlanks s with
    | '"' :: rest => do
      let (name, rest) ← string? rest
      match skipBlanks rest with
      | ':' :: rest =>
        let (found, rest) ← value? fuel rest
        match skipBlanks rest with
        | ',' :: rest =>
          (members? fuel rest).map fun (more, rest) => ((name, found) :: more, rest)
        | '\x7d' :: rest => some ([(name, found)], rest)
        | _ => none
      | _ => none
    | _ => none

end

/-- Reads a text that consists of one value. -/
def parse? (text : List Char) : Option Literal := do
  let (value, rest) ← value? (2 * text.length + 2) text
  if (skipBlanks rest).isEmpty then some value else none

end Literal

end Hypermedia.Json
