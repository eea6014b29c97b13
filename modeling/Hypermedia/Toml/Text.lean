import Hypermedia.Text.CodePoints

/-!
# Texts and keys in TOML

* `string?` reads a text in quotes or apostrophes, on one line or, between three of them, on
  several.
* `key?` reads a dotted key.
-/

namespace Hypermedia.Toml

/-! ## Characters -/

/-- Whether a character is a blank or a tab. -/
def isBlank (c : Char) : Bool :=
  c = ' ' || c = '\t'

/-- Whether a character may stand in a text or a comment: no control character but the tab. -/
def isTextChar (c : Char) : Bool :=
  c = '\t' || (' ' ≤ c && c ≠ '\x7f')

/-- Whether a character may stand in a key without quotes. -/
def isKeyChar (c : Char) : Bool :=
  c.isAlphanum || c = '_' || c = '-'

/-- Passes blanks and tabs. -/
def skipBlanks (s : List Char) : List Char :=
  s.dropWhile isBlank

/-- Passes the end of a line. -/
def lineEnd? : List Char → Option (List Char)
  | '\n' :: rest => some rest
  | '\r' :: '\n' :: rest => some rest
  | _ => none

/-! ## Escapes -/

/-- The character that an escape of one letter stands for. -/
def escape? : Char → Option Char
  | 'b' => some '\x08'
  | 'f' => some '\x0c'
  | 'n' => some '\n'
  | 'r' => some '\r'
  | 't' => some '\t'
  | '"' => some '"'
  | '\\' => some '\\'
  | _ => none

/-- The character of a number, unless it is half of a surrogate pair. -/
def charOf? (n : Nat) : Option Char :=
  if n < 0xD800 || (0xDFFF < n && n < 0x110000) then some (Char.ofNat n) else none

/-- The character that hexadecimal digits stand for. -/
def charOfDigits? (digits : List Char) : Option Char :=
  if digits.all fun c => (Text.hexDigit? c).isSome then charOf? (Text.hexNumber digits) else none

/-! ## Texts on one line -/

/-- Reads up to the closing quote. -/
def quoted? : List Char → Option (List Char × List Char)
  | [] => none
  | '"' :: rest => some ([], rest)
  | '\\' :: 'u' :: a :: b :: c :: d :: rest => do
    let found ← charOfDigits? [a, b, c, d]
    let (more, rest) ← quoted? rest
    pure (found :: more, rest)
  | '\\' :: 'U' :: a :: b :: c :: d :: e :: f :: g :: h :: rest => do
    let found ← charOfDigits? [a, b, c, d, e, f, g, h]
    let (more, rest) ← quoted? rest
    pure (found :: more, rest)
  | '\\' :: e :: rest => do
    let found ← escape? e
    let (more, rest) ← quoted? rest
    pure (found :: more, rest)
  | c :: rest =>
    if isTextChar c && c ≠ '\\' then
      (quoted? rest).map fun (more, rest) => (c :: more, rest)
    else none

/-- Reads up to the closing apostrophe; there are no escapes. -/
def literal? : List Char → Option (List Char × List Char)
  | [] => none
  | '\'' :: rest => some ([], rest)
  | c :: rest =>
    if isTextChar c then (literal? rest).map fun (more, rest) => (c :: more, rest) else none

/-! ## Texts on several lines -/

/-- Reads an escape after its backslash: its characters, and the rest. After an escaped line end all
blanks and line ends are dropped. -/
def multilineEscape? (s : List Char) : Option (List Char × List Char) :=
  match s with
  | 'u' :: rest =>
    if rest.length < 4 then none
    else (charOfDigits? (rest.take 4)).map fun c => ([c], rest.drop 4)
  | 'U' :: rest =>
    if rest.length < 8 then none
    else (charOfDigits? (rest.take 8)).map fun c => ([c], rest.drop 8)
  | s =>
    match lineEnd? (skipBlanks s) with
    | some rest => some ([], skipLines rest)
    | none =>
      match s with
      | e :: rest => (escape? e).map fun c => ([c], rest)
      | [] => none
where
  /-- Passes blanks and line ends. -/
  skipLines : List Char → List Char
    | '\n' :: rest => skipLines rest
    | '\r' :: '\n' :: rest => skipLines rest
    | c :: rest => if isBlank c then skipLines rest else c :: rest
    | [] => []

/-- Reads up to three closing marks; up to two more marks before them belong to the text. Escapes
count between quotes only. The first argument bounds the number of steps. -/
def multiline? (mark : Char) : Nat → List Char → Option (List Char × List Char)
  | 0, _ => none
  | fuel + 1, s =>
    match s with
    | [] => none
    | c :: rest =>
      if c = mark then
        let run := (s.takeWhile (· = mark)).length
        if run < 3 then
          (multiline? mark fuel (s.drop run)).map fun (more, rest) =>
            (List.replicate run mark ++ more, rest)
        else
          let inside := min (run - 3) 2
          some (List.replicate inside mark, s.drop (inside + 3))
      else if c = '\\' && mark = '"' then do
        let (found, rest) ← multilineEscape? rest
        let (more, rest) ← multiline? mark fuel rest
        pure (found ++ more, rest)
      else
        match lineEnd? s with
        | some rest => (multiline? mark fuel rest).map fun (more, rest) => ('\n' :: more, rest)
        | none =>
          if isTextChar c then
            (multiline? mark fuel rest).map fun (more, rest) => (c :: more, rest)
          else none

/-- Reads a text on several lines; a line end right after the opening marks is dropped. -/
def afterMarks? (mark : Char) (s : List Char) : Option (List Char × List Char) :=
  let s := (lineEnd? s).getD s
  multiline? mark (s.length + 1) s

/-! ## Texts and keys -/

/-- Reads a text in any form. -/
def string? (s : List Char) : Option (String × List Char) :=
  let found := match s with
    | '"' :: '"' :: '"' :: rest => afterMarks? '"' rest
    | '\'' :: '\'' :: '\'' :: rest => afterMarks? '\'' rest
    | '"' :: rest => quoted? rest
    | '\'' :: rest => literal? rest
    | _ => none
  found.map fun (text, rest) => (.ofList text, rest)

/-- Reads one part of a key. -/
def keyPart? (s : List Char) : Option (String × List Char) :=
  match s with
  | '"' :: rest => (quoted? rest).map fun (text, rest) => (.ofList text, rest)
  | '\'' :: rest => (literal? rest).map fun (text, rest) => (.ofList text, rest)
  | s =>
    let name := s.takeWhile isKeyChar
    if name.isEmpty then none else some (.ofList name, s.drop name.length)

/-- How deep tables and lists may be nested. -/
def maxDepth : Nat := 79

/-- Reads the parts of a key, of which there may be as many as the first argument says. -/
def keyParts? : Nat → List Char → Option (List String × List Char)
  | 0, _ => none
  | parts + 1, s => do
    let (part, rest) ← keyPart? (skipBlanks s)
    match skipBlanks rest with
    | '.' :: rest => (keyParts? parts rest).map fun (more, rest) => (part :: more, rest)
    | rest => some ([part], rest)

/-- Reads a key: the parts before the last one, the last one, and the rest. -/
def key? (s : List Char) : Option (List String × String × List Char) := do
  let (parts, rest) ← keyParts? maxDepth s
  let last ← parts.getLast?
  pure (parts.dropLast, last, rest)

end Hypermedia.Toml
