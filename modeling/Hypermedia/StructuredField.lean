import Hypermedia.Text.Pieces

/-!
# Structured lists

Lists of structured header fields: items and inner lists with parameters.

* `StructuredField.parseList?` reads a list; only blanks are skipped at its ends, blanks and
  tabs around commas, and any character beyond ASCII is an error.
* `StructuredField.renderStrings?` writes a list of strings; only printable ASCII can be
  written.
-/

namespace Hypermedia.StructuredField

/-- An item without its parameters. -/
inductive BareItem where
  /-- An integer of at most fifteen digits. -/
  | integer (n : Int)
  /-- A decimal number, in thousandths. -/
  | decimal (thousandths : Int)
  /-- A quoted string. -/
  | string (s : String)
  /-- A token. -/
  | token (s : String)
  /-- Bytes, in their base64 form without padding. -/
  | bytes (base64 : String)
  /-- A truth value. -/
  | boolean (b : Bool)
  deriving DecidableEq, Repr, Inhabited

/-- The parameters of an item or inner list, in the order written. -/
abbrev Parameters := List (String × BareItem)

/-- An item with its parameters. -/
structure Item where
  /-- The value. -/
  value : BareItem
  /-- Its parameters. -/
  parameters : Parameters
  deriving DecidableEq, Repr, Inhabited

/-- A member of a list. -/
inductive Member where
  /-- A single item. -/
  | item (item : Item)
  /-- Several items in parentheses. -/
  | inner (items : List Item) (parameters : Parameters)
  deriving DecidableEq, Repr, Inhabited

/-! ## Characters -/

/-- The first character of a token. -/
def isTokenStart (c : Char) : Bool :=
  c.isAlpha || c = '*'

/-- The further characters of a token. -/
def isTokenPart (c : Char) : Bool :=
  c.isAlphanum || "!#$%&'*+-.^_`|~:/".toList.contains c

/-- The first character of a parameter name. -/
def isKeyStart (c : Char) : Bool :=
  c.isLower || c = '*'

/-- The further characters of a parameter name. -/
def isKeyPart (c : Char) : Bool :=
  c.isLower || c.isDigit || c = '_' || c = '-' || c = '.' || c = '*'

/-- Whether a character may stand in a string. -/
def isStringChar (c : Char) : Bool :=
  0x20 ≤ c.toNat && c.toNat ≤ 0x7E

/-- Skips blanks. -/
def skipSpaces (s : List Char) : List Char :=
  s.dropWhile (· = ' ')

/-- Skips blanks and tabs. -/
def skipWhitespace (s : List Char) : List Char :=
  s.dropWhile fun c => c = ' ' || c = '\t'

/-! ## Bare items -/

/-- Reads what follows the opening quote of a string. -/
def string? : List Char → Option (List Char × List Char)
  | [] => none
  | '"' :: rest => some ([], rest)
  | '\\' :: c :: rest =>
    if c = '"' || c = '\\' then (string? rest).map fun (s, rest) => (c :: s, rest) else none
  | c :: rest =>
    if c ≠ '\\' && isStringChar c then (string? rest).map fun (s, rest) => (c :: s, rest)
    else none

/-- The number that decimal digits write. -/
def natOf (digits : List Char) : Nat :=
  digits.foldl (fun n c => n * 10 + (c.toNat - '0'.toNat)) 0

/-- Reads a number without its sign: at most fifteen digits, or at most twelve digits, a point and
one to three digits. -/
def magnitude? (s : List Char) : Option (BareItem × List Char) :=
  let (whole, rest) := s.span Char.isDigit
  if whole.isEmpty || whole.length > 15 then none
  else
    match rest with
    | '.' :: rest =>
      let (fraction, rest) := rest.span Char.isDigit
      if whole.length > 12 || fraction.isEmpty || fraction.length > 3 then none
      else
        let padded := fraction ++ List.replicate (3 - fraction.length) '0'
        some (.decimal (natOf whole * 1000 + natOf padded : Nat), rest)
    | rest => some (.integer (natOf whole : Nat), rest)

/-- The item with the opposite sign. -/
def negated : BareItem → BareItem
  | .integer n => .integer (-n)
  | .decimal n => .decimal (-n)
  | other => other

/-- Whether a character may stand between the colons of a byte sequence. -/
def isBase64Char (c : Char) : Bool :=
  c.isAlphanum || c = '+' || c = '/' || c = '='

/-- Reads what follows the opening colon of a byte sequence. Padding is ignored; the digits must
not leave six bits over. -/
def bytes? (s : List Char) : Option (BareItem × List Char) :=
  match Text.cutAt ':' s with
  | (_, none) => none
  | (content, some rest) =>
    let digits := content.filter (· ≠ '=')
    if content.all isBase64Char && digits.length % 4 ≠ 1 then
      some (.bytes (.ofList digits), rest)
    else none

/-- Reads an item without parameters. -/
def bareItem? : List Char → Option (BareItem × List Char)
  | '"' :: rest => (string? rest).map fun (s, rest) => (.string (.ofList s), rest)
  | '?' :: '0' :: rest => some (.boolean false, rest)
  | '?' :: '1' :: rest => some (.boolean true, rest)
  | ':' :: rest => bytes? rest
  | '-' :: rest => (magnitude? rest).map fun (n, rest) => (negated n, rest)
  | c :: rest =>
    if isTokenStart c then
      let (more, rest) := rest.span isTokenPart
      some (.token (.ofList (c :: more)), rest)
    else if c.isDigit then magnitude? (c :: rest)
    else none
  | [] => none

/-! ## Parameters and members -/

/-- Reads the name of a parameter. -/
def key? : List Char → Option (String × List Char)
  | c :: rest =>
    if isKeyStart c then
      let (more, rest) := rest.span isKeyPart
      some (.ofList (c :: more), rest)
    else none
  | [] => none

/-- Reads the value of a parameter, true if none is written. -/
def parameterValue? : List Char → Option (BareItem × List Char)
  | '=' :: rest => bareItem? rest
  | s => some (.boolean true, s)

/-- Reads parameters as long as semicolons follow. The first argument bounds their number. -/
def parameters? : Nat → List Char → Option (Parameters × List Char)
  | fuel + 1, ';' :: rest => do
    let (name, rest) ← key? (skipSpaces rest)
    let (value, rest) ← parameterValue? rest
    let (more, rest) ← parameters? fuel rest
    pure ((name, value) :: more, rest)
  | 0, ';' :: _ => none
  | _, s => some ([], s)

/-- Reads an item with its parameters. -/
def item? (s : List Char) : Option (Item × List Char) := do
  let (value, rest) ← bareItem? s
  let (parameters, rest) ← parameters? rest.length rest
  pure (⟨value, parameters⟩, rest)

/-- Reads the items of an inner list up to its closing parenthesis. The first argument bounds their
number. -/
def innerItems? : Nat → List Char → Option (List Item × List Char)
  | 0, _ => none
  | fuel + 1, s =>
    match skipSpaces s with
    | ')' :: rest => some ([], rest)
    | s => do
      let (item, rest) ← item? s
      match rest with
      | ' ' :: _ | ')' :: _ =>
        let (more, rest) ← innerItems? fuel rest
        pure (item :: more, rest)
      | _ => none

/-- Reads a member of a list. -/
def member? : List Char → Option (Member × List Char)
  | '(' :: rest => do
    let (items, rest) ← innerItems? (rest.length + 1) rest
    let (parameters, rest) ← parameters? rest.length rest
    pure (.inner items parameters, rest)
  | s => (item? s).map fun (item, rest) => (.item item, rest)

/-- Reads the members of a list to the end of the text. The first argument bounds their number. -/
def members? : Nat → List Char → Option (List Member)
  | 0, _ => none
  | fuel + 1, s => do
    let (member, rest) ← member? s
    match skipWhitespace rest with
    | [] => pure [member]
    | ',' :: rest =>
      let more ← members? fuel (skipWhitespace rest)
      pure (member :: more)
    | _ => none

/-- Reads a list. -/
def parseList? (text : String) : Option (List Member) :=
  let s := text.toList
  if s.all (·.toNat < 0x80) then
    match skipSpaces s with
    | [] => some []
    | s => members? (s.length + 1) s
  else none

/-! ## Writing -/

/-- One character of a written string. -/
def escapeChar (c : Char) : List Char :=
  if c = '"' || c = '\\' then ['\\', c] else [c]

/-- A written string. -/
def renderString (s : String) : List Char :=
  '"' :: s.toList.flatMap escapeChar ++ ['"']

/-- Writes a list of strings, unless one of them has a character that cannot be written. -/
def renderStrings? (items : List String) : Option String :=
  if items.all (·.toList.all isStringChar) then
    some (.ofList (List.intercalate ", ".toList (items.map renderString)))
  else none

end Hypermedia.StructuredField
