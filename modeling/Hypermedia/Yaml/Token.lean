import Hypermedia.Text.Percent
import Hypermedia.Yaml.Scalar

/-!
# Tokens of a YAML text

A text as a sequence of tokens, in which indentation has become the start and end of sequences and
mappings. A key on one line is only known as a key when the colon after it is reached; its token is
put before it then.

* `Token` is a token, `Token.ofText?` reads a whole text.
* `Lexer` is the state of reading: the indentation, the brackets that are open, and for each level
  of brackets the place where a key may have begun.
-/

namespace Hypermedia.Yaml

/-- A token. -/
inductive Token where
  /-- The version that a directive asks for. -/
  | versionDirective (major minor : Nat)
  /-- The prefix that a directive gives to a handle of tags. -/
  | tagDirective (handle start : String)
  /-- Three hyphens. -/
  | documentStart
  /-- Three dots. -/
  | documentEnd
  /-- The start of a sequence by indentation. -/
  | blockSequenceStart
  /-- The start of a mapping by indentation. -/
  | blockMappingStart
  /-- The end of a sequence or mapping by indentation. -/
  | blockEnd
  /-- An opening bracket. -/
  | flowSequenceStart
  /-- A closing bracket. -/
  | flowSequenceEnd
  /-- An opening brace. -/
  | flowMappingStart
  /-- A closing brace. -/
  | flowMappingEnd
  /-- The hyphen before an element. -/
  | blockEntry
  /-- A comma. -/
  | flowEntry
  /-- The start of a key. -/
  | key
  /-- The start of a value. -/
  | value
  /-- A reference to an anchor. -/
  | reference (name : String)
  /-- The name of the node that follows. -/
  | anchor (name : String)
  /-- The tag of the node that follows: its handle and the rest. -/
  | tag (handle suffix : String)
  /-- A scalar, and whether it is plain. -/
  | scalar (text : String) (plain : Bool)
  deriving DecidableEq, Repr, Inhabited

/-- A place where a key may have begun. -/
structure PossibleKey where
  /-- Whether a key has to begin there. -/
  required : Bool
  /-- The number of tokens before it. -/
  token : Nat
  /-- Where it is. -/
  mark : Cursor
  deriving Inhabited

/-- The state of reading tokens. -/
structure Lexer where
  /-- The rest of the text. -/
  cursor : Cursor
  /-- The current indentation; below all columns at first. -/
  indent : Int
  /-- The indentations around the current one. -/
  outer : List Int
  /-- The place where a key may have begun, for the current level of brackets and those around it.
  -/
  keys : List (Option PossibleKey)
  /-- Whether a key may begin here. -/
  keyAllowed : Bool
  /-- The tokens so far. -/
  tokens : Array Token

namespace Lexer

/-- The start of a text. -/
def start (text : List Char) : Lexer :=
  ⟨.start text, -1, [], [none], true, #[]⟩

/-- Whether a bracket is open. -/
def inFlow (lexer : Lexer) : Bool :=
  lexer.keys.length > 1

/-- Adds a token. -/
def push (lexer : Lexer) (token : Token) : Lexer :=
  { lexer with tokens := lexer.tokens.push token }

/-- Puts a token after the given number of others. -/
def insertAt (lexer : Lexer) (n : Nat) (token : Token) : Lexer :=
  { lexer with tokens :=
      (lexer.tokens.extract 0 n).push token ++ lexer.tokens.extract n lexer.tokens.size }

/-- Passes a number of characters. -/
def skip (lexer : Lexer) (n : Nat) : Lexer :=
  { lexer with cursor := lexer.cursor.skip n }

/-- Says whether a key may begin here. -/
def allowKey (lexer : Lexer) (allowed : Bool) : Lexer :=
  { lexer with keyAllowed := allowed }

/-! ## Indentation -/

/-- The column of the cursor. -/
def column (lexer : Lexer) : Int :=
  lexer.cursor.column

/-- Starts a sequence or mapping at a column if that is indented more, with its token after the
given number of others. -/
def indentTo (lexer : Lexer) (column : Int) (place : Nat) (token : Token) : Lexer :=
  if !lexer.inFlow && lexer.indent < column then
    { lexer with outer := lexer.indent :: lexer.outer, indent := column }.insertAt place token
  else lexer

/-- Ends the sequences and mappings that are indented more than a column. -/
def closeTo (lexer : Lexer) (column : Int) : Lexer :=
  if lexer.inFlow then lexer else go lexer.outer lexer
where
  /-- Goes through the indentations around the current one. -/
  go : List Int → Lexer → Lexer
    | [], lexer => lexer
    | around :: outer, lexer =>
      if column < lexer.indent then
        go outer ({ lexer with indent := around, outer := outer }.push .blockEnd)
      else lexer

/-! ## Keys -/

/-- The longest key on one line. -/
def maxKeyLength : Nat := 1024

/-- Forgets that a key may have begun at the current level; a required one must not be forgotten. -/
def dropKey? (lexer : Lexer) : Option Lexer :=
  match lexer.keys with
  | some key :: rest =>
    if key.required then none else some { lexer with keys := none :: rest }
  | _ => some lexer

/-- Forgets the places where no key can have begun, because the line is over or the text since then
is too long. -/
def dropStaleKeys? (lexer : Lexer) : Option Lexer := do
  let keep (key : Option PossibleKey) : Option (Option PossibleKey) :=
    match key with
    | none => some none
    | some found =>
      if found.mark.line < lexer.cursor.line ||
          found.mark.index + maxKeyLength < lexer.cursor.index then
        if found.required then none else some none
      else some key
  let keys ← lexer.keys.mapM keep
  pure { lexer with keys := keys }

/-- Notes that a key may begin here, if that is allowed. -/
def saveKey? (lexer : Lexer) : Option Lexer :=
  if lexer.keyAllowed then do
    let required := !lexer.inFlow && lexer.indent = lexer.column
    let lexer ← lexer.dropKey?
    pure { lexer with
      keys := some ⟨required, lexer.tokens.size, lexer.cursor⟩ :: lexer.keys.drop 1 }
  else some lexer

/-! ## Blanks between tokens -/

/-- Passes blanks, comments and line ends. Tabs do not count where indentation matters. A byte order
mark may start a line and takes up a column of it. -/
def skipBlanks : Nat → Lexer → Lexer
  | 0, lexer => lexer
  | fuel + 1, lexer =>
    let cursor := lexer.cursor
    let cursor := if cursor.column = 0 && cursor.isAt '\uFEFF' then cursor.skip 1 else cursor
    let cursor := cursor.skipWhile fun c =>
      c = ' ' || (c = '\t' && (lexer.inFlow || !lexer.keyAllowed))
    let cursor := if cursor.isAt '#' then cursor.skipLine else cursor
    if cursor.isAtBreak then
      skipBlanks fuel { lexer with
        cursor := cursor.readBreak.2, keyAllowed := lexer.keyAllowed || !lexer.inFlow }
    else { lexer with cursor := cursor }

/-! ## Directives and tags -/

/-- Reads a number of at most nine digits. -/
def number? (cursor : Cursor) : Option (Nat × Cursor) :=
  let digits := cursor.rest.takeWhile Char.isDigit
  if digits.isEmpty || digits.length > 9 then none
  else some (digits.foldl (fun n c => n * 10 + (c.toNat - '0'.toNat)) 0, cursor.skip digits.length)

/-- Whether a character may stand in a tag; some only between angle brackets. -/
def isTagChar (verbatim : Bool) (c : Char) : Bool :=
  isNameChar c || ";/?:@&=+$.%!~*'()".toList.contains c || (verbatim && ",[]".toList.contains c)

/-- Reads the bytes of a tag; those that are written by number follow a percent sign. -/
def tagBytes? : List Char → Option Bytes
  | [] => some []
  | '%' :: high :: low :: rest => do
    let x ← Text.hexDigit? high
    let y ← Text.hexDigit? low
    let more ← tagBytes? rest
    pure (UInt8.ofNat (x * 16 + y) :: more)
  | '%' :: _ => none
  | c :: rest => (tagBytes? rest).map (String.utf8EncodeChar c ++ ·)

/-- Reads the text of a tag. -/
def tagText? (verbatim : Bool) (cursor : Cursor) : Option (String × Cursor) := do
  let written := cursor.rest.takeWhile (isTagChar verbatim)
  let text ← (← tagBytes? written).toString?
  pure (text, cursor.skip written.length)

/-- Reads the handle of a tag: an exclamation mark, and perhaps a name and another one. -/
def handle? (cursor : Cursor) : Option (String × Cursor) :=
  if cursor.isAt '!' then
    let name := (cursor.rest.drop 1).takeWhile isNameChar
    let cursor := cursor.skip (1 + name.length)
    if cursor.isAt '!' then some (.ofList ('!' :: name ++ ['!']), cursor.skip 1)
    else some (.ofList ('!' :: name), cursor)
  else none

/-- Whether a handle is closed by an exclamation mark. -/
def isClosed (handle : String) : Bool :=
  handle.length > 1 && handle.toList.getLast? = some '!'

/-- Reads the value of a version directive. -/
def version? (cursor : Cursor) : Option (Token × Cursor) := do
  let (major, cursor) ← number? (cursor.skipWhile isBlank)
  if !cursor.isAt '.' then none
  let (minor, cursor) ← number? (cursor.skip 1)
  pure (.versionDirective major minor, cursor)

/-- Reads the value of a tag directive. -/
def tagValue? (cursor : Cursor) : Option (Token × Cursor) := do
  let (handle, cursor) ← handle? (cursor.skipWhile isBlank)
  if handle ≠ "!" && !isClosed handle then none
  if !cursor.isAtBlank then none
  let (start, cursor) ← tagText? true (cursor.skipWhile isBlank)
  if start.isEmpty || !cursor.isBlankOrEnd 0 then none
  pure (.tagDirective handle start, cursor)

/-- Reads a directive with its line. -/
def directive? (cursor : Cursor) : Option (Token × Cursor) := do
  let cursor := cursor.skip 1
  let name := cursor.rest.takeWhile isNameChar
  let cursor := cursor.skip name.length
  if name.isEmpty || !cursor.isBlankOrEnd 0 then none
  let (token, cursor) ←
    if name = "YAML".toList then version? cursor
    else if name = "TAG".toList then tagValue? cursor
    else none
  let cursor := cursor.skipWhile isBlank
  let cursor := if cursor.isAt '#' then cursor.skipLine else cursor
  if cursor.isLineEnd then some (token, cursor.readBreak.2) else none

/-- Reads a tag. -/
def tag? (inFlow : Bool) (cursor : Cursor) : Option (Token × Cursor) := do
  let (token, cursor) ←
    if cursor.peekAt 1 = some '<' then do
      let (suffix, cursor) ← tagText? true (cursor.skip 2)
      if suffix.isEmpty || !cursor.isAt '>' then none
      pure (Token.tag "" suffix, cursor.skip 1)
    else do
      let (handle, cursor) ← handle? cursor
      let (suffix, cursor) ← tagText? false cursor
      if isClosed handle then
        if suffix.isEmpty then none else pure (Token.tag handle suffix, cursor)
      else
        let suffix := .ofList (handle.toList.drop 1) ++ suffix
        pure (if suffix.isEmpty then Token.tag "" "!" else Token.tag "!" suffix, cursor)
  if cursor.isBlankOrEnd 0 || (inFlow && cursor.isAt ',') then some (token, cursor) else none

/-- Reads the name of an anchor. -/
def name? (cursor : Cursor) : Option (String × Cursor) :=
  let name := (cursor.rest.drop 1).takeWhile isNameChar
  let cursor := cursor.skip (1 + name.length)
  let ends := cursor.isBlankOrEnd 0 || cursor.peek.any ("?:,]\x7d%@`".toList.contains ·)
  if !name.isEmpty && ends then some (.ofList name, cursor) else none

/-! ## Tokens -/

/-- Adds a token that reaches to a cursor. -/
def pushTo (lexer : Lexer) (token : Token) (cursor : Cursor) : Lexer :=
  { lexer with cursor := cursor }.push token

/-- Reads a directive, or the start or end of a document. -/
def outside? (lexer : Lexer) (read : Cursor → Option (Token × Cursor)) : Option Lexer := do
  let lexer ← (lexer.closeTo (-1)).dropKey?
  let (token, cursor) ← read lexer.cursor
  pure ((lexer.allowKey false).pushTo token cursor)

/-- Reads an opening bracket or brace. -/
def openFlow? (lexer : Lexer) (token : Token) : Option Lexer := do
  let lexer ← lexer.saveKey?
  pure (({ lexer with keys := none :: lexer.keys }.allowKey true).push token |>.skip 1)

/-- Reads a closing bracket or brace. -/
def closeFlow? (lexer : Lexer) (token : Token) : Option Lexer := do
  let lexer ← lexer.dropKey?
  let keys := if lexer.inFlow then lexer.keys.drop 1 else lexer.keys
  pure (({ lexer with keys := keys }.allowKey false).push token |>.skip 1)

/-- Reads a comma. -/
def comma? (lexer : Lexer) : Option Lexer := do
  let lexer ← lexer.dropKey?
  pure ((lexer.allowKey true).push .flowEntry |>.skip 1)

/-- Reads the hyphen before an element. -/
def entry? (lexer : Lexer) : Option Lexer := do
  if !lexer.inFlow && !lexer.keyAllowed then none
  let lexer ← (lexer.indentTo lexer.column lexer.tokens.size .blockSequenceStart).dropKey?
  pure ((lexer.allowKey true).push .blockEntry |>.skip 1)

/-- Reads a question mark. -/
def question? (lexer : Lexer) : Option Lexer := do
  if !lexer.inFlow && !lexer.keyAllowed then none
  let lexer ← (lexer.indentTo lexer.column lexer.tokens.size .blockMappingStart).dropKey?
  pure ((lexer.allowKey (!lexer.inFlow)).push .key |>.skip 1)

/-- Reads a colon. If a key may have begun before it on the line, that is the key. -/
def colon? (lexer : Lexer) : Option Lexer :=
  match lexer.keys with
  | some found :: rest =>
    let lexer := { lexer with keys := none :: rest }.insertAt found.token .key
    let lexer := lexer.indentTo found.mark.column found.token .blockMappingStart
    some ((lexer.allowKey false).push .value |>.skip 1)
  | _ =>
    if !lexer.inFlow && !lexer.keyAllowed then none
    else
      let lexer := lexer.indentTo lexer.column lexer.tokens.size .blockMappingStart
      some ((lexer.allowKey (!lexer.inFlow)).push .value |>.skip 1)

/-- Reads a token that may be the start of a key. -/
def keyPart? (lexer : Lexer) (read : Cursor → Option (Token × Cursor)) : Option Lexer := do
  let lexer ← lexer.saveKey?
  let (token, cursor) ← read lexer.cursor
  pure ((lexer.allowKey false).pushTo token cursor)

/-- Reads a plain scalar. -/
def plain? (lexer : Lexer) : Option Lexer := do
  let lexer ← lexer.saveKey?
  let (text, endsLine, cursor) ←
    Scalar.plain? lexer.inFlow (lexer.indent + 1).toNat lexer.cursor
  pure ((lexer.allowKey endsLine).pushTo (.scalar text true) cursor)

/-- Reads a block. -/
def block? (lexer : Lexer) (literal : Bool) : Option Lexer := do
  let lexer ← lexer.dropKey?
  let (text, cursor) ← Scalar.block? literal lexer.indent lexer.cursor
  pure ((lexer.allowKey true).pushTo (.scalar text false) cursor)

/-- The characters that begin no plain scalar. -/
def isIndicator (c : Char) : Bool :=
  "-?:,[]\x7b\x7d#&*!|>'\"%@`".toList.contains c

/-- Whether a plain scalar may begin at a cursor. -/
def startsPlain (inFlow : Bool) (cursor : Cursor) : Bool :=
  match cursor.peek with
  | none => false
  | some c =>
    (!cursor.isBlankOrEnd 0 && !isIndicator c) ||
      (c = '-' && !(cursor.peekAt 1).any isBlank) ||
      (!inFlow && (c = '?' || c = ':') && !cursor.isBlankOrEnd 1)

/-- Reads the next token, at its first character. -/
def token? (lexer : Lexer) (c : Char) : Option Lexer :=
  let cursor := lexer.cursor
  if cursor.column = 0 && c = '%' then lexer.outside? directive?
  else if cursor.isAtSeparator then
    lexer.outside? fun cursor =>
      some (if c = '-' then .documentStart else .documentEnd, cursor.skip 3)
  else if c = '[' then lexer.openFlow? .flowSequenceStart
  else if c = '\x7b' then lexer.openFlow? .flowMappingStart
  else if c = ']' then lexer.closeFlow? .flowSequenceEnd
  else if c = '\x7d' then lexer.closeFlow? .flowMappingEnd
  else if c = ',' then lexer.comma?
  else if c = '-' && cursor.isBlankOrEnd 1 then lexer.entry?
  else if c = '?' && (lexer.inFlow || cursor.isBlankOrEnd 1) then lexer.question?
  else if c = ':' && (lexer.inFlow || cursor.isBlankOrEnd 1) then lexer.colon?
  else if c = '*' then
    lexer.keyPart? fun cursor => (name? cursor).map fun (name, cursor) => (.reference name, cursor)
  else if c = '&' then
    lexer.keyPart? fun cursor => (name? cursor).map fun (name, cursor) => (.anchor name, cursor)
  else if c = '!' then lexer.keyPart? (tag? lexer.inFlow)
  else if c = '|' && !lexer.inFlow then lexer.block? true
  else if c = '>' && !lexer.inFlow then lexer.block? false
  else if c = '\'' || c = '"' then
    lexer.keyPart? fun cursor =>
      (Scalar.quoted? (c = '\'') cursor).map fun (text, cursor) => (.scalar text false, cursor)
  else if startsPlain lexer.inFlow cursor then lexer.plain?
  else none

/-- Reads all tokens. -/
def run? : Nat → Lexer → Option Lexer
  | 0, _ => none
  | fuel + 1, lexer => do
    let lexer ← (lexer.skipBlanks (lexer.cursor.rest.length + 1)).dropStaleKeys?
    let lexer := lexer.closeTo lexer.column
    match lexer.cursor.peek with
    | none => (lexer.closeTo (-1)).dropKey?
    | some c => do
      let lexer ← lexer.token? c
      run? fuel lexer

end Lexer

/-- Reads the tokens of a text. -/
def Token.ofText? (text : List Char) : Option (List Token) := do
  if !text.all isAllowed then none
  let lexer ← Lexer.run? (text.length + 1) (.start text)
  pure lexer.tokens.toList

end Hypermedia.Yaml
