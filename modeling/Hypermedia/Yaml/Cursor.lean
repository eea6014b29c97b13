import Hypermedia.Text.Utf8

/-!
# Positions in a YAML text

A cursor is the rest of a text with the place where it starts. Line ends are of several kinds and
read as one: carriage return and line feed together, each of them alone, and next line all count
as a line feed; line and paragraph separators stand for themselves.
-/

namespace Hypermedia.Yaml

/-- Whether a character may occur in a YAML text. -/
def isAllowed (c : Char) : Bool :=
  let n := c.toNat
  n = 0x09 || n = 0x0A || n = 0x0D || (0x20 ≤ n && n ≤ 0x7E) || n = 0x85 ||
    (0xA0 ≤ n && n ≤ 0xD7FF) || (0xE000 ≤ n && n ≤ 0xFFFD) || 0x10000 ≤ n

/-- Whether a character is a blank or a tab. -/
def isBlank (c : Char) : Bool :=
  c = ' ' || c = '\t'

/-- Whether a character ends a line. -/
def isBreak (c : Char) : Bool :=
  c = '\n' || c = '\r' || c = '\u0085' || c = '\u2028' || c = '\u2029'

/-- Whether a character may stand in the name of an anchor or a directive. -/
def isNameChar (c : Char) : Bool :=
  c.isAlphanum || c = '_' || c = '-'

/-- The rest of a text, and where it starts. -/
structure Cursor where
  /-- The rest of the text. -/
  rest : List Char
  /-- The number of characters before it. -/
  index : Nat
  /-- The number of lines before it. -/
  line : Nat
  /-- The number of characters before it on its line. -/
  column : Nat
  deriving Repr, Inhabited

namespace Cursor

/-- The start of a text. -/
def start (text : List Char) : Cursor :=
  ⟨text, 0, 0, 0⟩

/-- The next character. -/
def peek (cursor : Cursor) : Option Char :=
  cursor.rest.head?

/-- The character after the given number of others. -/
def peekAt (cursor : Cursor) (n : Nat) : Option Char :=
  cursor.rest[n]?

/-- Whether the next character is the given one. -/
def isAt (cursor : Cursor) (c : Char) : Bool :=
  cursor.peek = some c

/-- Whether the character after some others is a blank, a line end or the end of the text. -/
def isBlankOrEnd (cursor : Cursor) (n : Nat) : Bool :=
  (cursor.peekAt n).all fun c => isBlank c || isBreak c

/-- Whether the next character is a line end or the end of the text. -/
def isLineEnd (cursor : Cursor) : Bool :=
  cursor.peek.all isBreak

/-- Whether the next character is a blank or a tab. -/
def isAtBlank (cursor : Cursor) : Bool :=
  cursor.peek.any isBlank

/-- Whether the next character ends a line. -/
def isAtBreak (cursor : Cursor) : Bool :=
  cursor.peek.any isBreak

/-- Passes a number of characters of the line. -/
def skip (cursor : Cursor) (n : Nat) : Cursor :=
  ⟨cursor.rest.drop n, cursor.index + n, cursor.line, cursor.column + n⟩

/-- Passes the characters of the line that have a property. -/
def skipWhile (cursor : Cursor) (p : Char → Bool) : Cursor :=
  cursor.skip (cursor.rest.takeWhile p).length

/-- Passes the rest of the line, but not its end. -/
def skipLine (cursor : Cursor) : Cursor :=
  cursor.skipWhile (!isBreak ·)

/-- Passes a line end, if there is one, and returns the character it stands for. -/
def readBreak (cursor : Cursor) : List Char × Cursor :=
  match cursor.rest with
  | '\r' :: '\n' :: rest => (['\n'], ⟨rest, cursor.index + 2, cursor.line + 1, 0⟩)
  | c :: rest =>
    if isBreak c then
      ([if c = '\u2028' || c = '\u2029' then c else '\n'],
        ⟨rest, cursor.index + 1, cursor.line + 1, 0⟩)
    else ([], cursor)
  | [] => ([], cursor)

/-- Whether a line of three hyphens or three dots starts here, which separates documents. -/
def isAtSeparator (cursor : Cursor) : Bool :=
  cursor.column = 0 && cursor.isBlankOrEnd 3 &&
    (['-', '-', '-'].isPrefixOf cursor.rest || ['.', '.', '.'].isPrefixOf cursor.rest)

end Cursor

end Hypermedia.Yaml
