import Hypermedia.Text.CodePoints
import Hypermedia.Yaml.Cursor

/-!
# Scalars of a YAML text

The three ways to write a text: plain, between quotes, and as a block of lines.

* Lines of a plain or quoted scalar are folded: a single line end becomes a blank, and of several
  line ends the first is dropped.
* `Scalar.plain?`, `Scalar.quoted?` and `Scalar.block?` read one, and return its text and where it
  ends.
-/

namespace Hypermedia.Yaml.Scalar

/-! ## Gaps between words -/

/-- The blanks or line ends between two words. -/
inductive Gap where
  /-- Blanks on one line. -/
  | blanks (found : List Char)
  /-- The first line end and the others; there may be no first one if it was escaped. -/
  | breaks (first others : List Char)
  deriving Repr

/-- No gap. -/
def Gap.none : Gap := .blanks []

/-- What a gap stands for when another word follows. -/
def Gap.folded : Gap → List Char
  | .blanks found => found
  | .breaks ['\n'] [] => [' ']
  | .breaks ['\n'] others => others
  | .breaks first others => first ++ others

/-- Whether a gap has a line end. -/
def Gap.hasBreak : Gap → Bool
  | .blanks _ => false
  | .breaks _ _ => true

/-- Passes blanks and line ends and adds them to a gap. In a plain scalar no tab may stand in the
indentation; `indent` is the indentation then. -/
def readGap? (indent : Option Nat) : Nat → Gap → Cursor → Option (Gap × Cursor)
  | 0, gap, cursor => some (gap, cursor)
  | fuel + 1, gap, cursor =>
    match cursor.peek with
    | some c =>
      if isBlank c then
        match gap with
        | .blanks found => readGap? indent fuel (.blanks (found ++ [c])) (cursor.skip 1)
        | .breaks .. =>
          if c = '\t' && indent.any (cursor.column < ·) then Option.none
          else readGap? indent fuel gap (cursor.skip 1)
      else if isBreak c then
        let (lineEnd, cursor) := cursor.readBreak
        match gap with
        | .blanks _ => readGap? indent fuel (.breaks lineEnd []) cursor
        | .breaks first others => readGap? indent fuel (.breaks first (others ++ lineEnd)) cursor
      else some (gap, cursor)
    | Option.none => some (gap, cursor)

/-! ## Plain scalars -/

/-- Whether a character has a meaning between brackets. -/
def isFlowMark (c : Char) : Bool :=
  c = ',' || c = '[' || c = ']' || c = '\x7b' || c = '\x7d'

/-- Whether a word of a plain scalar ends here. -/
def endsWord (inFlow : Bool) (cursor : Cursor) : Bool :=
  cursor.isBlankOrEnd 0 || (cursor.isAt ':' && cursor.isBlankOrEnd 1) ||
    (inFlow && cursor.peek.any isFlowMark)

/-- Whether a colon stands here that may not stand between brackets. -/
def hasBadColon (inFlow : Bool) (cursor : Cursor) : Bool :=
  inFlow && cursor.isAt ':' && (cursor.peekAt 1).any fun c => isFlowMark c || c = '?'

/-- Reads the characters of a word. -/
def word? (inFlow : Bool) : Nat → List Char → Cursor → Option (List Char × Cursor)
  | 0, _, _ => none
  | fuel + 1, found, cursor =>
    if cursor.isBlankOrEnd 0 then some (found, cursor)
    else if hasBadColon inFlow cursor then none
    else if endsWord inFlow cursor then some (found, cursor)
    else word? inFlow fuel (found ++ cursor.peek.toList) (cursor.skip 1)

/-- Reads words and gaps. -/
def plainFrom? (inFlow : Bool) (indent : Nat) :
    Nat → List Char → Gap → Cursor → Option (String × Bool × Cursor)
  | 0, _, _, _ => none
  | fuel + 1, found, gap, cursor =>
    if cursor.isAtSeparator || cursor.isAt '#' then some (.ofList found, gap.hasBreak, cursor)
    else do
      let (word, cursor) ← word? inFlow fuel [] cursor
      let (found, gap) :=
        if word.isEmpty then (found, gap) else (found ++ gap.folded ++ word, Gap.none)
      if !cursor.isAtBlank && !cursor.isAtBreak then
        some (.ofList found, gap.hasBreak, cursor)
      else
        let (gap, cursor) ← readGap? (some indent) fuel gap cursor
        if !inFlow && cursor.column < indent then some (.ofList found, gap.hasBreak, cursor)
        else plainFrom? inFlow indent fuel found gap cursor

/-- Reads a plain scalar: its text, whether a line ended after it, and where it ends. -/
def plain? (inFlow : Bool) (indent : Nat) (cursor : Cursor) : Option (String × Bool × Cursor) :=
  plainFrom? inFlow indent (cursor.rest.length + 2) [] Gap.none cursor

/-! ## Quoted scalars -/

/-- The character that an escape of one letter stands for. -/
def escape? : Char → Option Char
  | '0' => some '\x00'
  | 'a' => some '\x07'
  | 'b' => some '\x08'
  | 't' => some '\t'
  | '\t' => some '\t'
  | 'n' => some '\n'
  | 'v' => some '\x0b'
  | 'f' => some '\x0c'
  | 'r' => some '\r'
  | 'e' => some '\x1b'
  | ' ' => some ' '
  | '"' => some '"'
  | '/' => some '/'
  | '\\' => some '\\'
  | 'N' => some '\u0085'
  | '_' => some '\u00a0'
  | 'L' => some '\u2028'
  | 'P' => some '\u2029'
  | _ => none

/-- The number of digits of an escape by number. -/
def escapeLength? : Char → Option Nat
  | 'x' => some 2
  | 'u' => some 4
  | 'U' => some 8
  | _ => none

/-- The character that hexadecimal digits name. -/
def charOf? (digits : List Char) : Option Char :=
  if digits.all fun c => (Text.hexDigit? c).isSome then
    let n := Text.hexNumber digits
    if n < 0xD800 || (0xDFFF < n && n < 0x110000) then some (Char.ofNat n) else none
  else none

/-- Reads what follows a backslash. -/
def readEscape? (cursor : Cursor) : Option (Char × Cursor) := do
  let letter ← cursor.peek
  match escapeLength? letter with
  | none => do
    let c ← escape? letter
    pure (c, cursor.skip 1)
  | some length => do
    let digits := (cursor.rest.drop 1).take length
    if digits.length < length then none
    let c ← charOf? digits
    pure (c, cursor.skip (1 + length))

/-- Reads the characters between two gaps: these, whether a line end was escaped after them, and
what follows. -/
def quotedWord? (single : Bool) : Nat → List Char → Cursor → Option (List Char × Bool × Cursor)
  | 0, _, _ => none
  | fuel + 1, found, cursor =>
    match cursor.peek with
    | none => some (found, false, cursor)
    | some c =>
      if cursor.isBlankOrEnd 0 then some (found, false, cursor)
      else if single then
        if c = '\'' then
          if cursor.peekAt 1 = some '\'' then
            quotedWord? single fuel (found ++ ['\'']) (cursor.skip 2)
          else some (found, false, cursor)
        else quotedWord? single fuel (found ++ [c]) (cursor.skip 1)
      else if c = '"' then some (found, false, cursor)
      else if c = '\\' then
        if (cursor.peekAt 1).any isBreak then
          some (found, true, ((cursor.skip 1).readBreak).2)
        else
          match readEscape? (cursor.skip 1) with
          | none => none
          | some (c, cursor) => quotedWord? single fuel (found ++ [c]) cursor
      else quotedWord? single fuel (found ++ [c]) (cursor.skip 1)

/-- Reads words and gaps up to the closing quote. -/
def quotedFrom? (single : Bool) : Nat → List Char → Cursor → Option (String × Cursor)
  | 0, _, _ => none
  | fuel + 1, found, cursor =>
    if cursor.isAtSeparator || cursor.peek.isNone then none
    else do
      let (word, escaped, cursor) ← quotedWord? single fuel [] cursor
      let found := found ++ word
      if cursor.isAt (if single then '\'' else '"') then some (.ofList found, cursor.skip 1)
      else
        let start := if escaped then Gap.breaks [] [] else Gap.none
        let (gap, cursor) ← readGap? none fuel start cursor
        quotedFrom? single fuel (found ++ gap.folded) cursor

/-- Reads a scalar that starts with the quote at the cursor. -/
def quoted? (single : Bool) (cursor : Cursor) : Option (String × Cursor) :=
  quotedFrom? single (cursor.rest.length + 2) [] (cursor.skip 1)

/-! ## Blocks -/

/-- What happens to the line ends after the last line of a block. -/
inductive Chomping where
  /-- All are dropped. -/
  | strip
  /-- The first is kept. -/
  | clip
  /-- All are kept. -/
  | keep
  deriving DecidableEq, Repr

/-- Reads the sign of a chomping. -/
def readChomping (cursor : Cursor) : Option Chomping × Cursor :=
  if cursor.isAt '+' then (some .keep, cursor.skip 1)
  else if cursor.isAt '-' then (some .strip, cursor.skip 1)
  else (none, cursor)

/-- Reads the digit of an indentation, which is not zero. -/
def readIncrement? (cursor : Cursor) : Option (Option Nat × Cursor) :=
  match cursor.peek with
  | some c =>
    if c = '0' then none
    else if c.isDigit then some (some (c.toNat - '0'.toNat), cursor.skip 1)
    else some (none, cursor)
  | none => some (none, cursor)

/-- Reads what follows the sign of a block, up to the end of its line. -/
def readHeader? (cursor : Cursor) : Option (Chomping × Option Nat × Cursor) := do
  let (chomping, cursor) := readChomping cursor
  let (increment, cursor) ← readIncrement? cursor
  let (chomping, cursor) :=
    if chomping.isNone && increment.isSome then readChomping cursor else (chomping, cursor)
  let cursor := cursor.skipWhile isBlank
  let cursor := if cursor.isAt '#' then cursor.skipLine else cursor
  if cursor.isLineEnd then some (chomping.getD .clip, increment, cursor.readBreak.2) else none

/-- Passes the indentation and the empty lines before a line of a block. Without a given indentation
the widest one counts. Returns the line ends, the widest indentation, and where the line starts. -/
def readIndentation? (indent : Option Nat) :
    Nat → List Char → Nat → Cursor → Option (List Char × Nat × Cursor)
  | 0, breaks, widest, cursor => some (breaks, widest, cursor)
  | fuel + 1, breaks, widest, cursor =>
    let blanks := (cursor.rest.takeWhile (· = ' ')).length
    let cursor := cursor.skip (match indent with
      | none => blanks
      | some n => min blanks (n - cursor.column))
    let widest := max widest cursor.column
    if cursor.isAt '\t' && indent.all (cursor.column < ·) then none
    else if cursor.isAtBreak then
      let (lineEnd, cursor) := cursor.readBreak
      readIndentation? indent fuel (breaks ++ lineEnd) widest cursor
    else some (breaks, widest, cursor)

/-- Reads the lines of a block. `last` is the end of the line before, `breaks` are those of the
empty lines after it, and `wasBlank` says whether the line before starts with a blank. -/
def blockLines? (literal : Bool) (indent : Nat) :
    Nat → List Char → List Char → List Char → Bool → Cursor →
    Option (List Char × List Char × List Char × Cursor)
  | 0, _, _, _, _, _ => none
  | fuel + 1, found, last, breaks, wasBlank, cursor =>
    if cursor.column = indent && cursor.peek.isSome then do
      let startsBlank := cursor.isAtBlank
      let joint :=
        if !literal && last = ['\n'] && !wasBlank && !startsBlank then
          (if breaks.isEmpty then [' '] else []) ++ breaks
        else last ++ breaks
      let line := cursor.rest.takeWhile (!isBreak ·)
      let (last, cursor) := cursor.skipLine.readBreak
      let (breaks, _, cursor) ← readIndentation? (some indent) fuel [] 0 cursor
      blockLines? literal indent fuel (found ++ joint ++ line) last breaks startsBlank cursor
    else some (found, last, breaks, cursor)

/-- Reads the block whose sign is at the cursor; `parent` is the indentation around it, which may be
below all columns. -/
def block? (literal : Bool) (parent : Int) (cursor : Cursor) : Option (String × Cursor) := do
  let (chomping, increment, cursor) ← readHeader? (cursor.skip 1)
  let fuel := cursor.rest.length + 2
  let given := increment.map fun n => (max parent 0).toNat + n
  let (breaks, widest, cursor) ← readIndentation? given fuel [] 0 cursor
  let indent := given.getD (max (max widest (parent + 1).toNat) 1)
  let (found, last, breaks, cursor) ← blockLines? literal indent fuel [] [] breaks false cursor
  let tail := match chomping with
    | .strip => []
    | .clip => last
    | .keep => last ++ breaks
  some (.ofList (found ++ tail), cursor)

end Hypermedia.Yaml.Scalar
