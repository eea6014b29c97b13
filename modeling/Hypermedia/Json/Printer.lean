import Hypermedia.Json.Basic
import Hypermedia.Text.Quoted
import Hypermedia.Text.Utf8

/-!
# Writing JSON documents

The compact text of a document: no blanks, the shortest decimals, and escapes only for the
quote, the backslash and the control characters below U+0020.
-/

namespace Hypermedia.Json

/-- A control character by four hexadecimal digits. -/
def controlEscape (c : Char) : List Char :=
  let digits := Text.hexDigits c.toNat
  '\\' :: 'u' :: List.replicate (4 - digits.length) '0' ++ digits

/-- One character of a written string. -/
def escapeChar (c : Char) : List Char :=
  match c with
  | '"' => ['\\', '"']
  | '\\' => ['\\', '\\']
  | '\x08' => ['\\', 'b']
  | '\x0c' => ['\\', 'f']
  | '\n' => ['\\', 'n']
  | '\r' => ['\\', 'r']
  | '\t' => ['\\', 't']
  | c => if c.toNat < 0x20 then controlEscape c else [c]

/-- A written string. -/
def renderString (s : String) : List Char :=
  '"' :: s.toList.flatMap escapeChar ++ ['"']

/-- A written number. -/
def Number.render : Number → List Char
  | .integer n => (toString n).toList
  | .double d => d.text.toList

mutual

/-- Writes a document. -/
def renderChars : Json → List Char
  | .null => "null".toList
  | .bool true => "true".toList
  | .bool false => "false".toList
  | .number n => n.render
  | .string s => renderString s
  | .array elements => '[' :: renderElements elements ++ [']']
  | .object members => '\x7b' :: renderMembers members ++ ['\x7d']

/-- Writes elements, separated by commas. -/
def renderElements : List Json → List Char
  | [] => []
  | [element] => renderChars element
  | element :: rest => renderChars element ++ ',' :: renderElements rest

/-- Writes members, separated by commas. -/
def renderMembers : List (String × Json) → List Char
  | [] => []
  | [(name, member)] => renderString name ++ ':' :: renderChars member
  | (name, member) :: rest =>
    renderString name ++ ':' :: renderChars member ++ ',' :: renderMembers rest

end

/-- The compact text of a document. -/
def render (document : Json) : String :=
  .ofList (renderChars document)

/-- The bytes of the compact text. -/
def renderBytes (document : Json) : Bytes :=
  Utf8.encode (renderChars document)

end Hypermedia.Json
