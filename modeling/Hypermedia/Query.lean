import Hypermedia.Text.Percent
import Hypermedia.Text.Pieces

/-!
# Query strings

A query string as a list of name and value pairs, in the encoding of HTML forms.

* `Query.pairs` reads the pairs: `&` separates them, the first `=` ends the name, `+` stands for
  a blank, and the rest is percent-encoded UTF-8. Empty pieces are skipped.
* `Query.render` writes pairs, so that reading gives them back.
-/

namespace Hypermedia.Query

/-- The text that one encoded name or value stands for. -/
def decodeComponent (bytes : Bytes) : String :=
  .ofList (Utf8.decodeLossy (Percent.decode (bytes.map fun b => if b = 0x2B then 0x20 else b)))

/-- One pair; a piece without `=` has an empty value. -/
def pair (piece : Bytes) : String × String :=
  let (name, value) := Text.cutAt 0x3D piece
  (decodeComponent name, decodeComponent (value.getD []))

/-- The pairs of a query string, in order. -/
def pairs (query : String) : List (String × String) :=
  ((Text.splitOn 0x26 (Bytes.ofString query)).filter (!·.isEmpty)).map pair

/-- The characters that stand for themselves in an encoded name or value. -/
def isPlain (c : Char) : Bool :=
  c.isAlphanum || c = '*' || c = '-' || c = '.' || c = '_'

/-- One character of an encoded name or value. -/
def encodeChar (c : Char) : List Char :=
  if c = ' ' then ['+'] else Percent.encodeChar isPlain c

/-- A name or value in the encoding of forms. -/
def encodeComponent (s : String) : List Char :=
  s.toList.flatMap encodeChar

/-- One pair in the encoding of forms. -/
def encodePair (p : String × String) : List Char :=
  encodeComponent p.1 ++ '=' :: encodeComponent p.2

/-- Writes pairs as a query string. -/
def render (ps : List (String × String)) : String :=
  .ofList (List.intercalate ['&'] (ps.map encodePair))

end Hypermedia.Query
