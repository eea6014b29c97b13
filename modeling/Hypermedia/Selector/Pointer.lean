import Hypermedia.Text.Pieces

/-!
# Selector pointers

A pointer selects places in a document: `/author/name` follows two keys, `/reviews/*` every
element of a list.

* `Segment` is one step of a pointer: a concrete key or the wildcard.
* `Segment.ofPointer` reads a pointer, `Segment.text` and `Segment.render` write one.
* Segments are ordered: keys by their characters, the wildcard after all keys.
-/

namespace Hypermedia

/-- One step of a pointer. -/
inductive Segment where
  /-- The member of this name, or the element at this decimal index. -/
  | key (name : String)
  /-- Every member or element that has no key of its own in the pointers. -/
  | wildcard
  deriving DecidableEq, Repr, Inhabited

namespace Segment

/-! ## Escapes -/

/-- A key as a pointer writes it: `~0` for a tilde and `~1` for a slash. -/
def escapeChars (s : List Char) : List Char :=
  s.flatMap fun c => if c = '~' then ['~', '0'] else if c = '/' then ['~', '1'] else [c]

/-- The key that a piece of a pointer writes. A tilde that no escape follows stands for
itself. -/
def unescapeChars : List Char → List Char
  | [] => []
  | '~' :: '1' :: rest => '/' :: unescapeChars rest
  | '~' :: '0' :: rest => '~' :: unescapeChars rest
  | c :: rest => c :: unescapeChars rest

/-- The escaped form of a key. -/
def escape (name : String) : String :=
  .ofList (escapeChars name.toList)

/-! ## Reading and writing -/

/-- The segment that a piece between two slashes writes. -/
def ofPiece (piece : List Char) : Segment :=
  if piece = ['*'] then wildcard else key (.ofList (unescapeChars piece))

/-- The segments of a pointer. Slashes at both ends do not count, and nothing between them is the
root. -/
def ofPointer (pointer : String) : List Segment :=
  match Text.trimEnds '/' pointer.toList with
  | [] => []
  | inner => (Text.splitOn '/' inner).map ofPiece

/-- A segment as a pointer writes it. -/
def text : Segment → String
  | key name => escape name
  | wildcard => "*"

/-- Writes the pointer that follows the segments. -/
def render (segments : List Segment) : String :=
  segments.foldl (fun pointer segment => pointer ++ "/" ++ segment.text) ""

/-! ## Order -/

/-- Whether one segment comes before another: keys in the order of their characters, then the
wildcard. -/
def before : Segment → Segment → Bool
  | key a, key b => a < b
  | key _, wildcard => true
  | wildcard, _ => false

end Segment

end Hypermedia
