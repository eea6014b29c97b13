import Hypermedia.Json.Basic
import Hypermedia.Json.Literal
import Hypermedia.Text.Utf8

/-!
# Reading JSON documents

A written value becomes a document: numbers are rounded, strings must be texts, and nesting is
limited.

* `Json.numberOf?` gives a written number its value.
* `Json.ofLiteral?` reads a written value within a nesting limit.
* `Json.parse?` and `Json.parseBytes?` read whole texts.
-/

namespace Hypermedia.Json

/-! ## Numbers -/

/-- The number that decimal digits write. -/
def natOfDigits (digits : List Char) : Nat :=
  digits.foldl (fun n c => n * 10 + (c.toNat - '0'.toNat)) 0

/-- The longest beginning of the digits that stays below `2^64` when it continues the number
`n`, as a number, and how many digits were not taken. -/
def takeDigits (n : Nat) : List Char → Nat × List Char
  | [] => (n, [])
  | c :: rest =>
    let next := n * 10 + (c.toNat - '0'.toNat)
    if next < Nat.pow 2 64 then takeDigits next rest else (n, c :: rest)

/-- The significand of a number, below `2^64`, and the power of ten that goes with it. Digits
that do not fit are dropped: those of the integer part count for the power. -/
def significand (text : NumberText) : Nat × Int :=
  let (n, dropped) := takeDigits 0 text.whole
  let fraction := text.fraction.getD []
  let (n', rest) := takeDigits n fraction
  (n', (dropped.length : Int) - ((fraction.length - rest.length : Nat) : Int))

/-- The greatest exponent that is read as such. -/
def maxExponent : Nat := 2147483647

/-- The double that a number with a point, an exponent or too many digits stands for; `none` if it
is infinite. -/
def doubleOf? (text : NumberText) : Option Binary64 :=
  let (n, power) := significand text
  let signed (d : Binary64) : Binary64 := { d with negative := text.negative }
  match text.exponent with
  | none => (Binary64.scale? n power).map signed
  | some (negative, digits) =>
    let e := natOfDigits digits
    if e > maxExponent then
      if n ≠ 0 && !negative then none else some (Binary64.zero text.negative)
    else
      let exponent : Int := if negative then power - e else power + e
      (Binary64.scale? n (max (-2147483648) (min exponent 2147483647))).map signed

/-- The value of a written number: an exact integer if it is one between `-2^63` and `2^64 - 1`,
but for a negative zero, and otherwise a double. -/
def numberOf? (text : NumberText) : Option Number :=
  let n := natOfDigits text.whole
  if text.fraction.isNone && text.exponent.isNone && n < Nat.pow 2 64 then
    if !text.negative then some (.integer n)
    else if n ≠ 0 && n ≤ Nat.pow 2 63 then some (.integer (-n))
    else (Binary64.roundRatio? n 1).map fun d => .double { d with negative := true }
  else (doubleOf? text).map .double

/-! ## Documents -/

mutual

/-- Reads a written value; the first argument limits the nesting of arrays and objects. -/
def ofLiteral? : Nat → Literal → Option Json
  | _, .null => some .null
  | _, .bool b => some (.bool b)
  | _, .number text => (numberOf? text).map .number
  | _, .string text => text.map .string
  | 0, .array _ => none
  | 0, .object _ => none
  | depth + 1, .array elements => (ofElements? depth elements).map .array
  | depth + 1, .object members => (ofMembers? depth [] members).map .object

/-- Reads written elements. -/
def ofElements? : Nat → List Literal → Option (List Json)
  | _, [] => some []
  | depth, element :: rest => do
    let found ← ofLiteral? depth element
    let more ← ofElements? depth rest
    pure (found :: more)

/-- Reads written members and adds them to those read before. -/
def ofMembers? : Nat → List (String × Json) → List (Option String × Literal) →
    Option (List (String × Json))
  | _, done, [] => some done
  | depth, done, (name, member) :: rest => do
    let name ← name
    let found ← ofLiteral? depth member
    ofMembers? depth (put done name found) rest

end

/-- How deep arrays and objects of a document may be nested. -/
def maxDepth : Nat := 127

/-- Reads the text of a document. -/
def parse? (text : List Char) : Option Json := do
  ofLiteral? maxDepth (← Literal.parse? text)

/-- Reads a document from bytes, which must be UTF-8. -/
def parseBytes? (bytes : Bytes) : Option Json := do
  parse? (← Utf8.decode? bytes)

end Hypermedia.Json
