import Hypermedia.Decimal.Binary64
import Hypermedia.Text.CodePoints

/-!
# What plain scalars stand for

A plain scalar without a tag may stand for null, a truth value or a number, by its text.

* `Plain.ofText` is what a text stands for.
* `Plain.ofTagged?` is what it stands for when its tag says what it has to be.
-/

namespace Hypermedia.Yaml

/-- What a scalar stands for. -/
inductive Plain where
  /-- Nothing. -/
  | null
  /-- A truth value. -/
  | bool (b : Bool)
  /-- An integer. -/
  | integer (n : Int)
  /-- A number that is not written as an integer. -/
  | real
  /-- The text itself. -/
  | text (s : String)
  deriving DecidableEq, Repr

namespace Plain

/-- Whether a text is a way to write null. -/
def isNull (text : String) : Bool :=
  ["null", "Null", "NULL", "~"].contains text

/-- The truth value that a text writes. -/
def bool? (text : String) : Option Bool :=
  if ["true", "True", "TRUE"].contains text then some true
  else if ["false", "False", "FALSE"].contains text then some false
  else none

/-! ## Integers -/

/-- The number that digits of a base write. -/
def natural? (base : Nat) (digits : List Char) : Option Nat :=
  if digits.isEmpty then none
  else digits.foldlM (fun n c => do
    let digit ← Text.hexDigit? c
    if digit < base then some (n * base + digit) else none) 0

/-- Whether digits start with a zero that has no use; such a text is no number. -/
def hasLeadingZero (digits : List Char) : Bool :=
  digits.length > 1 && digits.head? = some '0' && digits.all Char.isDigit

/-- The number that a text without a sign writes. -/
def unsigned? : List Char → Option Nat
  | '0' :: 'x' :: digits => natural? 16 digits
  | '0' :: 'o' :: digits => natural? 8 digits
  | '0' :: 'b' :: digits => natural? 2 digits
  | digits => if hasLeadingZero digits then none else natural? 10 digits

/-- The sign of a text, and the rest. -/
def signed : List Char → Bool × List Char
  | '-' :: rest => (true, rest)
  | '+' :: rest => (false, rest)
  | rest => (false, rest)

/-- The integer that a text writes, if it has at most 128 bits. -/
def integer? (text : List Char) : Option Int := do
  let (negative, rest) := signed text
  let n ← unsigned? rest
  if negative then
    if n ≤ Nat.pow 2 127 then some (-n) else none
  else if n < Nat.pow 2 128 then some n
  else none

/-! ## Other numbers -/

/-- Reads an exponent: nothing, or `e` and digits that may have a sign. -/
def exponent? : List Char → Option Int
  | [] => some 0
  | e :: rest =>
    if e = 'e' || e = 'E' then do
      let (negative, digits) := signed rest
      let n ← natural? 10 digits
      pure (if negative then -n else n)
    else none

/-- Whether a text writes a finite number: digits with or without a point, and perhaps an exponent.
-/
def isDecimal (text : List Char) : Bool :=
  let whole := text.takeWhile Char.isDigit
  let rest := text.dropWhile Char.isDigit
  let (fraction, rest) := match rest with
    | '.' :: rest => (rest.takeWhile Char.isDigit, rest.dropWhile Char.isDigit)
    | rest => ([], rest)
  match natural? 10 (whole ++ fraction), exponent? rest with
  | some n, some exponent => Binary64.isFiniteScaled n (exponent - fraction.length)
  | _, _ => false

/-- Whether a text writes a number that need not be an integer. -/
def isReal (text : List Char) : Bool :=
  let infinities := [".inf", ".Inf", ".INF"].map String.toList
  let nans := [".nan", ".NaN", ".NAN"].map String.toList
  let (_, rest) := signed text
  infinities.contains rest || nans.contains text || isDecimal rest

/-! ## Texts -/

/-- What a text stands for. -/
def ofText (text : String) : Plain :=
  if text.isEmpty || isNull text then .null
  else
    match bool? text, integer? text.toList with
    | some b, _ => .bool b
    | none, some n => .integer n
    | none, none =>
      if !hasLeadingZero (signed text.toList).2 && isReal text.toList then .real else .text text

/-- What a text stands for under a tag; a tag of a common type has to fit the text. -/
def ofTagged? (tag text : String) : Option Plain :=
  if tag = "tag:yaml.org,2002:bool" then (bool? text).map .bool
  else if tag = "tag:yaml.org,2002:int" then (integer? text.toList).map .integer
  else if tag = "tag:yaml.org,2002:float" then
    if isReal text.toList then some .real else none
  else if tag = "tag:yaml.org,2002:null" then if isNull text then some .null else none
  else some (.text text)

end Plain

end Hypermedia.Yaml
