import Hypermedia.Text.Composition
import Hypermedia.Text.Direction
import Hypermedia.Text.Joining
import Hypermedia.Text.Mark
import Hypermedia.Text.Utf8
import Hypermedia.Url.Domain.Folding
import Hypermedia.Url.Domain.Permitted
import Hypermedia.Url.Punycode

/-!
# Domain names in ASCII

A domain name of any script is written in ASCII, label by label. Variants of characters are mapped
first and the text is composed; then every label has to be valid, and one that is not ASCII is
written in Punycode after `xn--`.

* `Domain.toAscii?` does all of it, and fails if a label is not valid.
* `Domain.isValidLabel`, `Domain.allowsJoiners` and `Domain.isOrdered` are the conditions on labels:
  no mark at the start, joiners only where they change the shape of letters, and one direction.
-/

namespace Hypermedia.Url.Domain

/-! ## Characters -/

/-- The ASCII characters that no label may hold: controls, the blank, and those that have a meaning
in the text of a URL. -/
def isForbidden (c : Char) : Bool :=
  c.toNat ≤ 0x20 || c.toNat = 0x7F || "%#/:<>?@[\\]^|".toList.contains c

/-- What a character of a name stands for; none if it may not occur. -/
def mapChar? (c : Char) : Option (List Char) :=
  match fold? c with
  | some target => some target
  | none => if permitted.contains c then some [c] else none

/-- The name with its variants mapped, in composed form. -/
def mapped? (name : List Char) : Option (List Char) :=
  (name.mapM mapChar?).map fun chars => Text.Composition.normalize chars.flatten

/-! ## Labels -/

/-- The joiner that keeps letters apart. -/
def nonJoiner : Char := '\u200C'

/-- The joiner that ties letters together. -/
def joiner : Char := '\u200D'

/-- The combining class of the signs that suppress a vowel. -/
def viramaClass : Nat := 9

/-- Whether the letters around a place join across it, given those before it in reverse. -/
def joinsAcross (before after : List Char) : Bool :=
  let next (s : List Char) : Option Text.Joining :=
    ((s.map Text.Joining.of).dropWhile (· = .transparent)).head?
  (next before).any (fun j => j = .after || j = .both) &&
    (next after).any (fun j => j = .before || j = .both)

/-- Whether every joiner changes the shape of its neighbours; `before` is what precedes, in
reverse. -/
def allowsJoiners (before : List Char) : List Char → Bool
  | [] => true
  | c :: rest =>
    let allowed :=
      if c = nonJoiner || c = joiner then
        before.head?.any (Text.Composition.markClass · = viramaClass) ||
          (c = nonJoiner && joinsAcross before rest)
      else true
    allowed && allowsJoiners (c :: before) rest

/-- The longest label that is written in Punycode. -/
def maxLabel : Nat := 1000

/-- Whether a label, written in its own script, is valid by itself. -/
def isValidLabel (label : List Char) : Bool :=
  !label.any isForbidden && !label.contains '.' &&
    !label.head?.any Text.marks.contains && allowsJoiners [] label

/-! ## Direction -/

/-- Whether a name holds characters that are written from right to left. -/
def hasRightToLeft (name : List Char) : Bool :=
  name.any fun c =>
    match Text.Direction.of c with
    | .right | .arabic | .arabicDigit => true
    | _ => false

/-- The directions that may follow at the start of a label written from left to right. -/
def isLeftPart : Text.Direction → Bool
  | .left | .digit | .sign | .separator | .terminator | .neutral | .boundary | .mark => true
  | _ => false

/-- The directions that may follow at the start of a label written from right to left. -/
def isRightPart : Text.Direction → Bool
  | .left => false
  | _ => true

/-- Whether the directions of a label, in a name with right-to-left characters, make one run. -/
def isOrdered (directions : List Text.Direction) : Bool :=
  let last := (directions.reverse.dropWhile (· = .mark)).head?
  match directions with
  | [] => true
  | .left :: _ =>
    directions.all isLeftPart && last.any fun d => d = .left || d = .digit
  | .right :: _ | .arabic :: _ =>
    directions.all isRightPart &&
      last.any (fun d => d = .right || d = .arabic || d = .digit || d = .arabicDigit) &&
      !(directions.contains .digit && directions.contains .arabicDigit)
  | _ => false

/-! ## Names -/

/-- The start of a label in Punycode. -/
def encodedStart : List Char := "xn--".toList

/-- The longest text after the start of a label in Punycode. -/
def maxEncoded : Nat := 2000

/-- A label in its own script. A label in Punycode must be what its text would be written as. -/
def ownScript? (label : List Char) : Option (List Char) :=
  if encodedStart.isPrefixOf label then
    let text := label.drop encodedStart.length
    if text.isEmpty || text.getLast? = some '-' || text.length > maxEncoded then none
    else
      match Punycode.decode? text with
      | none => none
      | some decoded => if mapped? decoded = some decoded then some decoded else none
  else some label

/-- A label in ASCII. -/
def encodeLabel? (label : List Char) : Option (List Char) :=
  if label.all (·.toNat < 0x80) then some label
  else if label.length > maxLabel then none
  else some (encodedStart ++ Punycode.encode label)

/-- The name in ASCII, if all its labels are valid. -/
def toAscii? (bytes : Bytes) : Option (List Char) := do
  let name ← mapped? (Utf8.decodeLossy bytes)
  let labels := Text.splitOn '.' name
  let own ← labels.mapM ownScript?
  let ordered := !own.any hasRightToLeft || own.all fun label =>
    isOrdered (label.map Text.Direction.of)
  if own.all isValidLabel && ordered then
    (labels.mapM encodeLabel?).map (List.intercalate ['.'])
  else none

end Hypermedia.Url.Domain
