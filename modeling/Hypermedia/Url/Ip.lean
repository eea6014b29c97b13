import Hypermedia.Text.Pieces
import Hypermedia.Text.Quoted

/-!
# Internet addresses in hosts

* `Ipv4.parse?` reads an address of one to four numbers, each decimal, octal after `0` or
  hexadecimal after `0x`; the last number fills the bytes that are left. `Ipv4.endsInNumber` says
  which hosts have to be such addresses.
* `Ipv6.parse?` reads eight groups, of which `::` may stand for a run of zeros and the last two may
  be written as an IPv4 address. `Ipv6.text` writes the shortest form.
-/

namespace Hypermedia.Url

/-! ## IPv4 -/

namespace Ipv4

/-- The number that digits of a base write. -/
def natOf (base : Nat) (digits : List Char) : Nat :=
  digits.foldl (fun n c => n * base + (Text.hexDigit? c).getD 0) 0

/-- Whether a character is an octal digit. -/
def isOctal (c : Char) : Bool :=
  '0' ≤ c && c ≤ '7'

/-- Whether a character is a hexadecimal digit. -/
def isHex (c : Char) : Bool :=
  (Text.hexDigit? c).isSome

/-- Reads one number of an address. -/
def number? : List Char → Option Nat
  | [] => none
  | '0' :: 'x' :: digits => if digits.all isHex then some (natOf 16 digits) else none
  | '0' :: 'X' :: digits => if digits.all isHex then some (natOf 16 digits) else none
  | '0' :: digits => if digits.all isOctal then some (natOf 8 digits) else none
  | digits => if digits.all Char.isDigit then some (natOf 10 digits) else none

/-- The parts of an address; a dot at the end does not count. -/
def parts (s : List Char) : List (List Char) :=
  let pieces := Text.splitOn '.' s
  if pieces.length > 1 && pieces.getLast? = some [] then pieces.dropLast else pieces

/-- Whether the last part is a number, so that the host has to be an address. -/
def endsInNumber (s : List Char) : Bool :=
  match (parts s).getLast? with
  | none => false
  | some last => !last.isEmpty && (last.all Char.isDigit || (number? last).isSome)

/-- The value of numbers of which the last fills `size` bytes and the others one each. -/
def combine? (size : Nat) : List Nat → Option Nat
  | [] => none
  | [last] => if last < Nat.pow 256 size then some last else none
  | n :: rest =>
    if n < 256 then (combine? (size - 1) rest).map (n * Nat.pow 256 (size - 1) + ·) else none

/-- Reads an address as a number below `2^32`. -/
def parse? (s : List Char) : Option Nat := do
  let numbers ← (parts s).mapM number?
  if numbers.length > 4 then none else combine? 4 numbers

/-- Four decimal numbers separated by dots. -/
def text (address : Nat) : String :=
  ".".intercalate ([16777216, 65536, 256, 1].map fun unit => toString (address / unit % 256))

end Ipv4

/-! ## IPv6 -/

namespace Ipv6

/-- Reads a group of one to four hexadecimal digits. -/
def group? (s : List Char) : Option Nat :=
  if !s.isEmpty && s.length ≤ 4 && s.all Ipv4.isHex then some (Ipv4.natOf 16 s) else none

/-- Reads a decimal number below 256 without leading zeros. -/
def byte? (s : List Char) : Option Nat :=
  if s.isEmpty || !s.all Char.isDigit || (s.head? = some '0' && s.length > 1) then none
  else if Ipv4.natOf 10 s < 256 then some (Ipv4.natOf 10 s) else none

/-- Reads four decimal numbers as two groups. -/
def dotted? (s : List Char) : Option (List Nat) := do
  match ← (Text.splitOn '.' s).mapM byte? with
  | [a, b, c, d] => some [a * 256 + b, c * 256 + d]
  | _ => none

/-- Reads groups of which the last may be written as four decimal numbers. -/
def groups? : List (List Char) → Option (List Nat)
  | [] => some []
  | [last] => if last.contains '.' then dotted? last else (group? last).map ([·])
  | s :: rest => do
    let n ← group? s
    let more ← groups? rest
    pure (n :: more)

/-- Cuts a text at its first double colon. -/
def cutDouble : List Char → Option (List Char × List Char)
  | ':' :: ':' :: rest => some ([], rest)
  | [] => none
  | c :: rest => (cutDouble rest).map fun (before, after) => (c :: before, after)

/-- The groups between colons; none in an empty text. -/
def pieces (s : List Char) : List (List Char) :=
  if s.isEmpty then [] else Text.splitOn ':' s

/-- Reads an address as its eight groups. -/
def parse? (s : List Char) : Option (List Nat) :=
  match cutDouble s with
  | none => do
    let found ← groups? (pieces s)
    if found.length = 8 then some found else none
  | some (before, after) => do
    let front ← (pieces before).mapM group?
    let back ← groups? (pieces after)
    let given := front.length + back.length
    if given < 8 then some (front ++ List.replicate (8 - given) 0 ++ back) else none

/-- How many zeros a list starts with. -/
def leadingZeros (groups : List Nat) : Nat :=
  (groups.takeWhile (· = 0)).length

/-- The place and length of the first of the longest runs of zeros. -/
def longestZeros (groups : List Nat) : Nat × Nat :=
  (List.range groups.length).foldl (fun best i =>
    let n := leadingZeros (groups.drop i)
    if best.2 < n then (i, n) else best) (0, 0)

/-- Groups in lower-case hexadecimal, separated by colons. -/
def joined (groups : List Nat) : String :=
  ":".intercalate (groups.map fun n => .ofList (Text.hexDigits n))

/-- Writes an address; the longest run of at least two zeros is written as a double colon. -/
def text (groups : List Nat) : String :=
  let (start, length) := longestZeros groups
  if length < 2 then joined groups
  else joined (groups.take start) ++ "::" ++ joined (groups.drop (start + length))

end Ipv6

end Hypermedia.Url
