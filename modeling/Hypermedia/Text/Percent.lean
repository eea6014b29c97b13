import Hypermedia.Text.CodePoints
import Hypermedia.Text.Utf8

/-!
# Percent-encoding

A byte is written as `%` and two hexadecimal digits. Decoding leaves a `%` that no two digits
follow as it is; encoding keeps the characters of a given class and writes the bytes of all
others.
-/

namespace Hypermedia.Percent

/-- The upper-case hexadecimal digit for a number below sixteen. -/
def hexUpper (n : Nat) : Char :=
  if n < 10 then Char.ofNat ('0'.toNat + n) else Char.ofNat ('A'.toNat + (n - 10))

/-- A byte as `%` and two digits. -/
def encodeByte (b : UInt8) : List Char :=
  ['%', hexUpper (b.toNat / 16), hexUpper (b.toNat % 16)]

/-- Encodes every byte. -/
def encodeBytes (bytes : Bytes) : List Char :=
  bytes.flatMap encodeByte

/-- One character: itself if the class `keeps` holds it, otherwise its bytes. -/
def encodeChar (keeps : Char → Bool) (c : Char) : List Char :=
  if keeps c then [c] else encodeBytes (String.utf8EncodeChar c)

/-- Encodes every character that the class `keeps` does not hold. -/
def encode (keeps : Char → Bool) (s : List Char) : List Char :=
  s.flatMap (encodeChar keeps)

/-- The value of a byte that is a hexadecimal digit. -/
def hexValue? (b : UInt8) : Option Nat :=
  Text.hexDigit? (Char.ofNat b.toNat)

/-- The bytes that a percent-encoded sequence stands for. -/
def decode : Bytes → Bytes
  | [] => []
  | b :: rest =>
    if b = 0x25 then
      match rest with
      | high :: low :: tail =>
        match hexValue? high, hexValue? low with
        | some x, some y => UInt8.ofNat (x * 16 + y) :: decode tail
        | _, _ => b :: decode (high :: low :: tail)
      | rest => b :: decode rest
    else b :: decode rest

end Hypermedia.Percent
