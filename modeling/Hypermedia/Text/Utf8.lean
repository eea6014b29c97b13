/-!
# UTF-8

Text as bytes and bytes as text.

* `Utf8.encode` writes characters as bytes.
* `Utf8.units` reads bytes as a list of characters and ill-formed stretches. A stretch is the
  longest beginning of a well-formed sequence, or a single byte that begins none.
* `Utf8.decode?` succeeds on well-formed input only; `Utf8.decodeLossy` writes U+FFFD for
  every ill-formed stretch.
-/

namespace Hypermedia

/-- A sequence of octets. -/
abbrev Bytes := List UInt8

namespace Utf8

/-- The UTF-8 encoding of a sequence of characters. -/
def encode (s : List Char) : Bytes :=
  s.flatMap String.utf8EncodeChar

/-- Whether a byte continues a sequence. -/
def isContinuation (b : UInt8) : Bool :=
  0x80 ≤ b && b ≤ 0xBF

/-- Whether `b` may follow the lead byte `lead` of a sequence of three bytes; overlong forms and
surrogates are excluded here. -/
def followsThree (lead b : UInt8) : Bool :=
  if lead = 0xE0 then 0xA0 ≤ b && b ≤ 0xBF
  else if lead = 0xED then 0x80 ≤ b && b ≤ 0x9F
  else isContinuation b

/-- Whether `b` may follow the lead byte `lead` of a sequence of four bytes; overlong forms and
numbers beyond the last code point are excluded here. -/
def followsFour (lead b : UInt8) : Bool :=
  if lead = 0xF0 then 0x90 ≤ b && b ≤ 0xBF
  else if lead = 0xF4 then 0x80 ≤ b && b ≤ 0x8F
  else isContinuation b

/-- The six payload bits of a continuation byte. -/
def payload (b : UInt8) : Nat :=
  b.toNat % 64

/-- The characters of a byte sequence, with `none` for every ill-formed stretch. -/
def units : Bytes → List (Option Char)
  | [] => []
  | b :: rest =>
    if b < 0x80 then some (Char.ofNat b.toNat) :: units rest
    else if 0xC2 ≤ b && b ≤ 0xDF then
      match rest with
      | [] => [none]
      | c :: rest =>
        if isContinuation c then
          some (Char.ofNat (b.toNat % 32 * 64 + payload c)) :: units rest
        else none :: units (c :: rest)
    else if 0xE0 ≤ b && b ≤ 0xEF then
      match rest with
      | [] => [none]
      | c :: rest =>
        if followsThree b c then
          match rest with
          | [] => [none]
          | d :: rest =>
            if isContinuation d then
              some (Char.ofNat (b.toNat % 16 * 4096 + payload c * 64 + payload d)) :: units rest
            else none :: units (d :: rest)
        else none :: units (c :: rest)
    else if 0xF0 ≤ b && b ≤ 0xF4 then
      match rest with
      | [] => [none]
      | c :: rest =>
        if followsFour b c then
          match rest with
          | [] => [none]
          | d :: rest =>
            if isContinuation d then
              match rest with
              | [] => [none]
              | e :: rest =>
                if isContinuation e then
                  some (Char.ofNat (b.toNat % 8 * 262144 + payload c * 4096 + payload d * 64
                    + payload e)) :: units rest
                else none :: units (e :: rest)
            else none :: units (d :: rest)
        else none :: units (c :: rest)
    else none :: units rest

/-- The text that the bytes encode, if they are well formed. -/
def decode? (bytes : Bytes) : Option (List Char) :=
  (units bytes).mapM id

/-- The text that the bytes encode, with U+FFFD in place of every ill-formed stretch. -/
def decodeLossy (bytes : Bytes) : List Char :=
  (units bytes).map (·.getD '\uFFFD')

end Utf8

/-- The bytes of a string. -/
def Bytes.ofString (s : String) : Bytes :=
  Utf8.encode s.toList

/-- The string that the bytes encode, if they are well formed. -/
def Bytes.toString? (bytes : Bytes) : Option String :=
  (Utf8.decode? bytes).map String.ofList

end Hypermedia
