import Hypermedia.Decimal.Binary64
import Hypermedia.Text.CodePoints
import Hypermedia.Toml.Basic

/-!
# Numbers, dates and times in TOML

Values that start with a digit or a sign. Underscores may stand between digits.

* `number?` reads a value; it tries dates and times first, and integers last.
-/

namespace Hypermedia.Toml

/-! ## Digits -/

/-- Reads digits between which single underscores may stand: the digits and the rest. -/
def digits? (isDigit : Char → Bool) (s : List Char) : Option (List Char × List Char) :=
  match s with
  | [] => none
  | c :: rest =>
    if isDigit c then go [c] rest else none
where
  /-- Reads further digits. -/
  go (found : List Char) : List Char → Option (List Char × List Char)
    | [] => some (found, [])
    | '_' :: c :: rest => if isDigit c then go (found ++ [c]) rest else none
    | c :: rest =>
      if c = '_' then none
      else if isDigit c then go (found ++ [c]) rest
      else some (found, c :: rest)

/-- The number that digits of a base write. -/
def natOf (base : Nat) (digits : List Char) : Nat :=
  digits.foldl (fun n c => n * base + (Text.hexDigit? c).getD 0) 0

/-- Whether a character is a digit of a base. -/
def isDigitOf (base : Nat) (c : Char) : Bool :=
  (Text.hexDigit? c).any (· < base)

/-- Reads a sign: whether it is a minus, and the rest. -/
def sign : List Char → Bool × List Char
  | '-' :: rest => (true, rest)
  | '+' :: rest => (false, rest)
  | s => (false, s)

/-- Reads the digits of a decimal integer: a zero, or digits that start with none. -/
def whole? : List Char → Option (List Char × List Char)
  | '0' :: rest => some (['0'], rest)
  | s => digits? Char.isDigit s

/-! ## Integers -/

/-- An integer, if it has 64 bits. -/
def integerOf? (negative : Bool) (n : Nat) : Option Value :=
  if negative then if n ≤ Nat.pow 2 63 then some (.integer (-n)) else none
  else if n < Nat.pow 2 63 then some (.integer n) else none

/-- Reads an integer; only a decimal one has a sign. -/
def integer? (s : List Char) : Option (Value × List Char) :=
  let based (base : Nat) (rest : List Char) : Option (Value × List Char) := do
    let (digits, rest) ← digits? (isDigitOf base) rest
    let value ← integerOf? false (natOf base digits)
    pure (value, rest)
  match s with
  | '0' :: 'x' :: rest => based 16 rest
  | '0' :: 'o' :: rest => based 8 rest
  | '0' :: 'b' :: rest => based 2 rest
  | s => do
    let (negative, rest) := sign s
    let (digits, rest) ← whole? rest
    let value ← integerOf? negative (natOf 10 digits)
    pure (value, rest)

/-! ## Other numbers -/

/-- Reads the digits after a point, if a point follows. -/
def fraction? (s : List Char) : Option (List Char × List Char) :=
  match s with
  | '.' :: rest => digits? Char.isDigit rest
  | s => some ([], s)

/-- Reads an exponent, if one follows. -/
def exponent? (s : List Char) : Option (Int × List Char) :=
  match s with
  | c :: rest =>
    if c = 'e' || c = 'E' then do
      let (negative, rest) := sign rest
      let (digits, rest) ← digits? Char.isDigit rest
      let n := natOf 10 digits
      pure (if negative then -n else n, rest)
    else some (0, s)
  | [] => some (0, s)

/-- Reads a number with a point, an exponent or both. One that is too great must be negative. -/
def decimal? (s : List Char) : Option (Value × List Char) := do
  let (negative, afterSign) := sign s
  let (whole, afterWhole) ← whole? afterSign
  let (fraction, afterFraction) ← fraction? afterWhole
  let (exponent, rest) ← exponent? afterFraction
  if rest.length = afterWhole.length then none
  else
    let n := natOf 10 (whole ++ fraction)
    if negative || Binary64.isFiniteScaled n (exponent - fraction.length) then
      some (.real, rest)
    else none

/-- Reads infinity or what is no number. -/
def special? (s : List Char) : Option (Value × List Char) :=
  match (sign s).2 with
  | 'i' :: 'n' :: 'f' :: rest => some (.real, rest)
  | 'n' :: 'a' :: 'n' :: rest => some (.real, rest)
  | _ => none

/-! ## Dates and times -/

/-- Reads a number of so many digits within bounds. -/
def field? (length low high : Nat) (s : List Char) : Option (Nat × List Char) :=
  let digits := s.take length
  let n := natOf 10 digits
  if digits.length = length && digits.all Char.isDigit && low ≤ n && n ≤ high then
    some (n, s.drop length)
  else none

/-- Passes a character that has to follow. -/
def mark? (c : Char) : List Char → Option (List Char)
  | d :: rest => if c = d then some rest else none
  | [] => none

/-- The number of days of a month. -/
def daysOf (year month : Nat) : Nat :=
  if month = 2 then
    if year % 4 = 0 && (year % 100 ≠ 0 || year % 400 = 0) then 29 else 28
  else if [4, 6, 9, 11].contains month then 30
  else 31

/-- Passes a date. -/
def date? (s : List Char) : Option (List Char) := do
  let (year, s) ← field? 4 0 9999 s
  let (month, s) ← field? 2 1 12 (← mark? '-' s)
  let (day, s) ← field? 2 1 31 (← mark? '-' s)
  if day ≤ daysOf year month then some s else none

/-- Passes the parts of a second, if a point follows. -/
def secondPart? (s : List Char) : Option (List Char) :=
  match s with
  | '.' :: rest =>
    let found := rest.takeWhile Char.isDigit
    if found.isEmpty then none else some (rest.drop found.length)
  | s => some s

/-- Passes a time of a day. -/
def time? (s : List Char) : Option (List Char) := do
  let (_, s) ← field? 2 0 23 s
  let (_, s) ← field? 2 0 59 (← mark? ':' s)
  let (_, s) ← field? 2 0 60 (← mark? ':' s)
  secondPart? s

/-- Passes the distance from universal time, if there is one. -/
def offset? (s : List Char) : Option (List Char) :=
  match s with
  | c :: rest =>
    if c = 'Z' || c = 'z' then some rest
    else if c = '+' || c = '-' then do
      let (_, rest) ← field? 2 0 23 rest
      let (_, rest) ← field? 2 0 59 (← mark? ':' rest)
      pure rest
    else some s
  | [] => some s

/-- Passes a date that a time may follow. -/
def dateAndTime? (s : List Char) : Option (List Char) := do
  let rest ← date? s
  match rest with
  | c :: afterMark =>
    if c = 'T' || c = 't' || c = ' ' then
      match time? afterMark with
      | some rest => offset? rest
      | none => some rest
    else some rest
  | [] => some rest

/-- Reads a date, a time or both. -/
def moment? (s : List Char) : Option (Value × List Char) :=
  ((dateAndTime? s).orElse fun _ => time? s).map fun rest => (.moment, rest)

/-! ## All -/

/-- Reads a date, a time or a number. -/
def number? (s : List Char) : Option (Value × List Char) :=
  ((moment? s).orElse fun _ => decimal? s).orElse fun _ =>
    (special? s).orElse fun _ => integer? s

end Hypermedia.Toml
