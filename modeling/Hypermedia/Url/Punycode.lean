import Hypermedia.Text.Pieces

/-!
# Punycode

The labels of a domain name that are not ASCII, written in ASCII: first the ASCII characters of
the label, then, after a hyphen, the places and values of the others as differences in a
variable-length base of 36 digits.

* `Punycode.encode` writes a label, `Punycode.decode?` reads one.
* The loops end because the input, the number that is written, or the difference gets smaller.
-/

namespace Hypermedia.Url.Punycode

/-! ## Digits -/

/-- The character for a digit below 36: letters, then decimal digits. -/
def digitChar (d : Nat) : Char :=
  if d < 26 then Char.ofNat ('a'.toNat + d) else Char.ofNat ('0'.toNat + (d - 26))

/-- The value of a digit; capital letters count as small ones. -/
def digit? (c : Char) : Option Nat :=
  if 'a' ≤ c && c ≤ 'z' then some (c.toNat - 'a'.toNat)
  else if 'A' ≤ c && c ≤ 'Z' then some (c.toNat - 'A'.toNat)
  else if '0' ≤ c && c ≤ '9' then some (c.toNat - '0'.toNat + 26)
  else none

/-- The least digit that is not the last one of a number, for the digit of weight `k / 36`. -/
def threshold (bias k : Nat) : Nat :=
  if k ≤ bias then 1 else min 26 (k - bias)

/-! ## The bias -/

/-- Divides the difference until it is small, counting the digits that this takes. -/
def shrink (delta k : Nat) : Nat × Nat :=
  if 455 < delta then shrink (delta / 35) (k + 36) else (delta, k)
termination_by delta
decreasing_by exact Nat.div_lt_self (by omega) (by omega)

/-- The bias after a difference that leads to the given number of characters. -/
def adapt (delta count : Nat) (first : Bool) : Nat :=
  let delta := if first then delta / 700 else delta / 2
  let (delta, k) := shrink (delta + delta / count) 0
  k + 36 * delta / (delta + 38)

/-! ## Writing -/

/-- The digits of a difference. -/
def numberDigits (bias k n : Nat) : List Char :=
  let t := threshold bias k
  if _more : 0 < t ∧ t ≤ n ∧ t < 36 then
    digitChar (t + (n - t) % (36 - t)) :: numberDigits bias (k + 36) ((n - t) / (36 - t))
  else [digitChar n]
termination_by n
decreasing_by
  exact Nat.lt_of_le_of_lt (Nat.div_le_self _ _) (by omega)

/-- Where writing stands. -/
structure Writer where
  /-- The difference since the last character that was written. -/
  delta : Nat
  /-- The current bias. -/
  bias : Nat
  /-- How many characters of the label have been written. -/
  count : Nat
  /-- The text so far. -/
  out : List Char

/-- Passes one character of the label in the round that writes the characters with number `n`. -/
def Writer.pass (basic n : Nat) (w : Writer) (c : Char) : Writer :=
  if c.toNat < n then { w with delta := w.delta + 1 }
  else if c.toNat = n then
    { delta := 0
      bias := adapt w.delta (w.count + 1) (w.count = basic)
      count := w.count + 1
      out := w.out ++ numberDigits w.bias 36 w.delta }
  else w

/-- Writes the characters of the label with the given numbers, in increasing order; `next` is the
least number that has not been considered. -/
def rounds (label : List Char) (basic : Nat) (w : Writer) (next : Nat) : List Nat → Writer
  | [] => w
  | n :: rest =>
    let w := { w with delta := w.delta + (n - next) * (w.count + 1) }
    let w := label.foldl (Writer.pass basic n) w
    rounds label basic { w with delta := w.delta + 1 } (n + 1) rest

/-- Writes a label in ASCII. -/
def encode (label : List Char) : List Char :=
  let basic := label.filter (·.toNat < 0x80)
  let others := ((label.filter (0x80 ≤ ·.toNat)).map Char.toNat).eraseDups.mergeSort
  let start := if basic.isEmpty then [] else basic ++ ['-']
  (rounds label basic.length ⟨0, 72, basic.length, start⟩ 0x80 others).out

/-! ## Reading -/

/-- Reads a difference: its value and what follows it. -/
def number? (bias : Nat) : Nat → Nat → Nat → List Char → Option (Nat × List Char)
  | _, _, _, [] => none
  | k, weight, n, c :: rest => do
    let d ← digit? c
    let n := n + d * weight
    let t := threshold bias k
    if d < t then some (n, rest) else number? bias (k + 36) (weight * (36 - t)) n rest

/-- Reading a difference takes at least one character. -/
theorem number?_length {bias k weight n : Nat} {s rest : List Char} {v : Nat}
    (h : number? bias k weight n s = some (v, rest)) : rest.length < s.length := by
  induction s generalizing k weight n with
  | nil => simp [number?] at h
  | cons c s ih =>
    rw [number?] at h
    cases hd : digit? c with
    | none => simp [hd] at h
    | some d =>
      simp only [hd, Option.bind_eq_bind, Option.bind_some] at h
      split at h
      · simp only [Option.some.injEq, Prod.mk.injEq] at h
        simp [← h.2]
      · have := ih h
        simp only [List.length_cons]
        omega

/-- Reads differences and inserts the characters they name, given the number of the last
character, the place after it (zero before the first), the bias and the label so far. -/
def insertAll (n i bias : Nat) (label s : List Char) : Option (List Char) :=
  if s.isEmpty then some label
  else
    match found : number? bias 36 1 0 s with
    | none => none
    | some (delta, rest) =>
      have := number?_length found
      let count := label.length + 1
      let n' := n + (i + delta) / count
      let place := (i + delta) % count
      if n' < 0x110000 && !(0xD800 ≤ n' && n' < 0xE000) then
        insertAll n' (place + 1) (adapt delta count (i = 0))
          (label.take place ++ Char.ofNat n' :: label.drop place) rest
      else none
termination_by s.length

/-- Cuts a text at its last hyphen; a hyphen at the start does not count. -/
def cutLastHyphen (s : List Char) : List Char × List Char :=
  let tail := s.reverse.takeWhile (· ≠ '-')
  let front := (s.take (s.length - tail.length)).dropLast
  if front.isEmpty then ([], s) else (front, tail.reverse)

/-- Reads a label from ASCII; the characters before the last hyphen stand for themselves. -/
def decode? (s : List Char) : Option (List Char) :=
  let (basic, rest) := cutLastHyphen s
  if basic.all (·.toNat < 0x80) then insertAll 0x80 0 72 basic rest else none

end Hypermedia.Url.Punycode
