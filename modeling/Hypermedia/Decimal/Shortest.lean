import Hypermedia.Decimal.Binary64

/-!
# Shortest decimals

The decimal of fewest digits that reads back as a given double, and of those the nearest.

* `Shortest.digits` finds the digits and the decimal exponent.
* `Binary64.text` writes them: positionally, with at least one digit after the point, when the
  decimal exponent lies between -5 and 15; otherwise with an exponent that always has a sign.
-/

namespace Hypermedia

namespace Shortest

/-- The reals that round to a double, times `4 * scale`: the double itself, the ends, and
whether the ends belong to the interval. -/
structure Interval where
  /-- The double. -/
  value : Nat
  /-- The lower end. -/
  low : Nat
  /-- The upper end. -/
  high : Nat
  /-- Whether both ends round to the double. -/
  closed : Bool
  /-- The common denominator. -/
  den : Nat

/-- The interval of a double that is not zero. The lower half is narrower below a power of
two. -/
def interval (d : Binary64) : Interval :=
  let m := d.significand
  let below := if m = Nat.pow 2 52 && d.exponent > Binary64.minExponent then 1 else 2
  let exponent := d.exponent - 2
  let factor := if 0 ≤ exponent then Nat.pow 2 exponent.toNat else 1
  let den := if 0 ≤ exponent then 1 else Nat.pow 2 (-exponent).toNat
  { value := 4 * m * factor, low := (4 * m - below) * factor, high := (4 * m + 2) * factor
    closed := m % 2 = 0, den }

/-- `num * 10 ^ (-k)` over `den`, as numerator and denominator. -/
def overPower (num den : Nat) (k : Int) : Nat × Nat :=
  if 0 ≤ k then (num, den * Nat.pow 10 k.toNat) else (num * Nat.pow 10 (-k).toNat, den)

/-- The greatest `k` with `10 ^ k ≤ num / den`, found from an estimate by the logarithm to base
two that is off by one at most. -/
def decimalExponent (num den : Nat) : Int :=
  let guess : Int := ((num.log2 : Int) - (den.log2 : Int)) * 30103 / 100000
  let atLeast (k : Int) : Bool :=
    let (n, d) := overPower num den k
    d ≤ n
  if atLeast (guess + 1) then (if atLeast (guess + 2) then guess + 2 else guess + 1)
  else if atLeast guess then guess
  else if atLeast (guess - 1) then guess - 1
  else guess - 2

/-- Whether `c * 10 ^ unit` rounds to the double. -/
def Interval.holds (i : Interval) (c : Nat) (unit : Int) : Bool :=
  let (c', scale) :=
    if 0 ≤ unit then (c * Nat.pow 10 unit.toNat, 1) else (c, Nat.pow 10 (-unit).toNat)
  let x := c' * i.den
  if i.closed then i.low * scale ≤ x && x ≤ i.high * scale
  else i.low * scale < x && x < i.high * scale

/-- The better neighbour of the double on the grid of multiples of `10 ^ unit`, if one of its
two neighbours rounds to it. -/
def neighbour? (i : Interval) (unit : Int) : Option Nat :=
  let (n, d) := overPower i.value i.den unit
  let c := n / d
  let rest := n % d
  match i.holds c unit, i.holds (c + 1) unit with
  | true, true =>
    some (if 2 * rest < d || (2 * rest = d && c % 2 = 0) then c else c + 1)
  | true, false => some c
  | false, true => some (c + 1)
  | false, false => none

/-- Tries the grids of more and more digits; the first argument is the number of grids left. -/
def search (i : Interval) (top : Int) : Nat → Nat × Int
  | 0 => (0, 0)
  | left + 1 =>
    let unit := top - (17 - (left + 1) : Nat)
    match neighbour? i unit with
    | some c => (c, unit)
    | none => search i top left

/-- The shortest decimal of a double that is not zero: digits and the exponent of the last
one. -/
def digits (d : Binary64) : Nat × Int :=
  let i := interval d
  search i (decimalExponent i.value i.den) 17

/-- The digits without trailing zeros, and how many were dropped. -/
def dropZeros (s : List Char) : List Char × Nat :=
  let kept := (s.reverse.dropWhile (· = '0')).reverse
  (kept, s.length - kept.length)

/-- Writes `0.digits * 10 ^ point` positionally. -/
def positional (s : List Char) (point : Int) : List Char :=
  if point ≤ 0 then "0.".toList ++ List.replicate (-point).toNat '0' ++ s
  else
    let n := point.toNat
    if s.length ≤ n then s ++ List.replicate (n - s.length) '0' ++ ".0".toList
    else s.take n ++ '.' :: s.drop n

/-- Writes the digits with an exponent. -/
def scientific (s : List Char) (exponent : Int) : List Char :=
  let mantissa := match s with
    | [] => []
    | [c] => [c]
    | c :: rest => c :: '.' :: rest
  let sign := if exponent < 0 then '-' else '+'
  mantissa ++ 'e' :: sign :: (toString exponent.natAbs).toList

end Shortest

/-- The text of a double. -/
def Binary64.text (d : Binary64) : String :=
  let sign := if d.negative then ['-'] else []
  if d.isZero then .ofList (sign ++ "0.0".toList)
  else
    let (c, unit) := Shortest.digits d
    let (s, dropped) := Shortest.dropZeros (toString c).toList
    let point : Int := unit + dropped + s.length
    let exponent := point - 1
    .ofList (sign ++
      if -5 ≤ exponent && exponent < 16 then Shortest.positional s point
      else Shortest.scientific s exponent)

end Hypermedia
