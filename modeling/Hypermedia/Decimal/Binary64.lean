/-!
# Doubles

Finite binary floating-point numbers of 53 significant bits, with arithmetic in exact natural
numbers: a result is the nearest double to the exact value, and of two nearest ones the one with
the even significand.

* `Binary64` is a finite double with its sign.
* `roundRatio?` is the double nearest to a quotient of naturals, unless that is infinite.
* `scale?` multiplies or divides by a power of ten that is itself rounded first.
-/

namespace Hypermedia

/-- A finite double: `significand * 2 ^ exponent`, with a sign. The significand is below `2^53`,
and at least `2^52` unless the exponent is the least one. -/
structure Binary64 where
  /-- Whether the number carries a minus sign; zero may. -/
  negative : Bool
  /-- The significand. -/
  significand : Nat
  /-- The exponent of two. -/
  exponent : Int
  deriving DecidableEq, Repr, Inhabited

namespace Binary64

/-- The least exponent of two. -/
def minExponent : Int := -1074

/-- The greatest exponent of two. -/
def maxExponent : Int := 971

/-- Zero with a sign. -/
def zero (negative : Bool) : Binary64 :=
  ⟨negative, 0, minExponent⟩

/-- Whether the number is zero. -/
def isZero (d : Binary64) : Bool :=
  d.significand = 0

/-- Numerator and denominator of `num / (den * 2 ^ exponent)`. -/
def shifted (num den : Nat) (exponent : Int) : Nat × Nat :=
  if 0 ≤ exponent then (num, den * Nat.pow 2 exponent.toNat)
  else (num * Nat.pow 2 (-exponent).toNat, den)

/-- The natural number nearest to `num / den`, and of two nearest ones the even one. -/
def roundNat (num den : Nat) : Nat :=
  let quotient := num / den
  let rest := num % den
  if den < 2 * rest || (2 * rest = den && quotient % 2 = 1) then quotient + 1 else quotient

/-- The exponent at which `num / den` has 53 bits, but not less than the least exponent. -/
def exponentOf (num den : Nat) : Int :=
  let guess : Int := (num.log2 : Int) - (den.log2 : Int) - 52
  let (n, d) := shifted num den guess
  max (if n / d < Nat.pow 2 52 then guess - 1 else guess) minExponent

/-- The non-negative double nearest to `num / den`; `none` if that is infinite. -/
def roundRatio? (num den : Nat) : Option Binary64 :=
  if num = 0 then some (zero false)
  else
    let exponent := exponentOf num den
    let (n, d) := shifted num den exponent
    let significand := roundNat n d
    let (significand, exponent) :=
      if significand = Nat.pow 2 53 then (Nat.pow 2 52, exponent + 1) else (significand, exponent)
    if exponent > maxExponent then none else some ⟨false, significand, exponent⟩

/-- Numerator and denominator of the absolute value. -/
def ratio (d : Binary64) : Nat × Nat :=
  if 0 ≤ d.exponent then (d.significand * Nat.pow 2 d.exponent.toNat, 1)
  else (d.significand, Nat.pow 2 (-d.exponent).toNat)

/-- The double nearest to a power of ten with an exponent up to 308. -/
def powerOfTen (k : Nat) : Binary64 :=
  (roundRatio? (Nat.pow 10 k) 1).getD (zero false)

/-- The product of two non-negative doubles. -/
def mul? (a b : Binary64) : Option Binary64 :=
  let (m, d) := a.ratio
  let (n, e) := b.ratio
  roundRatio? (m * n) (d * e)

/-- The quotient of two non-negative doubles, the second of them not zero. -/
def div? (a b : Binary64) : Option Binary64 :=
  let (m, d) := a.ratio
  let (n, e) := b.ratio
  roundRatio? (m * e) (d * n)

/-- The greatest power of ten that is a finite double. -/
def maxPower : Nat := 308

/-- `d / 10 ^ k`, dividing by the greatest power of ten as long as `k` exceeds it. The first
argument bounds the number of these divisions; after four of them every double is zero. -/
def divPower : Nat → Binary64 → Nat → Binary64
  | 0, d, _ => zero d.negative
  | steps + 1, d, k =>
    if d.isZero then d
    else if k ≤ maxPower then (d.div? (powerOfTen k)).getD d
    else divPower steps ((d.div? (powerOfTen maxPower)).getD d) (k - maxPower)

/-- Whether a natural number times a power of ten is finite when it is rounded once. A quotient
below one needs no division. -/
def isFiniteScaled (n : Nat) (k : Int) : Bool :=
  if n = 0 then true
  else if 0 ≤ k then k.toNat ≤ maxPower + 1 && (roundRatio? (n * Nat.pow 10 k.toNat) 1).isSome
  else n.log2 < (-k).toNat || (roundRatio? n (Nat.pow 10 (-k).toNat)).isSome

/-- A natural number times a power of ten: the number is rounded to a double, and then
multiplied or divided by the rounded power. `none` if the result is infinite. -/
def scale? (n : Nat) (k : Int) : Option Binary64 := do
  let d ← roundRatio? n 1
  if d.isZero then some d
  else if 0 ≤ k then
    if k.toNat ≤ maxPower then d.mul? (powerOfTen k.toNat) else none
  else some (divPower 5 d (-k).toNat)

end Binary64

end Hypermedia
