import Scrobbler.Power

/-!
Magnitudes of the binary64 format: natural numbers of at most 53 bits, scaled by a power of two.
All arithmetic here is exact on natural numbers and ends in one rounding, to the nearest magnitude
and to the even one of two that are equally near. Signs are kept by the callers.
-/

namespace Scrobbler.Decimal

/-- A magnitude `significand * 2 ^ exponent`. Those built here are canonical: the significand has
53 bits, or the exponent is the least one, `-1074`. -/
structure Binary64 where
  significand : Nat
  exponent : Int
  deriving DecidableEq, Repr

namespace Binary64

/-- The least exponent of the format. -/
def minExponent : Int := -1074

/-- The greatest exponent of the format. -/
def maxExponent : Int := 971

def zero : Binary64 := ⟨0, minExponent⟩

/-- A magnitude as a quotient of natural numbers. -/
def ratio (x : Binary64) : Nat × Nat :=
  if 0 ≤ x.exponent then (x.significand * twoTo x.exponent.toNat, 1)
  else (x.significand, twoTo (-x.exponent).toNat)

/-- Half of a tie goes to the even neighbour. -/
def roundHalfEven (num den : Nat) : Nat :=
  let quotient := num / den
  let rest := num % den
  if 2 * rest < den then quotient
  else if den < 2 * rest then quotient + 1
  else if quotient % 2 = 0 then quotient
  else quotient + 1

/-- `num / den` in units of `2 ^ exponent`, rounded. -/
def unitsOf (num den : Nat) (exponent : Int) : Nat :=
  if 0 ≤ exponent then roundHalfEven num (den * twoTo exponent.toNat)
  else roundHalfEven (num * twoTo (-exponent).toNat) den

/-- `num / den` is at least `2 ^ (52 + exponent)`. -/
def fills (num den : Nat) (exponent : Int) : Bool :=
  let scaled := 52 + exponent
  if 0 ≤ scaled then den * twoTo scaled.toNat ≤ num else den ≤ num * twoTo (-scaled).toNat

/-- The exponent at which `num / den` has 53 bits, but never less than the least one. -/
def exponentFor (num den : Nat) : Int :=
  let estimate := (num.log2 : Int) - den.log2 - 52
  let exact := if fills num den estimate then estimate else estimate - 1
  max exact minExponent

/-- The magnitude nearest to `num / den`, or `none` when it lies beyond the greatest one. -/
def ofRatio? (num den : Nat) : Option Binary64 :=
  if num = 0 then some zero
  else
    let exponent := exponentFor num den
    let units := unitsOf num den exponent
    let rounded : Binary64 :=
      if units = twoTo 53 then ⟨twoTo 52, exponent + 1⟩ else ⟨units, exponent⟩
    if rounded.exponent ≤ maxExponent then some rounded else none

/-- The magnitude nearest to a natural number. -/
def ofNat? (n : Nat) : Option Binary64 := ofRatio? n 1

/-- The magnitude nearest to a natural number below `2 ^ 1024`. -/
def ofNat (n : Nat) : Binary64 := (ofNat? n).getD zero

/-- The magnitude nearest to `10 ^ k`, for `k` at most 308. -/
def powerOfTen (k : Nat) : Binary64 := ofNat (tenTo k)

/-- The product, rounded. -/
def mul? (x y : Binary64) : Option Binary64 :=
  ofRatio? (x.ratio.1 * y.ratio.1) (x.ratio.2 * y.ratio.2)

/-- The quotient, rounded; `y` is not zero. -/
def div (x y : Binary64) : Binary64 :=
  (ofRatio? (x.ratio.1 * y.ratio.2) (x.ratio.2 * y.ratio.1)).getD zero

/-- The greatest power of ten that takes part in one step of scaling. -/
def scaleLimit : Nat := 308

/-- Divides by `10 ^ scaleLimit` up to `steps` times, and stops at zero. -/
def shrink : Nat → Binary64 → Binary64
  | 0, x => x
  | steps + 1, x =>
      if x.significand = 0 then x else shrink steps (x.div (powerOfTen scaleLimit))

/-- `significand * 10 ^ power` as a decimal literal denotes it: the significand is rounded, and
then multiplied or divided by rounded powers of ten, with one rounding for each step. `none` when
the result lies beyond the greatest magnitude. -/
def ofDecimal? (significand : Nat) (power : Int) : Option Binary64 :=
  let start := ofNat significand
  if 0 ≤ power then
    if power ≤ scaleLimit then start.mul? (powerOfTen power.toNat)
    else if start.significand = 0 then some start
    else none
  else
    let down := (-power).toNat
    let steps := (down - 1) / scaleLimit
    some ((shrink steps start).div (powerOfTen (down - steps * scaleLimit)))

end Binary64

end Scrobbler.Decimal
