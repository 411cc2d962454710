import Scrobbler.Decimal.Binary64

/-!
The shortest decimal text of a magnitude. Among the decimals that round back to it, one with the
fewest digits is taken, and of those the nearest; a tie goes to the even digit.
-/

namespace Scrobbler.Decimal

/-- A decimal `digits * 10 ^ exponent`. -/
structure Scientific where
  digits : Nat
  exponent : Int
  deriving DecidableEq, Repr

namespace Shortest

/-- `a * 10 ^ k * 4` compared with `b` quarters of the unit `2 ^ q`, as two natural numbers with a
common factor removed. -/
def common (a : Nat) (k : Int) (b : Nat) (q : Int) : Nat × Nat :=
  let left := 4 * a * (if 0 ≤ k then tenTo k.toNat else 1) * (if 0 ≤ q then 1 else twoTo (-q).toNat)
  let right := b * (if 0 ≤ q then twoTo q.toNat else 1) * (if 0 ≤ k then 1 else tenTo (-k).toNat)
  (left, right)

/-- The quarters of a unit from which numbers round up to `x`. The gap below a power of two is
half as wide as the gap above it. -/
def lowest (x : Binary64) : Nat :=
  if x.significand = twoTo 52 ∧ x.exponent ≠ Binary64.minExponent then 4 * x.significand - 1
  else 4 * x.significand - 2

/-- The quarters of a unit up to which numbers round down to `x`. -/
def highest (x : Binary64) : Nat := 4 * x.significand + 2

/-- `a * 10 ^ k` rounds to `x`. -/
def roundsTo (x : Binary64) (a : Nat) (k : Int) : Bool :=
  let below := common a k (lowest x) x.exponent
  let above := common a k (highest x) x.exponent
  if x.significand % 2 = 0 then below.2 ≤ below.1 && above.1 ≤ above.2
  else below.2 < below.1 && above.1 < above.2

/-- The greatest multiple of `10 ^ k` that is at most `x`, counted in that unit. -/
def floorAt (x : Binary64) (k : Int) : Nat :=
  let (num, den) := x.ratio
  if 0 ≤ k then num / (den * tenTo k.toNat) else num * tenTo (-k).toNat / den

/-- `x` lies nearer to the upper of two neighbours `a` and `a + 1`, or in the middle of them with
`a` odd. -/
def prefersUpper (x : Binary64) (a : Nat) (k : Int) : Bool :=
  let middle := common (2 * a + 1) k (8 * x.significand) x.exponent
  if middle.1 = middle.2 then a % 2 = 1 else middle.1 < middle.2

/-- The multiple of `10 ^ k` that rounds to `x` and lies nearest to it, if there is one. -/
def onGrid? (x : Binary64) (k : Int) : Option Nat :=
  let a := floorAt x k
  match roundsTo x a k, roundsTo x (a + 1) k with
  | true, true => some (if prefersUpper x a k then a + 1 else a)
  | true, false => some a
  | false, true => some (a + 1)
  | false, false => none

/-- The least `j` from `start` on with `den ≤ num * 10 ^ j`, looked for in `fuel` steps. -/
def leadingZeros (num den : Nat) : Nat → Nat → Nat
  | 0, start => start
  | fuel + 1, start =>
      if den ≤ num * tenTo start then start else leadingZeros num den fuel (start + 1)

/-- The power of ten of the first digit of `x`, which is not zero. -/
def magnitude (x : Binary64) : Int :=
  let (num, den) := x.ratio
  if den ≤ num then ((Nat.toDigits 10 (num / den)).length : Int) - 1
  else -(leadingZeros num den 400 1 : Int)

/-- The first grid, from coarse to fine, that holds a decimal for `x`. Seventeen digits always
suffice. -/
def search (x : Binary64) (top : Int) : Nat → Nat → Scientific
  | 0, digits => ⟨floorAt x (top - digits), top - digits⟩
  | fuel + 1, digits =>
      match onGrid? x (top - digits) with
      | some a => ⟨a, top - digits⟩
      | none => search x top fuel (digits + 1)

/-- Moves the factors of ten of the digits, at most `fuel` of them, into the exponent. -/
def stripZeros : Nat → Scientific → Scientific
  | 0, s => s
  | fuel + 1, s =>
      if s.digits % 10 = 0 ∧ s.digits ≠ 0 then stripZeros fuel ⟨s.digits / 10, s.exponent + 1⟩
      else s

end Shortest

/-- The shortest decimal that rounds back to a magnitude. -/
def Binary64.shortest (x : Binary64) : Scientific :=
  if x.significand = 0 then ⟨0, 0⟩
  else Shortest.stripZeros 20 (Shortest.search x (Shortest.magnitude x) 17 0)

end Scrobbler.Decimal
