import Scrobbler.Power

/-!
Words: the whole numbers that fit a fixed number of bits, with or without a sign.
-/

namespace Scrobbler.Word

/-- The least and the greatest number without a sign. -/
def unsigned (bits : Nat) : Int × Int := (0, (twoTo bits : Int) - 1)

/-- The least and the greatest number with a sign. -/
def signed (bits : Nat) : Int × Int :=
  (-(twoTo (bits - 1) : Int), (twoTo (bits - 1) : Int) - 1)

/-- A number lies within limits. -/
def fits (limits : Int × Int) (n : Int) : Bool := limits.1 ≤ n && n ≤ limits.2

theorem fits_iff {limits : Int × Int} {n : Int} :
    fits limits n = true ↔ limits.1 ≤ n ∧ n ≤ limits.2 := by
  simp [fits]

/-- The sum of a word and a natural number, if it is a word. -/
def add? (word : UInt64) (n : Nat) : Option UInt64 :=
  if word.toNat + n < UInt64.size then some (word + UInt64.ofNat n) else none

/-- A sum that is given is the exact one. -/
theorem add?_eq_some_iff {word sum : UInt64} {n : Nat} :
    add? word n = some sum ↔ word.toNat + n = sum.toNat := by
  have hSum : sum.toNat < UInt64.size := sum.toNat_lt
  unfold add?
  split
  · next hFits =>
      rw [Option.some.injEq, ← UInt64.toNat_inj, UInt64.toNat_add, UInt64.toNat_ofNat', Nat.add_mod_mod,
        Nat.mod_eq_of_lt hFits]
  · next hLarge =>
      constructor
      · exact nofun
      · intro hEq
        rw [hEq] at hLarge
        exact absurd hSum hLarge

end Scrobbler.Word
