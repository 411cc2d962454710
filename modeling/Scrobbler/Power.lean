/-!
Powers of two and of ten, which measure the words of machines and the places of decimals.
-/

namespace Scrobbler

def twoTo (n : Nat) : Nat := Nat.pow 2 n

def tenTo (n : Nat) : Nat := Nat.pow 10 n

theorem twoTo_pos (n : Nat) : 0 < twoTo n := Nat.pow_pos (by decide)

end Scrobbler
