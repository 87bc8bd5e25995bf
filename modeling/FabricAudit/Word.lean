set_option autoImplicit false

/-! # Words

A word has a fixed number of bits. Without a sign it holds the natural numbers below a power of two;
with a sign, half as many numbers on either side of zero.
-/

namespace FabricAudit

/-- The integers from `least` up to but not including `limit`. -/
structure Word where
  least : Int
  /-- The integer after the greatest. -/
  limit : Int

namespace Word

/-- The words of a number of bits that have no sign. -/
def unsigned (bits : Nat) : Word := ⟨0, Nat.pow 2 bits⟩

/-- The words of a number of bits, one of which is the sign. -/
def signed (bits : Nat) : Word := ⟨-(Nat.pow 2 (bits - 1) : Nat), Nat.pow 2 (bits - 1)⟩

def holds (w : Word) (n : Int) : Bool := w.least ≤ n && n < w.limit

def nearest (w : Word) (n : Int) : Int := max w.least (min (w.limit - 1) n)

end Word

end FabricAudit
