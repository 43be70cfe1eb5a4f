/-!
# Powers of two

Numbers of so many bits are those below a power of two.
-/

namespace RequestHub

/-- The number of values that so many bits can have. -/
def twoTo (bits : Nat) : Nat :=
  Nat.pow 2 bits

end RequestHub
