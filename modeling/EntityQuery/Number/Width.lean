/-!
Whole numbers that fit into some number of bits.
-/

namespace EntityQuery

def fitsSigned (bits : Nat) (n : Int) : Bool :=
  -(Nat.pow 2 (bits - 1) : Int) ≤ n && n < (Nat.pow 2 (bits - 1) : Int)

def fitsUnsigned (bits : Nat) (n : Int) : Bool :=
  0 ≤ n && n < (Nat.pow 2 bits : Int)

end EntityQuery
