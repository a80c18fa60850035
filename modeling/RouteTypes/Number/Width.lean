/-!
# Widths of Whole Numbers

Whether a whole number can be kept in a number of binary digits.

## Main definitions

* `bound`: The least number that is too wide.
* `fitsUnsigned`, `fitsSigned`: The numbers that can be kept without and with a sign.
-/

namespace RouteTypes

namespace Width

/-- The least number that has more binary digits. -/
def bound (bits : Nat) : Nat :=
  Nat.pow 2 bits

/-- Whether a number without a sign can be kept. -/
def fitsUnsigned (bits : Nat) (n : Nat) : Bool :=
  n < bound bits

/-- Whether a number with a sign can be kept. One of the digits is taken by the sign. -/
def fitsSigned (bits : Nat) (n : Int) : Bool :=
  -(bound (bits - 1) : Int) ≤ n && n < bound (bits - 1)

end Width

end RouteTypes
