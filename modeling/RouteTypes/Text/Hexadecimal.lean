/-!
# Hexadecimal Digits

## Main definitions

* `hexDigit?`, `hexNumber?`: The number that a digit or several digits stand for.
* `character?`: The character with a code point.
-/

namespace RouteTypes

namespace Text

/-- The value of a hexadecimal digit, in either case. -/
def hexDigit? (c : Char) : Option Nat :=
  if c.isDigit then some (c.toNat - '0'.toNat)
  else if 'a' ≤ c ∧ c ≤ 'f' then some (c.toNat - 'a'.toNat + 10)
  else if 'A' ≤ c ∧ c ≤ 'F' then some (c.toNat - 'A'.toNat + 10)
  else none

/-- The number that hexadecimal digits stand for. -/
def hexNumber? (digits : List Char) : Option Nat :=
  (digits.mapM hexDigit?).map (·.foldl (fun n d => n * 16 + d) 0)

/-- The character with a code point. Halves of characters are none. -/
def character? (code : Nat) : Option Char :=
  if code.isValidChar then some (Char.ofNat code) else none

end Text

end RouteTypes
