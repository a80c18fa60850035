/-!
# Binary Floating-point Numbers

The numbers of the 64-bit binary format, as exact values.

A finite number is a sign and a significand times a power of two. The values are
kept in the one form in which the significand is as large as the format allows,
so that two equal numbers are written alike; only the two zeros differ in their
sign. Arithmetic is done on natural numbers: an exact quotient is formed first and
`ofRatio` rounds it once, to the nearest number of the format and to the even
significand when two are equally near.

## Main definitions

* `Double`: The numbers of the format.
* `Double.ofRatio`: The number nearest to a quotient.
* `Double.ofDecimal`: The number nearest to a decimal.
* `Double.mul`, `Double.div`: The rounded product and quotient.
-/

namespace RouteTypes

/-- A 64-bit binary floating-point number. The value of `finite negative m e` is
    `m * 2 ^ e`, with a minus sign if `negative`. -/
inductive Double where
  | finite (negative : Bool) (significand : Nat) (exponent : Int)
  | infinite (negative : Bool)
  | nan
  deriving DecidableEq, Repr

namespace Double

/-- The least exponent of the format, that of the numbers nearest to zero. -/
def leastExponent : Int := -1074

/-- The greatest exponent of a finite number. -/
def greatestExponent : Int := 971

/-- The least significand with as many binary digits as the format allows. -/
def leastFull : Nat := Nat.pow 2 52

/-- The zero with a sign. -/
def zero (negative : Bool) : Double :=
  .finite negative 0 leastExponent

/-- The integer nearest to a quotient, the even one of two equally near. -/
def roundToEven (num den : Nat) : Nat :=
  let q := num / den
  let r := num % den
  if 2 * r > den || (2 * r == den && q % 2 == 1) then q + 1 else q

/-- A quotient divided by a power of two. -/
def scale (num den : Nat) (exponent : Int) : Nat × Nat :=
  if exponent ≥ 0 then (num, den * Nat.pow 2 exponent.toNat)
  else (num * Nat.pow 2 (-exponent).toNat, den)

/-- The exponent at which the significand of a positive quotient has 53 binary
    digits, or the least exponent of the format when that is greater. -/
def exponentOf (num den : Nat) : Int :=
  let guess : Int := (num.log2 : Int) - den.log2 - 52
  -- The logarithms are rounded down, so the guess is right or one too large.
  let (n, d) := scale num den guess
  let exact := if n / d < leastFull then guess - 1 else guess
  max exact leastExponent

/-- The number of the format nearest to `num / den`, with a sign. A quotient past
    the greatest number becomes infinite. -/
def ofRatio (negative : Bool) (num den : Nat) : Double :=
  if num = 0 then zero negative else
  let e := exponentOf num den
  let (n, d) := scale num den e
  let m := roundToEven n d
  -- Rounding up can give one digit more, and then all others are zero.
  let (m, e) := if m = 2 * leastFull then (leastFull, e + 1) else (m, e)
  if e > greatestExponent then .infinite negative else .finite negative m e

/-- The number of the format nearest to `digits * 10 ^ exponent`. The bounds keep
    the powers small: a decimal with a first digit beyond them is past the
    greatest number or nearer to zero than to any other. -/
def ofDecimal (negative : Bool) (digits : Nat) (exponent : Int) : Double :=
  -- The factor is the decimal logarithm of two.
  let size : Int := digits.log2 * 30103 / 100000 + exponent
  if digits = 0 then zero negative
  else if size > 400 then .infinite negative
  else if size < -400 then zero negative
  else if exponent ≥ 0 then ofRatio negative (digits * Nat.pow 10 exponent.toNat) 1
  else ofRatio negative digits (Nat.pow 10 (-exponent).toNat)

/-- The rounded product of two numbers. Only products of finite numbers are
    formed; any other is not a number. -/
def mul : Double → Double → Double
  | .finite s₁ m₁ e₁, .finite s₂ m₂ e₂ =>
    let (n, d) := scale (m₁ * m₂) 1 (-(e₁ + e₂))
    ofRatio (s₁ != s₂) n d
  | _, _ => .nan

/-- The rounded quotient of two numbers, for a finite divisor that is not zero. -/
def div : Double → Double → Double
  | .finite s₁ m₁ e₁, .finite s₂ m₂ e₂ =>
    if m₂ = 0 then .nan else
    let (n, d) := scale m₁ m₂ (e₂ - e₁)
    ofRatio (s₁ != s₂) n d
  | _, _ => .nan

/-- Whether the number is a zero. -/
def isZero : Double → Bool
  | .finite _ m _ => m == 0
  | _ => false

/-- Whether the number is finite. -/
def isFinite : Double → Bool
  | .finite .. => true
  | _ => false

/-- The number with the sign turned around. -/
def neg : Double → Double
  | .finite s m e => .finite (!s) m e
  | .infinite s => .infinite (!s)
  | .nan => .nan

end Double

end RouteTypes
