import RouteTypes.Number.Double

/-!
# Shortest Decimals

The shortest decimal that reads back as a given number, and the texts made of it.

Every finite number of the format owns an interval of reals: those nearer to it
than to any other number. The end points belong to it exactly when its significand
is even. A decimal in the interval reads back as the number, so the shortest text
is the point of the coarsest decimal grid that has a point in the interval. Only
the two grid points around the number have to be tried on each grid. When both
lie in the interval the nearer one is taken; when they are equally near, the
`TieRule` decides.

## Main definitions

* `Decimal`: A natural number times a power of ten.
* `Double.shortest`: The shortest decimal of a finite number.
* `Double.plainText`: All digits written out, never an exponent.
* `Double.brief`: Digits with an exponent where that is shorter.
-/

namespace RouteTypes

/-- The decimal `digits * 10 ^ exponent`. -/
structure Decimal where
  digits : Nat
  exponent : Int
  deriving DecidableEq, Repr

/-- Which of two equally near decimals is taken. -/
inductive TieRule where
  | upward
  | toEven
  deriving DecidableEq, Repr

namespace Decimal

/-- `n` zeros. -/
def zeros (n : Nat) : String :=
  String.ofList (List.replicate n '0')

/-- A decimal written out in full, with a point only before a fraction. -/
def plain (d : Decimal) : String :=
  let digits := toString d.digits
  if d.exponent ≥ 0 then digits ++ zeros d.exponent.toNat
  else
    let places := (-d.exponent).toNat
    if digits.length > places then
      let whole := digits.length - places
      String.ofList (digits.toList.take whole) ++ "." ++ String.ofList (digits.toList.drop whole)
    else "0." ++ zeros (places - digits.length) ++ digits

/-- A decimal of at most sixteen places before the point and five zeros after it
    in full, with a fraction in any case; any other with an exponent. -/
def brief (d : Decimal) : String :=
  let digits := toString d.digits
  let length : Int := digits.length
  let point := length + d.exponent
  if 0 ≤ d.exponent && point ≤ 16 then d.plain ++ ".0"
  else if -5 < point && point ≤ 16 then d.plain
  else
    let fraction := String.ofList digits.toList.tail
    let mantissa := String.ofList (digits.toList.take 1) ++
      (if fraction.isEmpty then "" else "." ++ fraction)
    mantissa ++ "e" ++ toString (point - 1)

end Decimal

namespace Double

/-- The interval of a number in quarters of its last binary digit. Below a power
    of two the next number is only half as far away. -/
structure Quarters where
  low : Nat
  middle : Nat
  high : Nat
  closed : Bool

/-- The interval of `significand * 2 ^ exponent`. -/
def quarters (significand : Nat) (exponent : Int) : Quarters :=
  let narrow := significand = leastFull && exponent > leastExponent
  { low := 4 * significand - (if narrow then 1 else 2)
    middle := 4 * significand
    high := 4 * significand + 2
    closed := significand % 2 == 0 }

/-- One step of the grid `10 ^ k` and one quarter of the last binary digit, as
    multiples of a common unit. -/
def units (exponent k : Int) : Nat × Nat :=
  let quarter := exponent - 2
  let (g₁, q₁) := if k ≥ 0 then (Nat.pow 10 k.toNat, 1) else (1, Nat.pow 10 (-k).toNat)
  if quarter ≥ 0 then (g₁, q₁ * Nat.pow 2 quarter.toNat)
  else (g₁ * Nat.pow 2 (-quarter).toNat, q₁)

/-- The point of the grid `10 ^ k` that stands for a number, if it has one in the
    number's interval. -/
def gridPoint (tie : TieRule) (q : Quarters) (exponent k : Int) : Option Nat :=
  let (step, unit) := units exponent k
  let value := q.middle * unit
  let below := value / step
  let inside (c : Nat) : Bool :=
    let p := c * step
    if q.closed then q.low * unit ≤ p && p ≤ q.high * unit
    else q.low * unit < p && p < q.high * unit
  match inside below, inside (below + 1) with
  | false, false => none
  | true, false => some below
  | false, true => some (below + 1)
  | true, true =>
    let twice := 2 * (value - below * step)
    if twice < step then some below
    else if twice > step then some (below + 1)
    else match tie with
      | .upward => some (below + 1)
      | .toEven => some (if below % 2 == 0 then below else below + 1)

/-- Tries finer and finer grids, starting with `10 ^ k`. -/
def search (tie : TieRule) (q : Quarters) (exponent : Int) : Nat → Int → Decimal
  | 0, k => ⟨q.middle, k⟩
  | fuel + 1, k =>
    match gridPoint tie q exponent k with
    | some c => ⟨c, k⟩
    | none => search tie q exponent fuel (k - 1)

/-- The shortest decimal of `significand * 2 ^ exponent`. The first grid is at
    least as coarse as the number is large, and seventeen digits always suffice,
    so the search ends well before its bound. -/
def shortest (tie : TieRule) (significand : Nat) (exponent : Int) : Decimal :=
  let size : Int := (significand.log2 : Int) + exponent + 1
  search tie (quarters significand exponent) exponent 24 (size * 30103 / 100000 + 2)

/-- The sign of a number. -/
def sign (negative : Bool) : String :=
  if negative then "-" else ""

/-- A number with all its digits: never an exponent, no point after a whole
    number, `-0` for the negative zero. Of two equally near decimals the greater
    one is written. -/
def plainText : Double → String
  | .finite s m e =>
    sign s ++ (if m = 0 then "0" else (shortest .upward m e).plain)
  | .infinite s => sign s ++ "inf"
  | .nan => "NaN"

/-- A number as short as it can be written: with an exponent when it is very large
    or very small. -/
def brief : Double → String
  | .finite s m e =>
    sign s ++ (if m = 0 then "0.0" else (shortest .toEven m e).brief)
  | .infinite s => sign s ++ "inf"
  | .nan => "NaN"

end Double

end RouteTypes
