import RouteTypes.Data.Node
import RouteTypes.Number.Width

/-!
# JSON Numbers

How a number is written in JSON, and which value it has.

A number without fraction and exponent is a whole number as long as it fits into 64
bits. Any other becomes a floating-point number. It is made of the first digits, as
many as fit into 64 bits, times a power of ten; the product is rounded, and so are
the digits, so the result can differ from the nearest number in its last binary
digit.

## Main definitions

* `NumberText`: A number as its digits.
* `NumberText.read`: Reads the digits.
* `NumberText.value`: The value of a number.
-/

namespace RouteTypes

namespace Json

/-- A number as its digits. -/
structure NumberText where
  negative : Bool
  whole : List Nat
  fraction : Option (List Nat) := none
  /-- Whether the exponent is negative, and its digits. -/
  exponent : Option (Bool × List Nat) := none
  deriving DecidableEq, Repr

/-- The digits at the start of a text, and the rest. -/
def digits : List Char → List Nat × List Char
  | [] => ([], [])
  | c :: cs =>
    if c.isDigit then
      let (ds, rest) := digits cs
      ((c.toNat - '0'.toNat) :: ds, rest)
    else ([], c :: cs)

/-- The fault where digits are missing: at the end of the text or before something
    else. -/
def missingDigits (cs : List Char) : Fault :=
  if cs.isEmpty then ⟨.endInValue, .invalidNumber⟩ else .same .invalidNumber

namespace NumberText

/-- The whole part: a zero, or digits that do not begin with one. -/
def readWhole (cs : List Char) : Except Fault (List Nat × List Char) :=
  match digits cs with
  | ([], rest) => .error (missingDigits rest)
  | (0 :: _ :: _, _) => .error (.same .invalidNumber)
  | (ds, rest) => .ok (ds, rest)

/-- The fraction, if there is a point. -/
def readFraction : List Char → Except Fault (Option (List Nat) × List Char)
  | '.' :: cs =>
    match digits cs with
    | ([], rest) => .error (missingDigits rest)
    | (ds, rest) => .ok (some ds, rest)
  | cs => .ok (none, cs)

/-- The digits of an exponent, after its sign. -/
def readExponentDigits (negative : Bool) (cs : List Char) :
    Except Fault (Option (Bool × List Nat) × List Char) :=
  match digits cs with
  | ([], rest) => .error (missingDigits rest)
  | (ds, rest) => .ok (some (negative, ds), rest)

/-- The exponent, if there is one. -/
def readExponent : List Char → Except Fault (Option (Bool × List Nat) × List Char)
  | c :: cs =>
    if c = 'e' ∨ c = 'E' then
      match cs with
      | '+' :: cs => readExponentDigits false cs
      | '-' :: cs => readExponentDigits true cs
      | cs => readExponentDigits false cs
    else .ok (none, c :: cs)
  | [] => .ok (none, [])

/-- The number at the start of a text, after its sign. -/
def readUnsigned (negative : Bool) (cs : List Char) : Except Fault (NumberText × List Char) := do
  let (whole, cs) ← readWhole cs
  let (fraction, cs) ← readFraction cs
  let (exponent, cs) ← readExponent cs
  pure ({ negative, whole, fraction, exponent }, cs)

/-- The number at the start of a text. -/
def read : List Char → Except Fault (NumberText × List Char)
  | '-' :: cs => readUnsigned true cs
  | cs => readUnsigned false cs

/-- Appends digits to a number as long as it can be kept. The second result
    counts the digits that are left. -/
def append : Nat → List Nat → Nat × Nat
  | n, [] => (n, 0)
  | n, d :: ds =>
    if Width.fitsUnsigned 64 (n * 10 + d) then append (n * 10 + d) ds else (n, ds.length + 1)

/-- A power of ten. -/
def powerOfTen (exponent : Nat) : Double :=
  .ofDecimal false 1 exponent

/-- A number times a power of ten, unless it is too large. Powers beyond the format
    are applied in parts; every finite number is zero after three of them. -/
def scaled : Nat → Double → Int → Option Double
  | 0, x, _ => some x
  | fuel + 1, x, exponent =>
    -- Beyond 308 a power of ten is no number of the format.
    if exponent.natAbs ≤ 308 then
      if exponent ≥ 0 then
        let product := x.mul (powerOfTen exponent.toNat)
        if product.isFinite then some product else none
      else some (x.div (powerOfTen exponent.natAbs))
    else if x.isZero then some x
    else if exponent ≥ 0 then none
    else scaled fuel (x.div (powerOfTen 308)) (exponent + 308)

/-- A floating-point number with a sign, from its first digits and a power of ten. -/
def float (negative : Bool) (significand : Nat) (exponent : Int) : Except TextFault Atom :=
  match scaled 4 (.ofRatio false significand 1) exponent with
  | none => .error .numberOutOfRange
  | some x => .ok (.float (if negative then x.neg else x))

/-- A whole number with a sign. A negative number that is too small becomes a
    floating-point number, and so does the negative zero. -/
def integer (negative : Bool) (n : Nat) : Atom :=
  if !negative then .natural n
  else if 0 < n && Width.fitsSigned 64 (-n) then .signed (-n)
  else .float (Double.ofRatio false n 1).neg

/-- An exponent within the bounds of 32 bits. -/
def clamp (exponent : Int) : Int :=
  max (-(Width.bound 31 : Int)) (min (Width.bound 31 - 1) exponent)

/-- The value of a number. -/
def value (t : NumberText) : Except TextFault Atom :=
  let (n, dropped) := append 0 t.whole
  let (significand, exponent) : Nat × Int :=
    match t.fraction with
    | none => (n, dropped)
    | some ds =>
      let (n, ignored) := append n ds
      (n, (dropped : Int) - (ds.length - ignored : Nat))
  match t.exponent with
  | none =>
    if t.fraction.isNone && dropped = 0 then .ok (integer t.negative n)
    else float t.negative significand exponent
  | some (down, ds) =>
    let e := ds.foldl (fun e d => e * 10 + d) 0
    if e ≥ Width.bound 31 then
      if significand = 0 || down then .ok (.float (.zero t.negative))
      else .error .numberOutOfRange
    else float t.negative significand (clamp (if down then exponent - e else exponent + e))

end NumberText

end Json

end RouteTypes
