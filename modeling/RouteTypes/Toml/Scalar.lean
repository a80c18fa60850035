import RouteTypes.Number.Width
import RouteTypes.Toml.String

/-!
# TOML Numbers and Times

Whether a word is a number or a point in time in TOML.

No setting is a number or a time, so such a word is only recognised and its value is
not kept.

## Main definitions

* `isNumber`: Whether a word is a number.
* `isMoment`: Whether a word is a date, a time, or both.
-/

namespace RouteTypes

namespace Toml

/-- Digits in which single underscores may stand between two digits. -/
def isDigits (p : Char → Bool) (cs : List Char) : Bool :=
  (cs.splitOn '_').all fun part => !part.isEmpty && part.all p

/-- The number that digits with underscores stand for. -/
def numberOf (base : Nat) (cs : List Char) : Nat :=
  (cs.filter (· ≠ '_')).foldl (fun n c => n * base + (Text.hexDigit? c).getD 0) 0

/-- A text without a sign at its start. -/
def dropSign : List Char → List Char
  | '+' :: rest => rest
  | '-' :: rest => rest
  | cs => cs

/-- Digits without a needless zero at their start. -/
def isPlainDigits : List Char → Bool
  | ['0'] => true
  | '0' :: _ => false
  | cs => isDigits Char.isDigit cs

/-- Whether a number can be kept. -/
def fits (n : Int) : Bool :=
  Width.fitsSigned 64 n

/-- A whole number, in base ten with an optional sign or in another base without. -/
def isInteger : List Char → Bool
  | '0' :: 'x' :: ds =>
    isDigits (fun c => (Text.hexDigit? c).isSome) ds && fits (numberOf 16 ds)
  | '0' :: 'o' :: ds =>
    isDigits (fun c => '0' ≤ c && c ≤ '7') ds && fits (numberOf 8 ds)
  | '0' :: 'b' :: ds =>
    isDigits (fun c => c = '0' || c = '1') ds && fits (numberOf 2 ds)
  | cs =>
    let n : Int := numberOf 10 (dropSign cs)
    isPlainDigits (dropSign cs) && fits (if cs.head? = some '-' then -n else n)

/-- An exponent after its letter. -/
def isExponent (cs : List Char) : Bool :=
  isDigits Char.isDigit (dropSign cs)

/-- A number with a fraction or an exponent. -/
def isFloat (cs : List Char) : Bool :=
  let cs := dropSign cs
  if cs = ['i', 'n', 'f'] || cs = ['n', 'a', 'n'] then true
  else
    let isMark (c : Char) : Bool := c = 'e' || c = 'E'
    let mantissa := cs.takeWhile (!isMark ·)
    let exponent := cs.dropWhile (!isMark ·)
    let whole := mantissa.takeWhile (· ≠ '.')
    let fraction := mantissa.dropWhile (· ≠ '.')
    isPlainDigits whole && (fraction.isEmpty || isDigits Char.isDigit (fraction.drop 1)) &&
      (exponent.isEmpty || isExponent (exponent.drop 1)) &&
      !(fraction.isEmpty && exponent.isEmpty)

/-- Whether a word is a number. -/
def isNumber (cs : List Char) : Bool :=
  isInteger cs || isFloat cs

/-- The number that a fixed count of digits stands for, within bounds. -/
def bounded? (count least greatest : Nat) (cs : List Char) : Option Nat :=
  let n := numberOf 10 cs
  if cs.length = count && cs.all Char.isDigit && least ≤ n && n ≤ greatest then some n else none

/-- The number of days of a month. -/
def daysOf (year month : Nat) : Nat :=
  if month = 2 then
    if year % 4 = 0 && (year % 100 ≠ 0 || year % 400 = 0) then 29 else 28
  else if [4, 6, 9, 11].contains month then 30 else 31

/-- A date: year, month and day. -/
def isDate (cs : List Char) : Bool :=
  match cs.splitOn '-' with
  | [year, month, day] =>
    match bounded? 4 0 9999 year, bounded? 2 1 12 month with
    | some y, some m => (bounded? 2 1 (daysOf y m) day).isSome
    | _, _ => false
  | _ => false

/-- A time: hour, minute, second and a fraction. -/
def isTime (cs : List Char) : Bool :=
  match cs.splitOn ':' with
  | [hour, minute, second] =>
    let fraction := second.drop 2
    (bounded? 2 0 23 hour).isSome && (bounded? 2 0 59 minute).isSome &&
      (bounded? 2 0 60 (second.take 2)).isSome &&
      (fraction.isEmpty || (fraction.head? = some '.' && fraction.length > 1 &&
        (fraction.drop 1).all Char.isDigit))
  | _ => false

/-- The distance of a time zone: hours and minutes. -/
def isDistance (cs : List Char) : Bool :=
  match cs.splitOn ':' with
  | [hour, minute] => (bounded? 2 0 23 hour).isSome && (bounded? 2 0 59 minute).isSome
  | _ => false

/-- A time with an optional time zone. -/
def isZonedTime (cs : List Char) : Bool :=
  let isSign (c : Char) : Bool := c = '+' || c = '-'
  let zone := cs.dropWhile (!isSign ·)
  match cs.getLast? with
  | some 'Z' | some 'z' => isTime cs.dropLast
  | _ => isTime (cs.takeWhile (!isSign ·)) && (zone.isEmpty || isDistance (zone.drop 1))

/-- Whether a word is a date, a time, or both. -/
def isMoment (cs : List Char) : Bool :=
  let date := cs.take 10
  isTime cs || isDate cs ||
    (isDate date && (cs.drop 10).head?.any ['T', 't', ' '].contains && isZonedTime (cs.drop 11))

end Toml

end RouteTypes
