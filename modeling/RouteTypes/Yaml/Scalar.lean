import RouteTypes.Data.Node
import RouteTypes.Number.Width
import RouteTypes.Text.Hexadecimal
import RouteTypes.Yaml.Event

/-!
# YAML Scalars

What a scalar of a YAML text stands for.

A plain scalar without a type is null, a truth value or a number if it is written like
one, and a text otherwise. Any other scalar is a text unless its type says something
else. Where a text is wanted, every scalar is one.

## Main definitions

* `plainValue`: What a plain scalar stands for.
* `scalarReadings`: The readings of a scalar.
-/

namespace RouteTypes

namespace Yaml

/-- The ways of writing null. -/
def nullWords : List String := ["null", "Null", "NULL", "~"]

/-- The truth value that is written as a word. -/
def truthValue? (text : String) : Option Bool :=
  if ["true", "True", "TRUE"].contains text then some true
  else if ["false", "False", "FALSE"].contains text then some false
  else none

/-- The value of a digit in a base up to sixteen. -/
def digit? (base : Nat) (c : Char) : Option Nat :=
  (Text.hexDigit? c).filter (· < base)

/-- The natural number that digits stand for. There has to be one at least. -/
def natural? (base : Nat) (digits : List Char) : Option Nat :=
  if digits.isEmpty then none
  else (digits.mapM (digit? base)).map (·.foldl (fun n d => n * base + d) 0)

/-- The base that a number begins with, and its digits. -/
def based? : List Char → Option (Nat × List Char)
  | '0' :: 'x' :: digits => some (16, digits)
  | '0' :: 'o' :: digits => some (8, digits)
  | '0' :: 'b' :: digits => some (2, digits)
  | _ => none

/-- A text without a plus sign at its start. -/
def dropPlus : List Char → List Char
  | '+' :: rest => rest
  | cs => cs

/-- A text without a sign at its start. -/
def dropSign : List Char → List Char
  | '+' :: rest => rest
  | '-' :: rest => rest
  | cs => cs

/-- Digits that begin with a needless zero, after any sign. They are no number. -/
def hasNeedlessZero (cs : List Char) : Bool :=
  match dropSign cs with
  | '0' :: d :: rest => (d :: rest).all Char.isDigit
  | _ => false

/-- A whole number without a minus sign. -/
def unsigned? (cs : List Char) : Option Nat :=
  let digits := dropPlus cs
  match (based? digits).bind fun (base, digits) => natural? base digits with
  | some n => some n
  | none => if hasNeedlessZero cs then none else natural? 10 digits

/-- A whole number with a minus sign. -/
def negative? : List Char → Option Int
  | '-' :: digits =>
    match (based? digits).bind fun (base, digits) => natural? base digits with
    | some n => some (-n)
    | none =>
      if hasNeedlessZero ('-' :: digits) then none
      else (natural? 10 digits).map fun n => -(n : Int)
  | _ => none

/-- A whole number, by the width it needs: 64 bits are supported, 128 bits are
    recognised but not supported, and any more make it a floating-point number. -/
def integer? (cs : List Char) : Option (Except Cause Atom) :=
  match unsigned? cs, negative? cs with
  | some n, _ =>
    if Width.fitsUnsigned 64 n then some (.ok (.natural n))
    else if Width.fitsUnsigned 128 n then some (.error .tooWide)
    else none
  | none, some n =>
    if Width.fitsSigned 64 n then some (.ok (.signed n))
    else if Width.fitsSigned 128 n then some (.error .tooWide)
    else none
  | none, none => none

/-- Digits at the start of a text, their number, and the rest. -/
def decimals (cs : List Char) : Nat × Nat × List Char :=
  let digits := cs.takeWhile Char.isDigit
  (digits.foldl (fun n d => n * 10 + (d.toNat - '0'.toNat)) 0, digits.length,
    cs.drop digits.length)

/-- An exponent, which has to be all that is left of a text. -/
def exponent? : List Char → Option Int
  | [] => some 0
  | e :: cs =>
    if e ≠ 'e' ∧ e ≠ 'E' then none
    else
      let (n, length, rest) := decimals (dropSign cs)
      if length = 0 || !rest.isEmpty then none
      else some (if cs.head? = some '-' then -(n : Int) else n)

/-- A decimal with an optional point and exponent. One digit has to stand on either
    side of the point. -/
def decimal? (negative : Bool) (cs : List Char) : Option Double := do
  let (whole, wholeLength, rest) := decimals cs
  let (fraction, fractionLength, rest) := match rest with
    | '.' :: rest => decimals rest
    | rest => (0, 0, rest)
  if wholeLength + fractionLength = 0 then none
  let exponent ← exponent? rest
  pure (.ofDecimal negative (whole * Nat.pow 10 fractionLength + fraction) (exponent - fractionLength))

/-- A floating-point number. A decimal beyond the greatest number is none. -/
def float? (cs : List Char) : Option Double :=
  let text := String.ofList (dropPlus cs)
  let signs := cs.takeWhile fun c => c = '+' || c = '-'
  if signs.length > 1 then none
  else if [".inf", ".Inf", ".INF"].contains text then some (.infinite false)
  else if ["-.inf", "-.Inf", "-.INF"].contains text then some (.infinite true)
  else if [".nan", ".NaN", ".NAN"].contains (String.ofList cs) then some .nan
  else (decimal? (signs = ['-']) (dropSign cs)).filter (·.isFinite)

/-- What a plain scalar stands for. -/
def plainValue (text : String) : Except Cause Atom :=
  let cs := text.toList
  if text.isEmpty || nullWords.contains text then .ok .null
  else match truthValue? text with
    | some b => .ok (.boolean b)
    | none =>
      match integer? cs with
      | some result => result
      | none =>
        if hasNeedlessZero cs then .ok (.string text)
        else match float? cs with
          | some x => .ok (.float x)
          | none => .ok (.string text)

/-- The common beginning of the types that YAML itself defines. -/
def coreTag (name : String) : String := "tag:yaml.org,2002:" ++ name

/-- Whether a type is one of the document's own. -/
def isOwnTag (tag : Option String) : Bool :=
  match tag.map String.toList with
  | some ('!' :: _ :: _) => true
  | _ => false

/-- A reading that a type asks for. -/
def demanded {α : Type} (reading : Option α) (atom : α → Atom) : Except Cause Atom :=
  match reading with
  | some a => .ok (atom a)
  | none => .error (.text .unreadable)

/-- What a scalar with a type stands for. -/
def taggedValue (tag text : String) (style : Style) : Except Cause Atom :=
  if tag = coreTag "bool" then demanded (truthValue? text) .boolean
  else if tag = coreTag "int" then (integer? text.toList).getD (.error (.text .unreadable))
  else if tag = coreTag "float" then demanded (float? text.toList) .float
  else if tag = coreTag "null" then
    demanded (if nullWords.contains text then some () else none) fun _ => .null
  else if tag = "!" && style = .plain then plainValue text
  else .ok (.string text)

/-- What a scalar stands for. -/
def scalarValue (properties : Properties) (text : String) (style : Style) : Except Cause Atom :=
  if isOwnTag properties.tag then .error .marked
  else match properties.tag with
    | some tag => taggedValue tag text style
    | none => if style = .plain then plainValue text else .ok (.string text)

/-- Whether a scalar stands for the absence of an optional value. Only a plain one
    does. -/
def isAbsent (properties : Properties) (text : String) (style : Style) : Except Cause Bool :=
  if style ≠ .plain then .ok false
  else match properties.tag with
    | none => .ok (text.isEmpty || nullWords.contains text)
    | some tag =>
      if tag ≠ coreTag "null" then .ok false
      else if nullWords.contains text then .ok true
      else .error (.text .unreadable)

/-- Whether a scalar can be read as a truth value. -/
def mayBeTruthValue (properties : Properties) (style : Style) : Bool :=
  style = .plain || (style = .literal && properties.tag = some (coreTag "bool"))

/-- The readings of a scalar. -/
def scalarReadings (properties : Properties) (text : String) (style : Style) : Scalar where
  value := scalarValue properties text style
  text := some text
  flag := if mayBeTruthValue properties style then truthValue? text else none
  absent := isAbsent properties text style
  vacant := text.isEmpty && style = .plain

end Yaml

end RouteTypes
