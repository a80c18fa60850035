import RouteTypes.Data.Value
import RouteTypes.Number.Shortest
import RouteTypes.Text.Shown

/-!
# Decoding Errors

What goes wrong when a text is decoded, and where.

The text may break the rules of its format, and a value may be of another form
than the one expected. Either way the error names the place inside the document by
the keys and positions that lead there.

## Main definitions

* `TextFault`: How a text breaks the rules of its format.
* `Cause`: What is wrong.
* `Step`, `pathText`: The way to a place, and how it is written.
* `DecodeError`: A cause with its place.
-/

namespace RouteTypes

/-- How a text breaks the rules of its format. -/
inductive TextFault where
  | endInList
  | endInObject
  | endInString
  | endInValue
  | expectedColon
  | expectedListEnd
  | expectedObjectEnd
  | expectedWord
  | expectedValue
  | invalidEscape
  | invalidNumber
  | numberOutOfRange
  | endOfHexEscape
  | loneSurrogate
  | controlCharacter
  | keyNotString
  | trailingComma
  | trailingCharacters
  /-- Any fault of a format whose faults are not told apart. -/
  | unreadable
  deriving DecidableEq, Repr

/-- The fault in words. -/
def TextFault.message : TextFault → String
  | endInList => "EOF while parsing a list"
  | endInObject => "EOF while parsing an object"
  | endInString => "EOF while parsing a string"
  | endInValue => "EOF while parsing a value"
  | expectedColon => "expected \x60:\x60"
  | expectedListEnd => "expected \x60,\x60 or \x60]\x60"
  | expectedObjectEnd => "expected \x60,\x60 or \x60\x7d\x60"
  | expectedWord => "expected ident"
  | expectedValue => "expected value"
  | invalidEscape => "invalid escape"
  | invalidNumber => "invalid number"
  | numberOutOfRange => "number out of range"
  | endOfHexEscape => "unexpected end of hex escape"
  | loneSurrogate => "lone leading surrogate in hex escape"
  | controlCharacter => "control character (\\u0000-\\u001F) found while parsing a string"
  | keyNotString => "key must be a string"
  | trailingComma => "trailing comma"
  | trailingCharacters => "trailing characters"
  | unreadable => "unreadable text"

/-- What stands where something else was expected. -/
inductive Found where
  | atom (value : Atom)
  | sequence
  | map
  deriving DecidableEq, Repr

/-- A value in words. -/
def Found.message : Found → String
  | atom .null => "null"
  | atom (.boolean value) => "boolean \x60" ++ (if value then "true" else "false") ++ "\x60"
  | atom (.natural value) => "integer \x60" ++ toString value ++ "\x60"
  | atom (.signed value) => "integer \x60" ++ toString value ++ "\x60"
  | atom (.float value) => "floating point \x60" ++ value.brief ++ "\x60"
  | atom (.string text) => "string " ++ Text.shown text
  | sequence => "sequence"
  | map => "map"

/-- What a place has to hold. -/
inductive Expected where
  | string
  | boolean
  | sequence
  | map
  | pathItem
  /-- An object with known fields, by its name. -/
  | object (name : String)
  deriving DecidableEq, Repr

/-- The expectation in words. -/
def Expected.message : Expected → String
  | string => "a string"
  | boolean => "a boolean"
  | sequence => "a sequence"
  | map => "a map"
  | pathItem => "an OpenAPI path item object"
  | object name => "struct " ++ name

/-- What is wrong with a value. -/
inductive Cause where
  | text (fault : TextFault)
  | wrongType (found : Found) (expected : Expected)
  /-- A list that stands for an object has too few elements. -/
  | wrongLength (found : Nat) (name : String) (fields : Nat)
  | missingField (name : String)
  | duplicateField (name : String)
  /-- Neither a reference nor an inline definition. -/
  | noSlot
  /-- Containers are nested too deeply. -/
  | tooDeep
  /-- Aliases are followed too often. -/
  | tooManyAliases
  /-- A value is marked with a type of its own. -/
  | marked
  /-- A whole number fits into no supported width. -/
  | tooWide
  deriving DecidableEq, Repr

/-- The cause in words. -/
def Cause.message : Cause → String
  | text fault => fault.message
  | wrongType found expected =>
    "invalid type: " ++ found.message ++ ", expected " ++ expected.message
  | wrongLength found name fields =>
    "invalid length " ++ toString found ++ ", expected struct " ++ name ++ " with " ++
      toString fields ++ (if fields = 1 then " element" else " elements")
  | missingField name => "missing field \x60" ++ name ++ "\x60"
  | duplicateField name => "duplicate field \x60" ++ name ++ "\x60"
  | noSlot => "data did not match any variant of untagged enum RefOr"
  | tooDeep => "recursion limit exceeded"
  | tooManyAliases => "repetition limit exceeded"
  | marked => "untagged and internally tagged enums do not support enum input"
  | tooWide => "invalid type: integer, expected any value"

/-- One step into a document. -/
inductive Step where
  | key (name : String)
  | index (position : Nat)
  /-- Into a value whose key has no text. -/
  | unknown
  deriving DecidableEq, Repr

/-- A step in words. -/
def Step.message : Step → String
  | key name => name
  | index position => "[" ++ toString position ++ "]"
  | unknown => "?"

/-- A step that follows another one. Positions need no mark between. -/
def Step.following : Step → String
  | index position => (Step.index position).message
  | step => "." ++ step.message

/-- How the way to a place is written. -/
def pathText : List Step → String
  | [] => "."
  | first :: rest => first.message ++ String.join (rest.map (·.following))

/-- What is wrong in a document, and where. -/
structure DecodeError where
  path : List Step := []
  cause : Cause
  deriving DecidableEq, Repr

end RouteTypes
