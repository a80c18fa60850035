import RouteTypes.Number.Double

/-!
# Data Values

Values as a data format describes them, before anything is known about what they
stand for.

Both formats of a document come to the same values. A map is a list of entries as
they were written: repeated keys are kept, and so are keys that are not texts,
because what to make of them is for the reader of the value to decide.

## Main definitions

* `Atom`: A value without parts.
* `Value`: An atom, a list or a map.
-/

namespace RouteTypes

/-- A value without parts. Whole numbers are told apart by how they were written:
    `signed` is one with a minus sign. -/
inductive Atom where
  | null
  | boolean (value : Bool)
  | natural (value : Nat)
  | signed (value : Int)
  | float (value : Double)
  | string (text : String)
  deriving DecidableEq, Repr

/-- A value of a data format. -/
inductive Value where
  | atom (value : Atom)
  | list (items : List Value)
  | map (entries : List (Value × Value))

namespace Value

instance : Inhabited Value := ⟨.atom .null⟩

/-- The text of a value that is one. -/
def text? : Value → Option String
  | .atom (.string text) => some text
  | _ => none

/-- The truth value of a value that is one. -/
def boolean? : Value → Option Bool
  | .atom (.boolean value) => some value
  | _ => none

end Value

end RouteTypes
