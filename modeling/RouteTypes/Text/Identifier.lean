import RouteTypes.Text.Uppercase

/-!
# Identifiers

Which names can stand bare in a type declaration, and how a component key is
turned into a name that can.

An identifier starts with an ASCII letter, `_` or `$` and goes on with those and
ASCII digits. Letters of other scripts are left out on purpose although the
target language allows some of them: a name is then the same for every version
of the character database a reader may use.

## Main definitions

* `isNameStart`, `isNamePart`: The characters an identifier starts and goes on
  with.
* `IsIdentifier`: A list of characters that is an identifier.
* `needsQuotes`: A name that cannot stand bare.
* `typeName`: The type a component key declares.
-/

namespace RouteTypes

namespace Text

/-- A character an identifier can start with. -/
def isNameStart (c : Char) : Bool :=
  c.isAlpha || c == '_' || c == '$'

/-- A character an identifier can go on with. -/
def isNamePart (c : Char) : Bool :=
  c.isAlphanum || c == '_' || c == '$'

/-- The characters form an identifier: one that may start it, then any number
    that may go on. -/
def IsIdentifier : List Char → Prop
  | [] => False
  | c :: rest => isNameStart c = true ∧ rest.all isNamePart = true

instance : DecidablePred IsIdentifier
  | [] => inferInstanceAs (Decidable False)
  | _ :: _ => inferInstanceAs (Decidable (_ ∧ _))

/-- A name that cannot stand bare: an empty one, one that starts with another
    character, or one that holds another character anywhere. -/
def needsQuotes (name : String) : Bool :=
  match name.toList with
  | [] => true
  | c :: rest => !isNameStart c || !(c :: rest).all isNamePart

/-- The characters of the type name for a component key. The first character is
    written in upper case, after a `$` when it cannot start an identifier, and
    every later character that cannot stand in an identifier becomes `_`. An
    empty key is called `_`. -/
def typeNameChars : List Char → List Char
  | [] => ['_']
  | c :: rest =>
    let lead := if isNameStart c then [] else ['$']
    lead ++ upper c ++ rest.map fun d => if isNamePart d then d else '_'

/-- The type name for a component key. -/
def typeName (key : String) : String :=
  String.ofList (typeNameChars key.toList)

end Text

end RouteTypes
