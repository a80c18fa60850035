import RouteTypes.CompileError

/-!
# Reference Pointers

The texts that references are written with.

A pointer names a registry and a key in it, and may narrow to one property of the
schema found there: `#/components/schemas/Pet` or
`#/components/schemas/Pet/properties/name`. A slash inside a key or a property is
written `~1` and a tilde `~0`, so splitting at slashes comes first and the escapes
are undone part by part.

## Main definitions

* `Pointer`: A registry, a key and perhaps a property.
* `Pointer.unescape`: A part without its escapes.
* `Pointer.parse`: The pointer a text stands for.
-/

namespace RouteTypes

/-- What a reference points at. The key and the property are the names themselves,
    without the escapes of the text. -/
structure Pointer where
  registry : Registry
  key : String
  property : Option String := none
  deriving DecidableEq, Repr

namespace Pointer

/-- The start of every pointer into the components of the document. -/
def componentsPath : List Char := "#/components/".toList

/-- A part of a pointer without its escapes. A tilde before any other character
    stands for itself. -/
def unescape : List Char → List Char
  | '~' :: '1' :: rest => '/' :: unescape rest
  | '~' :: '0' :: rest => '~' :: unescape rest
  | c :: rest => c :: unescape rest
  | [] => []

/-- The text after a beginning, when the text has it. -/
def dropBeginning? : List Char → List Char → Option (List Char)
  | [], text => some text
  | _ :: _, [] => none
  | b :: beginning, c :: text => if b = c then dropBeginning? beginning text else none

/-- The registry, key and property parts of a pointer, still escaped. -/
def parts? (text : List Char) : Option (List Char × List Char × Option (List Char)) :=
  match text.splitOn '/' with
  | [registry, key] => some (registry, key, none)
  | [registry, key, keyword, property] =>
    if keyword = "properties".toList then some (registry, key, some property) else none
  | _ => none

/-- The pointer a text stands for. Of several faults the first in reading order
    counts: where the text points, how many parts it has, the registry, the key. -/
def parse (text : String) : Except CompileError Pointer :=
  match dropBeginning? componentsPath text.toList with
  | none => .error (.invalidReference text .notLocal)
  | some rest =>
    match parts? rest with
    | none => .error (.invalidReference text .malformed)
    | some (registry, key, property) =>
      match Registry.ofKey? (String.ofList registry) with
      | none => .error (.invalidReference text (.unknownRegistry (String.ofList registry)))
      | some registry =>
        if key.isEmpty then
          .error (.invalidReference text .emptyKey)
        else
          .ok {
            registry
            key := String.ofList (unescape key)
            property := property.map fun p => String.ofList (unescape p) }

end Pointer

end RouteTypes
