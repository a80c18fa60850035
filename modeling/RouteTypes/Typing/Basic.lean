import RouteTypes.Event
import RouteTypes.Logged
import RouteTypes.Reference.Resolve

/-!
# Typing

What the types of a document depend on besides the document.

## Main definitions

* `Options`: The choices left to the caller.
* `Direction`: The side of the exchange a schema describes.
* `Setting`: The document's components and the options together.
* `Typing`: A step on the way to types, which may fail and reports what it leaves out.
-/

namespace RouteTypes

/-- The choices left to the caller of a compilation. -/
structure Options where
  /-- Points in time are kept as objects. -/
  keepDates : Bool := false
  /-- The namespace that holds every declared type. -/
  space : String := "Types"
  deriving DecidableEq, Repr

/-- The side of the exchange that a schema describes. Only binary content differs
    between the two. -/
inductive Direction where
  | request
  | response
  deriving DecidableEq, Repr

/-- Binary content that travels in a direction. -/
def Direction.binary : Direction → BinaryKind
  | request => .upload
  | response => .download

/-- What the type of a schema depends on besides the schema. -/
structure Setting where
  components : Components
  options : Options

/-- A step on the way from a document to its types. -/
abbrev Typing (α : Type) := Logged CompileEvent CompileError α

/-- The node for a reference. -/
def TypeRef.node (r : TypeRef) : TypeNode :=
  { shape := .reference r }

/-- The type that a reference names. -/
def Setting.typeRef (s : Setting) (reference : String) : Typing TypeRef :=
  .ofExcept (s.components.typeRef s.options.space reference)

end RouteTypes
