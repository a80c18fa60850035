import RouteTypes.Document.Basic

/-!
# Compilation Events

What a compilation reports about its decisions.

Everything that is left out of the output without being an error is reported where
the decision is made, and the two stages of a compilation report their sizes.

## Main definitions

* `CompileEvent`: One reported decision or result.
-/

namespace RouteTypes

/-- A decision or result that a compilation reports. -/
inductive CompileEvent where
  /-- A schema describes no type. -/
  | schemaDropped (type : Option TypeSpec) (format : Option String)
  /-- A property is deprecated. -/
  | propertySkipped (property : String)
  /-- A component describes no type. -/
  | componentOmitted (registry : Registry) (key : String)
  /-- An operation is deprecated. -/
  | operationSkipped (path : String) (method : Method)
  /-- An operation has no successful response. -/
  | operationDropped (path : String) (method : Method)
  /-- A path has no operation left. -/
  | pathOmitted (path : String)
  /-- The types and paths of a document are known. -/
  | documentTyped (types paths : Nat)
  /-- The modules are written. -/
  | modulesRendered (files : Nat) (hasTypes : Bool)
  deriving DecidableEq, Repr

end RouteTypes
