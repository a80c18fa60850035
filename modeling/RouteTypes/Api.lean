import RouteTypes.TypeTree.Basic

/-!
# Typed Interfaces

What a document comes to, as types: the shared declarations and the operations of
each path.

## Main definitions

* `NamedType`: A shared declaration and the component it comes from.
* `TypedOperation`: The entries of one method.
* `TypedPath`: A path with its directory and its operations.
* `Api`: A whole document.
-/

namespace RouteTypes

/-- A shared declaration. The registry and key say which component it stands for. -/
structure NamedType where
  name : String
  registry : Registry
  key : String
  description : Option String := none
  value : TypeNode

/-- An operation as the properties that describe it: `reqHeaders`, `query`,
    `status`, `resBody`, `resHeaders`, `reqFormat` and `reqBody`, in this order, as
    far as they apply. -/
structure TypedOperation where
  method : Method
  description : Option String := none
  entries : List Property

namespace TypedOperation

/-- The operation as a property of its path. -/
def property (o : TypedOperation) : Property :=
  .field o.method.key true o.description { shape := .object o.entries }

/-- The entry with a name. -/
def entry? (o : TypedOperation) (name : String) : Option Property :=
  o.entries.find? (·.name = .field name)

end TypedOperation

/-- A path with its directory below the output directory. The last segment is the
    name of the file in it. -/
structure TypedPath where
  template : String
  segments : List String
  operations : List TypedOperation

/-- The number of directories between the output directory and the file of the
    path. -/
def TypedPath.depth (p : TypedPath) : Nat :=
  p.segments.length - 1

/-- A document as types. -/
structure Api where
  baseUrl : String
  space : String
  types : List NamedType
  paths : List TypedPath

end RouteTypes
