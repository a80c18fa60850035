import RouteTypes.Api
import RouteTypes.TypeTree.Query

/-!
# Modules

What each file of the output declares and imports.

There is one module for the shared declarations and one for every path. The first
is left out when nothing is declared. A module imports the type of streams when an
upload occurs in it, and the module of a path imports the shared namespace when a
reference occurs in it.

## Main definitions

* `Import`: One import of a module.
* `TypesModule`, `MethodsModule`: The two kinds of module.
* `Api.typesModule`, `Api.methodsModule`: The modules of a document.
-/

namespace RouteTypes

/-- An import of some names from a module. -/
structure Import where
  items : List String
  source : String
  typeOnly : Bool := false
  deriving DecidableEq, Repr

/-- The module with the shared declarations. -/
structure TypesModule where
  imports : List Import
  space : String
  types : List NamedType

/-- The module of a path, with a property for each method. -/
structure MethodsModule where
  imports : List Import
  methods : List Property

/-- The directory of the shared declarations below the output directory. -/
def typesDirectory : String := "@types"

/-- The import of the type of streams. -/
def streamImport : Import :=
  { items := ["ReadStream"], source := "fs", typeOnly := true }

/-- Where a file finds the shared declarations from `depth` directories below the
    output directory. -/
def typesSource (depth : Nat) : String :=
  if depth = 0 then "./" ++ typesDirectory
  else String.join (List.replicate depth "../") ++ typesDirectory

/-- The import of the shared namespace. -/
def spaceImport (space : String) (depth : Nat) : Import :=
  { items := [space], source := typesSource depth }

namespace Api

/-- The module with the shared declarations, if there are any. -/
def typesModule (api : Api) : Option TypesModule :=
  if api.types.isEmpty then none
  else some {
    imports := if api.types.any (·.value.usesUpload) then [streamImport] else []
    space := api.space
    types := api.types }

/-- The module of a path. -/
def methodsModule (api : Api) (path : TypedPath) : MethodsModule :=
  let methods := path.operations.map (·.property)
  let streams := if methods.any (·.usesUpload) then [streamImport] else []
  let space := if methods.any (·.usesReferences) then [spaceImport api.space path.depth] else []
  { imports := streams ++ space, methods }

end Api

end RouteTypes
