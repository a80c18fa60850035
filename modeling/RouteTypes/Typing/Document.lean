import RouteTypes.Route.Segment
import RouteTypes.Typing.Components
import RouteTypes.Typing.Operation

/-!
# Typed Documents

The types of a whole document.

First the names of all components are checked, then the components are declared,
then the paths follow in the order of the document; the first error ends
it all. A path keeps the operations that are not deprecated and have a
successful response, and is left out when none remains.

The directory of a path depends on the kinds of its path parameters. They are
looked up among the parameters of the path and of all its operations, the ones
that are left out included.

## Main definitions

* `pathParameters`: The path parameters of a path item with their kinds.
* `typePath`: A path with the operations that remain.
* `Document.toApi`: The whole document.
-/

namespace RouteTypes

/-- The parameter in a slot. -/
def resolveParameter (setting : Setting) : Slot Parameter → Typing Parameter
  | .reference pointer => .ofExcept (setting.components.parameter pointer)
  | .inline parameter => pure parameter

/-- The kind of an optional schema, references followed. -/
def schemaKind (setting : Setting) : Option (Slot Schema) → Typing (Option Kind)
  | some (.inline schema) => pure schema.kind
  | some (.reference pointer) => do
    let schema ← .ofExcept (setting.components.schema pointer)
    pure schema.kind
  | none => pure none

/-- A path parameter with its kind. Nothing for a parameter sent elsewhere. -/
def pathParameter (setting : Setting) (slot : Slot Parameter) :
    Typing (Option (String × Option Kind)) := do
  let parameter ← resolveParameter setting slot
  if parameter.location = .path then do
    let kind ← schemaKind setting parameter.schema
    pure (some (parameter.name, kind))
  else
    pure none

/-- All parameters of a path item: its own, then those of its operations. -/
def PathItem.allParameters (item : PathItem) : List (Slot Parameter) :=
  item.parameters ++ item.operations.values.flatMap (·.parameters)

/-- The path parameters that are declared anywhere on a path item. -/
def pathParameters (setting : Setting) (item : PathItem) : Typing PathParameters := do
  let declared ← item.allParameters.mapM (pathParameter setting)
  pure (declared.filterMap id)

/-- An operation of a path, if it remains. -/
def typePathOperation (setting : Setting) (template : String) (item : PathItem)
    (method : Method) (operation : Operation) : Typing (Option TypedOperation) := do
  if operation.deprecated then do
    Logged.report (.operationSkipped template method)
    pure none
  else do
    let typed ← typeOperation setting item method operation
    match typed with
    | some o => pure (some o)
    | none => do
      Logged.report (.operationDropped template method)
      pure none

/-- A path, if an operation of it remains. -/
def typePath (setting : Setting) (template : String) (item : PathItem) :
    Typing (Option TypedPath) := do
  let operations ← item.operations.entries.mapM fun e =>
    typePathOperation setting template item e.1 e.2
  let operations := operations.filterMap id
  if operations.isEmpty then do
    Logged.report (.pathOmitted template)
    pure none
  else do
    let declared ← pathParameters setting item
    pure (some { template, segments := routeSegments template declared, operations })

/-- The paths of a document that have operations. -/
def typePaths (setting : Setting) (paths : OrderedMap String PathItem) :
    Typing (List TypedPath) := do
  let typed ← paths.entries.mapM fun e => typePath setting e.1 e.2
  pure (typed.filterMap id)

/-- The document as types. -/
def Document.toApi (document : Document) (options : Options) : Typing Api := do
  let setting : Setting := { components := document.components, options }
  .ofExcept (checkNames document.components)
  let types ← typeComponents setting
  let paths ← typePaths setting document.paths
  Logged.report (.documentTyped types.length paths.length)
  pure { baseUrl := document.baseUrl, space := options.space, types, paths }

end RouteTypes
