import RouteTypes.Typing.Content

/-!
# Request Parameters

How the parameters of an operation become properties.

The parameters sent at one location are merged into one property. A parameter that
is a reference has a declared wrapper of its own, so it adds a reference to that;
all inline parameters together add one object with a field for each. Inline
parameters without a type are left out. The merged property is required when any
of its parameters is.

## Main definitions

* `DeclaredParameter`: A parameter that is ready to be merged.
* `declareParameters`: The parameters of an operation, references resolved.
* `mergeParameters`: The values of the parameters at one location.
-/

namespace RouteTypes

/-- What a parameter adds to the merged property of its location. -/
inductive ParameterEntry where
  /-- A reference to a declared wrapper. -/
  | wrapper (value : TypeNode)
  /-- A field of the object for inline parameters. -/
  | field (property : Property)

/-- A parameter with its location, ready to be merged. -/
structure DeclaredParameter where
  location : Location
  required : Bool
  entry : ParameterEntry

/-- A parameter, resolved if it is a reference. Nothing when it is inline and has no
    type. -/
def declareParameter (setting : Setting) :
    Slot Parameter → Typing (Option DeclaredParameter)
  | .reference pointer => do
    let parameter ← .ofExcept (setting.components.parameter pointer)
    let target ← setting.typeRef pointer
    pure (some {
      location := parameter.location
      required := parameter.required.getD false
      entry := .wrapper { target.node with description := parameter.description } })
  | .inline parameter => do
    let value ← typeOptional setting .request parameter.schema
    let required := parameter.required.getD false
    pure (value.map fun v => {
      location := parameter.location
      required
      entry := .field (.field parameter.name required parameter.description v) })

/-- The parameters that can be merged, in order. -/
def declareParameters (setting : Setting) (parameters : List (Slot Parameter)) :
    Typing (List DeclaredParameter) := do
  let declared ← parameters.mapM (declareParameter setting)
  pure (declared.filterMap id)

/-- The wrapper a parameter refers to. -/
def ParameterEntry.wrapper? : ParameterEntry → Option TypeNode
  | wrapper value => some value
  | field _ => none

/-- The field of an inline parameter. -/
def ParameterEntry.field? : ParameterEntry → Option Property
  | wrapper _ => none
  | field property => some property

/-- The merged values of a location and whether they are required. -/
structure ParameterGroup where
  values : List TypeNode
  required : Bool

/-- The parameters of one location: their wrappers, then the object with all fields
    if there are any. Nothing when the location has no parameters. -/
def mergeParameters (declared : List DeclaredParameter) (location : Location) :
    Option ParameterGroup :=
  let here := declared.filter (·.location = location)
  let wrappers := here.filterMap (·.entry.wrapper?)
  let fields := here.filterMap (·.entry.field?)
  if here.isEmpty then none
  else some {
    values := wrappers ++ if fields.isEmpty then [] else [{ shape := .object fields }]
    required := here.any (·.required) }

/-- The merged property of a location, under a name. -/
def ParameterGroup.property (group : ParameterGroup) (name : String) (required : Bool) :
    Property :=
  { name := .field name, required, values := group.values }

end RouteTypes
