import RouteTypes.Api
import RouteTypes.Typing.Content

/-!
# Shared Declarations

The declarations that the components of a document give.

Every entry of every registry that has a type is declared under the name made of
its key, and all names share one namespace. Two entries with one name would shadow
each other, which `checkNames` rules out beforehand. An entry that is a reference
is declared as another name for what it refers to.

## Main definitions

* `checkNames`: The error for the first name that is given twice.
* `typeComponents`: The declarations, registry by registry.
-/

namespace RouteTypes

/-- Goes through the entries and reports the first whose type name an earlier one
    has. `seen` holds the earlier entries. -/
def checkNamesFrom (seen : List (Registry × String)) :
    List (Registry × String) → Except CompileError Unit
  | [] => .ok ()
  | (registry, key) :: rest =>
    let name := Text.typeName key
    -- At most one earlier entry has the name, because the earlier ones were checked.
    match seen.find? fun e => Text.typeName e.2 = name with
    | some (firstRegistry, first) =>
      .error (.nameCollision name firstRegistry first registry key)
    | none => checkNamesFrom (seen ++ [(registry, key)]) rest

/-- The error for the first type name that two components share. -/
def checkNames (c : Components) : Except CompileError Unit :=
  checkNamesFrom [] c.entryKeys

/-- The value with the description of the definition around it, if there is one. -/
def describe (description : Option String) (value : TypeNode) : TypeNode :=
  match description with
  | some text => { value with description := some text }
  | none => value

/-- What an entry is declared as: the reference, or what its definition gives. -/
def typeEntry {α : Type} (setting : Setting) (inline : α → Typing (Option TypeNode)) :
    Slot α → Typing (Option TypeNode)
  | .reference pointer => do
    let target ← setting.typeRef pointer
    pure (some target.node)
  | .inline value => inline value

/-- The type of a parameter: an object with the parameter as its only field. -/
def typeParameter (setting : Setting) (p : Parameter) : Typing (Option TypeNode) := do
  let value ← typeOptional setting .request p.schema
  pure (value.map fun v => {
    shape := .object [.field p.name (p.required.getD false) p.description v] })

/-- The type of a request body. -/
def typeBody (setting : Setting) (b : RequestBody) : Typing (Option TypeNode) := do
  let value ← typeContent setting .request b.content
  pure (value.map (describe b.description))

/-- The type of a response. -/
def typeResponse (setting : Setting) (r : Response) : Typing (Option TypeNode) := do
  let value ← typeContent setting .response r.content
  pure (value.map (describe r.description))

/-- The type of a header. -/
def typeHeader (setting : Setting) (h : Header) : Typing (Option TypeNode) := do
  let value ← typeOptional setting .response h.schema
  pure (value.map (describe h.description))

/-- The declaration of an entry. An entry without a type is left out. -/
def declare (registry : Registry) (key : String) :
    Option TypeNode → Typing (Option NamedType)
  | some value =>
    pure (some {
      name := Text.typeName key, registry, key, description := value.description, value })
  | none => do
    Logged.report (.componentOmitted registry key)
    pure none

/-- The declarations of one registry. -/
def typeRegistry {α : Type} (setting : Setting) (registry : Registry)
    (inline : α → Typing (Option TypeNode)) (entries : OrderedMap String (Slot α)) :
    Typing (List NamedType) := do
  let types ← entries.entries.mapM fun e => do
    let value ← typeEntry setting inline e.2
    declare registry e.1 value
  pure (types.filterMap id)

/-- The declarations of all registries. -/
def typeComponents (setting : Setting) : Typing (List NamedType) := do
  let c := setting.components
  let schemas ← typeRegistry setting .schemas (typeSchema setting .request) c.schemas
  let parameters ← typeRegistry setting .parameters (typeParameter setting) c.parameters
  let bodies ← typeRegistry setting .requestBodies (typeBody setting) c.requestBodies
  let responses ← typeRegistry setting .responses (typeResponse setting) c.responses
  let headers ← typeRegistry setting .headers (typeHeader setting) c.headers
  pure (schemas ++ parameters ++ bodies ++ responses ++ headers)

end RouteTypes
