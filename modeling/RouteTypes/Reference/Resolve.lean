import RouteTypes.Reference.Pointer
import RouteTypes.Text.Identifier
import RouteTypes.TypeTree.Basic

/-!
# Reference Resolution

Looking references up in the registries of a document.

A reference is used in two ways. Where only the name of a type is wanted it must
lead to an existing entry and becomes a `TypeRef` (`typeRef`). Where the
definition itself is wanted, entries that are references are followed until an
inline definition is reached (`follow`).

Each step of a chain of references is determined by the key it looks up, and a
chain that runs through more entries than the registry has must look up a key
twice. It then goes on forever, so `follow` gives up after one look-up more than
there are entries and reports a cycle.

## Main definitions

* `Components.typeRef`: The type that a reference names.
* `followSteps`, `follow`: The definition that a reference leads to.
* `Components.schema`, `Components.parameter`, `Components.requestBody`,
  `Components.response`: The definition in each registry.
-/

namespace RouteTypes

/-- The type that a reference names. Its entry has to exist, in whichever registry
    the reference points into, but is not looked at. -/
def Components.typeRef (c : Components) (space reference : String) :
    Except CompileError TypeRef :=
  match Pointer.parse reference with
  | .error e => .error e
  | .ok pointer =>
    if c.contains pointer.registry pointer.key then
      .ok { space, name := Text.typeName pointer.key, property := pointer.property }
    else
      .error (.missingReference pointer.registry pointer.key reference)

/-- The key that a reference looks up in a registry when a whole definition is
    wanted. -/
def definitionKey (registry : Registry) (reference : String) : Except CompileError String :=
  match Pointer.parse reference with
  | .error e => .error e
  | .ok pointer =>
    if pointer.registry ≠ registry then
      .error (.invalidReference reference (.wrongRegistry registry))
    else if pointer.property.isSome then
      .error (.invalidReference reference .narrowed)
    else
      .ok pointer.key

/-- Follows at most `n` references. `start` is the reference that a cycle is
    reported with, `reference` the one at hand. -/
def followSteps {α : Type} (registry : Registry) (entries : OrderedMap String (Slot α))
    (start : String) : Nat → String → Except CompileError α
  | 0, _ => .error (.referenceCycle start)
  | n + 1, reference =>
    match definitionKey registry reference with
    | .error e => .error e
    | .ok key =>
      match entries.get? key with
      | none => .error (.missingReference registry key reference)
      | some (.inline value) => .ok value
      | some (.reference next) => followSteps registry entries start n next

/-- The definition that a reference leads to, through any number of entries that
    are references themselves. -/
def follow {α : Type} (registry : Registry) (entries : OrderedMap String (Slot α))
    (reference : String) : Except CompileError α :=
  followSteps registry entries reference (entries.entries.length + 1) reference

namespace Components

/-- The schema that a reference leads to. -/
def schema (c : Components) (reference : String) : Except CompileError Schema :=
  follow .schemas c.schemas reference

/-- The parameter that a reference leads to. -/
def parameter (c : Components) (reference : String) : Except CompileError Parameter :=
  follow .parameters c.parameters reference

/-- The request body that a reference leads to. -/
def requestBody (c : Components) (reference : String) : Except CompileError RequestBody :=
  follow .requestBodies c.requestBodies reference

/-- The response that a reference leads to. -/
def response (c : Components) (reference : String) : Except CompileError Response :=
  follow .responses c.responses reference

end Components

end RouteTypes
