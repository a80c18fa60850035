import RouteTypes.Number.Shortest
import RouteTypes.Typing.Basic

/-!
# The Type of a Schema

The type trees that schemas describe.

The keywords of a schema are looked at in a fixed order, and the first that is
present decides what the type is: a combinator, an enumeration, an array, an
object, binary content, a built-in type. A keyword that is present but gives no
type (an array without items, an empty enumeration, a combinator of which no
member has a type) leaves the schema without one; later keywords are not tried.

A reference is not followed. It only has to lead to an existing entry, whose
declaration is then named.

## Main definitions

* `Schema.primitive`: The built-in type of a schema.
* `Schema.literals`: The literals of an enumeration.
* `typeSlot`, `typeSchema`: The type of a slot and of an inline schema.
-/

namespace RouteTypes

namespace Schema

/-- The built-in type of a schema, by its kind. A text that holds a point in time
    is a date object when the caller wants it so. -/
def primitive (keepDates : Bool) (s : Schema) : Option Primitive :=
  match s.kind with
  | some .integer | some .number => some .number
  | some .string =>
    some (if keepDates && s.format == some "date-time" then .date else .string)
  | some .boolean => some .boolean
  | some .null => some .null
  | some .array | some .object | none => none

/-- The literal of an enumeration member. Texts are always quoted and `null` never
    is; numbers and truth values are quoted when the schema describes texts. -/
def literal (quoteAll : Bool) : EnumMember → Literal
  | .string text => .quoted text
  | .null => .raw "null"
  | .integer value => token (toString value)
  | .float value => token value.plainText
  | .boolean value => token (if value then "true" else "false")
where
  /-- A token, as a text or as itself. -/
  token (text : String) : Literal := if quoteAll then .quoted text else .raw text

/-- The literals of an enumeration. An empty one has no type. -/
def literals (s : Schema) (members : List EnumMember) : Option Shape :=
  if members.isEmpty then none
  else some (.literals (members.map (literal (s.kind == some .string))))

/-- The shape of a schema that holds no other schemas: binary content, or a
    built-in type. -/
def leaf (keepDates : Bool) (direction : Direction) (s : Schema) : Option Shape :=
  if s.format == some "binary" then some (.binary direction.binary)
  else (s.primitive keepDates).map Shape.primitive

/-- The node of a schema around its shape. A schema without a shape is dropped. -/
def node (s : Schema) : Option Shape → Typing (Option TypeNode)
  | some shape =>
    pure (some { nullable := s.isNullable, description := s.description, shape })
  | none => do
    Logged.report (.schemaDropped s.type s.format)
    pure none

end Schema

/-- The combination of the members that have a type. -/
def combine (combinator : Combinator) (members : List TypeNode) : Option Shape :=
  if members.isEmpty then none else some (.combined combinator members)

/-- The property for further keys, if their value has a type. -/
def indexProperties (value : Option TypeNode) : List Property :=
  (value.map Property.index).toList

mutual

/-- The type of what stands in a slot. -/
def typeSlot (setting : Setting) (direction : Direction) :
    Slot Schema → Typing (Option TypeNode)
  | .reference pointer => do
    let target ← setting.typeRef pointer
    pure (some target.node)
  | .inline schema => typeSchema setting direction schema
termination_by structural slot => slot

/-- The type of an inline schema. -/
def typeSchema (setting : Setting) (direction : Direction) :
    Schema → Typing (Option TypeNode)
  | s@⟨_, _, _, _, _, properties, required, additional, items, enum, oneOf, allOf, anyOf⟩ =>
    let declared : Typing (List Property) :=
      match properties with
      | some slots => typeProperties setting direction required slots
      | none => pure []
    let further : Typing (List Property) :=
      match additional with
      | some (.typed slot) => indexProperties <$> typeSlot setting direction slot
      | some (.allowed true) => pure (indexProperties (some { shape := .primitive .any }))
      | some (.allowed false) | none => pure []
    let shape : Typing (Option Shape) :=
      match oneOf, allOf, anyOf, enum with
      | some members, _, _, _ => combine .oneOf <$> typeMembers setting direction members
      | none, some members, _, _ => combine .allOf <$> typeMembers setting direction members
      | none, none, some members, _ => combine .anyOf <$> typeMembers setting direction members
      | none, none, none, some members => pure (s.literals members)
      | none, none, none, none =>
        if s.kind = some .array then
          match items with
          | some slot => Option.map Shape.array <$> typeSlot setting direction slot
          | none => pure none
        else if s.properties.isSome || s.isOpen then
          (fun own other => some (.object (own ++ other))) <$> declared <*> further
        else
          pure (s.leaf setting.options.keepDates direction)
    shape >>= s.node
termination_by structural s => s

/-- The types of those members that have one. -/
def typeMembers (setting : Setting) (direction : Direction) :
    List (Slot Schema) → Typing (List TypeNode)
  | [] => pure []
  | slot :: rest => do
    let node ← typeSlot setting direction slot
    let nodes ← typeMembers setting direction rest
    pure (node.toList ++ nodes)
termination_by structural slots => slots

/-- The properties that are not deprecated and have a type. A reference never
    counts as deprecated, because it is not followed. -/
def typeProperties (setting : Setting) (direction : Direction) (required : List String) :
    List (String × Slot Schema) → Typing (List Property)
  | [] => pure []
  | (name, slot) :: rest => do
    let property ←
      match slot with
      | .inline schema =>
        if schema.deprecated then do
          Logged.report (.propertySkipped name)
          pure []
        else do
          let value ← typeSchema setting direction schema
          pure (fields name value)
      | .reference pointer => do
        let target ← setting.typeRef pointer
        pure (fields name (some target.node))
    let properties ← typeProperties setting direction required rest
    pure (property ++ properties)
termination_by structural slots => slots
where
  /-- The property for a value, with the value's description. -/
  fields (name : String) (value : Option TypeNode) : List Property :=
    value.toList.map fun v => .field name (required.contains name) v.description v

end

end RouteTypes
