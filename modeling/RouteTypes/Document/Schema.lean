import RouteTypes.Number.Double

/-!
# Schemas

The schema objects of an OpenAPI document, as far as types are made of them.

Wherever the document may hold a schema it may also hold a reference to one, and
the same is true of parameters, bodies, responses and headers. `Slot` is such a
place. Schemas nest through their properties, items and combinators, so the type
is recursive; the functions over it recurse along with it.

The names of a `type` keyword are kept as the document writes them, since an
unknown name is no error: it only leaves the schema without a kind.

## Main definitions

* `Slot`: A reference or an inline definition.
* `Schema`: A schema object.
* `Schema.kind`: The kind of value the schema describes, if it names one.
* `Schema.isNullable`: Whether `null` is allowed besides.
* `Schema.isOpen`: Whether keys beyond the declared properties are allowed.
-/

namespace RouteTypes

/-- A place in a document that holds a reference or an inline definition. -/
inductive Slot (α : Type) where
  | reference (pointer : String)
  | inline (value : α)
  deriving Repr

/-- The value of a `type` keyword: one name, or a list of names. -/
inductive TypeSpec where
  | single (name : String)
  | multiple (names : List String)
  deriving DecidableEq, Repr

/-- The kinds of value a schema can describe. -/
inductive Kind where
  | string
  | number
  | integer
  | boolean
  | array
  | object
  | null
  deriving DecidableEq, Repr

namespace Kind

/-- The name of a kind in a `type` keyword. -/
def name : Kind → String
  | string => "string"
  | number => "number"
  | integer => "integer"
  | boolean => "boolean"
  | array => "array"
  | object => "object"
  | null => "null"

/-- The kind with a name. -/
def ofName? (name : String) : Option Kind :=
  [string, number, integer, boolean, array, object, null].find? (·.name = name)

end Kind

/-- A value listed by an `enum` keyword. -/
inductive EnumMember where
  | string (text : String)
  | integer (value : Int)
  | float (value : Double)
  | boolean (value : Bool)
  | null
  deriving DecidableEq, Repr

/-- The value of `additionalProperties`: a yes or no, or the schema that further
    values have to follow. -/
inductive Additional (α : Type) where
  | allowed (yes : Bool)
  | typed (schema : Slot α)
  deriving Repr

/-- A schema object. An absent keyword is `none`, or the value it has by default
    when it has one. Properties stand in the order of the document. -/
structure Schema where
  type : Option TypeSpec := none
  format : Option String := none
  nullable : Bool := false
  description : Option String := none
  deprecated : Bool := false
  properties : Option (List (String × Slot Schema)) := none
  required : List String := []
  additional : Option (Additional Schema) := none
  items : Option (Slot Schema) := none
  enum : Option (List EnumMember) := none
  oneOf : Option (List (Slot Schema)) := none
  allOf : Option (List (Slot Schema)) := none
  anyOf : Option (List (Slot Schema)) := none

instance : Inhabited Schema := ⟨{}⟩

namespace TypeSpec

/-- The kind a `type` keyword names. Of a list the first known kind other than
    `null` counts, and `null` only when there is no such kind. -/
def kind : TypeSpec → Option Kind
  | single name => Kind.ofName? name
  | multiple names =>
    match (names.filterMap Kind.ofName?).find? (· ≠ .null) with
    | some kind => some kind
    | none => if "null" ∈ names then some .null else none

/-- Whether the keyword allows `null` besides another type: a list of at least two
    names with `null` among them. -/
def allowsNull : TypeSpec → Bool
  | single _ => false
  | multiple names => names.length > 1 && names.contains "null"

end TypeSpec

namespace Schema

/-- The kind of value the schema describes. -/
def kind (s : Schema) : Option Kind :=
  s.type.bind TypeSpec.kind

/-- Whether the schema allows `null`: by the flag, or by its list of types. -/
def isNullable (s : Schema) : Bool :=
  s.nullable || s.type.any TypeSpec.allowsNull

/-- Whether the schema allows keys beyond its properties. -/
def isOpen (s : Schema) : Bool :=
  match s.additional with
  | some (.allowed yes) => yes
  | some (.typed _) => true
  | none => false

end Schema

end RouteTypes
