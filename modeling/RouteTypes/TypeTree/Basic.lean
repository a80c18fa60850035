import RouteTypes.Document.Basic

/-!
# Type Trees

The types of a compilation, before any text is written.

A node is a shape together with what its schema says besides: whether `null` is
allowed, and a description. Objects hold properties and properties hold nodes, so
nodes, shapes and properties are defined together, and every function over them
comes as a family that recurses along the same lines.

A schema without a representation has no node at all. Whoever asked for it leaves
out the property, member or declaration that would have held it.

## Main definitions

* `TypeNode`, `Shape`, `Property`: The tree.
* `TypeRef`: A declared type, perhaps narrowed to a property.
* `Property.field`, `Property.index`: The two kinds of property.
-/

namespace RouteTypes

/-- A built-in type. -/
inductive Primitive where
  | string
  | number
  | boolean
  | null
  /-- The value of an object that allows any further key. -/
  | any
  /-- A point in time kept as an object. -/
  | date
  deriving DecidableEq, Repr

/-- The name of a built-in type. -/
def Primitive.name : Primitive → String
  | string => "string"
  | number => "number"
  | boolean => "boolean"
  | null => "null"
  | any => "any"
  | date => "Date"

/-- Binary content, by the direction in which it travels. -/
inductive BinaryKind where
  | upload
  | download
  deriving DecidableEq, Repr

/-- A literal of an enumeration: a text in quotes, or a token that stands for
    itself. -/
inductive Literal where
  | quoted (text : String)
  | raw (token : String)
  deriving DecidableEq, Repr

/-- How the members of a combination belong together. -/
inductive Combinator where
  | oneOf
  | allOf
  | anyOf
  deriving DecidableEq, Repr

/-- All members at once, rather than one of them. -/
def Combinator.isIntersection : Combinator → Bool
  | allOf => true
  | oneOf | anyOf => false

/-- The encoding of a form body. -/
inductive BodyFormat where
  | formData
  | urlEncoded
  deriving DecidableEq, Repr

/-- The type that stands for an encoding. -/
def BodyFormat.name : BodyFormat → String
  | formData => "FormData"
  | urlEncoded => "URLSearchParams"

/-- A type declared in the shared namespace, perhaps narrowed to the type of one
    of its properties. -/
structure TypeRef where
  space : String
  name : String
  property : Option String := none
  deriving DecidableEq, Repr

/-- The key of a property: a field name as the document writes it, or the
    signature of all further keys. -/
inductive PropertyName where
  | field (name : String)
  | index
  deriving DecidableEq, Repr

mutual

/-- A type with its nullability and description. -/
structure TypeNode where
  nullable : Bool := false
  description : Option String := none
  shape : Shape

/-- What a type is. -/
inductive Shape where
  | primitive (type : Primitive)
  | binary (kind : BinaryKind)
  | literals (members : List Literal)
  | object (properties : List Property)
  | combined (combinator : Combinator) (members : List TypeNode)
  | array (item : TypeNode)
  | reference (target : TypeRef)
  | status (code : Nat)
  | format (format : BodyFormat)

/-- A property of an object. It has one value, except for the merged wrappers of
    request parameters, which have one per reference and one for the rest. -/
structure Property where
  name : PropertyName
  required : Bool := false
  description : Option String := none
  values : List TypeNode

end

instance : Inhabited TypeNode := ⟨{ shape := .primitive .any }⟩

namespace Property

/-- A named property with one value. -/
def field (name : String) (required : Bool) (description : Option String)
    (value : TypeNode) : Property :=
  { name := .field name, required, description, values := [value] }

/-- The property for all further keys. It takes over the description of its value
    and is always required, because a signature cannot be optional. -/
def index (value : TypeNode) : Property :=
  { name := .index, required := true, description := value.description, values := [value] }

/-- Whether the property may be left out. -/
def isOptional (p : Property) : Bool :=
  !p.required && p.name != .index

end Property

end RouteTypes
