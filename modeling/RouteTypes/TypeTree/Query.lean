import RouteTypes.TypeTree.Basic

/-!
# Questions about Type Trees

Whether some node of a tree has a property of interest.

Three questions are asked of whole trees. Whether an upload occurs decides about
one import of a module, whether a reference occurs decides about the other, and
whether an object with properties occurs decides if the text of the tree takes
several lines.

## Main definitions

* `TypeNode.any`: Whether some node of a tree passes a test.
* `TypeNode.usesUpload`, `TypeNode.usesReferences`, `TypeNode.spansLines`: The
  three questions, for a node.
* `Property.usesUpload`, `Property.usesReferences`, `Property.spansLines`: The
  same for the values of a property.
-/

namespace RouteTypes

mutual

/-- Whether the node or one below it passes a test. -/
def TypeNode.any (p : TypeNode → Bool) : TypeNode → Bool
  | n@⟨_, _, shape⟩ => p n || shape.anyBelow p
termination_by structural n => n

/-- Whether a node inside the shape passes a test. -/
def Shape.anyBelow (p : TypeNode → Bool) : Shape → Bool
  | .object properties => anyProperty p properties
  | .combined _ members => anyNode p members
  | .array item => item.any p
  | .primitive _ | .binary _ | .literals _ | .reference _ | .status _ | .format _ => false
termination_by structural s => s

/-- Whether a node in a value of the property passes a test. -/
def Property.any (p : TypeNode → Bool) : Property → Bool
  | ⟨_, _, _, values⟩ => anyNode p values
termination_by structural q => q

/-- Whether a node in one of the nodes passes a test. -/
def anyNode (p : TypeNode → Bool) : List TypeNode → Bool
  | [] => false
  | n :: rest => n.any p || anyNode p rest
termination_by structural ns => ns

/-- Whether a node in one of the properties passes a test. -/
def anyProperty (p : TypeNode → Bool) : List Property → Bool
  | [] => false
  | q :: rest => q.any p || anyProperty p rest
termination_by structural qs => qs

end

namespace Shape

/-- The shape is that of uploaded binary content. -/
def isUpload : Shape → Bool
  | .binary .upload => true
  | _ => false

/-- The shape is a reference. -/
def isReference : Shape → Bool
  | .reference _ => true
  | _ => false

/-- The shape is an object with at least one property. -/
def isBlock : Shape → Bool
  | .object (_ :: _) => true
  | _ => false

end Shape

namespace TypeNode

/-- Whether the node is an array. -/
def isArray (n : TypeNode) : Bool :=
  match n.shape with
  | .array _ => true
  | _ => false

/-- How the members of the node are combined, if it is a combination. -/
def combinator (n : TypeNode) : Option Combinator :=
  match n.shape with
  | .combined combinator _ => some combinator
  | _ => none

/-- Whether uploaded content occurs in the tree. -/
def usesUpload (n : TypeNode) : Bool :=
  n.any (·.shape.isUpload)

/-- Whether a reference occurs in the tree. -/
def usesReferences (n : TypeNode) : Bool :=
  n.any (·.shape.isReference)

/-- Whether the text of the tree takes several lines. -/
def spansLines (n : TypeNode) : Bool :=
  n.any (·.shape.isBlock)

end TypeNode

namespace Property

/-- Whether uploaded content occurs in a value. -/
def usesUpload (q : Property) : Bool :=
  q.values.any (·.usesUpload)

/-- Whether a reference occurs in a value. -/
def usesReferences (q : Property) : Bool :=
  q.values.any (·.usesReferences)

/-- Whether the text of a value takes several lines. -/
def spansLines (q : Property) : Bool :=
  q.values.any (·.spansLines)

end Property

end RouteTypes
