import RouteTypes.Text.Quoted
import RouteTypes.TypeTree.Comment
import RouteTypes.TypeTree.Query

/-!
# The Text of a Type

How type trees are written.

Every node is written from its own structure, so equal trees have equal texts.
Objects stand in braces with one property per line, two spaces deeper than the
line they start on, and a property whose value takes several lines is set off from
its neighbours by an empty line.

Parentheses are written only where an operator would otherwise take too little: a
union inside an intersection, and a union or intersection before the brackets of
an array. `isUnion` and `isIntersection` say what the text of a node is at its top
level, looking through combinations of a single member, which are written as that
member alone.

## Main definitions

* `indentation`: The blanks at the start of a line.
* `TypeNode.isUnion`, `TypeNode.isIntersection`: The operator at the top level.
* `TypeNode.render`, `Property.render`: The text of a node and of a property.
* `renderObject`: The braces around properties.
-/

namespace RouteTypes

/-- The blanks before a line at a depth. -/
def indentation (depth : Nat) : String :=
  String.ofList (List.replicate (2 * depth) ' ')

/-- The texts with a separator between neighbours. -/
def joinWith (separator : String) : List String → String
  | [] => ""
  | [text] => text
  | text :: rest => text ++ separator ++ joinWith separator rest

/-- The text of a literal. -/
def Literal.render : Literal → String
  | quoted text => Text.quoted text
  | raw token => token

/-- The text of a reference. -/
def TypeRef.render (r : TypeRef) : String :=
  match r.property with
  | some property => r.space ++ "." ++ r.name ++ "[" ++ Text.quoted property ++ "]"
  | none => r.space ++ "." ++ r.name

/-- The type of binary content. An upload is accepted as a file of the browser or
    as a stream, a download is a blob. -/
def BinaryKind.render : BinaryKind → String
  | upload => "(File | ReadStream)"
  | download => "Blob"

/-- The key of a property. -/
def PropertyName.render : PropertyName → String
  | field name => Text.objectKey name
  | index => "[key: string]"

mutual

/-- Whether the text of the node is a union at its top level. -/
def TypeNode.isUnion : TypeNode → Bool
  | ⟨true, _, _⟩ => true
  | ⟨false, _, shape⟩ => shape.isUnion
termination_by structural n => n

/-- Whether the text of the shape is a union at its top level. -/
def Shape.isUnion : Shape → Bool
  | .literals members => members.length > 1
  | .combined _ [member] => member.isUnion
  | .combined combinator (_ :: _ :: _) => !combinator.isIntersection
  | .combined _ [] => false
  | .primitive _ | .binary _ | .object _ | .array _ | .reference _ | .status _
  | .format _ => false
termination_by structural s => s

end

/-- Whether the text of the node is an intersection at its top level. -/
def TypeNode.isIntersection (n : TypeNode) : Bool :=
  !n.nullable &&
    match n.shape with
    | .combined combinator (_ :: _ :: _) => combinator.isIntersection
    | _ => false

/-- A text in parentheses where they are needed. -/
def parenthesized (needed : Bool) (text : String) : String :=
  if needed then "(" ++ text ++ ")" else text

/-- The text of a property, and whether its value takes several lines. -/
structure Block where
  text : String
  tall : Bool

/-- Properties below one another, with an empty line next to each tall one. -/
def joinBlocks : List Block → String
  | [] => ""
  | [block] => block.text
  | block :: next :: rest =>
    let gap := if block.tall || next.tall then "\n\n" else "\n"
    block.text ++ gap ++ joinBlocks (next :: rest)

/-- Braces around properties. The closing brace stands at the depth of the line
    with the opening one; no properties give braces without a line. -/
def braces (depth : Nat) (blocks : List Block) : String :=
  if blocks.isEmpty then "\x7b\x7d"
  else "\x7b\n" ++ joinBlocks blocks ++ "\n" ++ indentation depth ++ "\x7d"

mutual

/-- The text of a node whose first line stands at a depth. -/
def TypeNode.render (depth : Nat) : TypeNode → String
  | ⟨nullable, _, shape⟩ =>
    let body := shape.render depth
    if nullable then body ++ " | null" else body
termination_by structural n => n

/-- The text of a shape. -/
def Shape.render (depth : Nat) : Shape → String
  | .primitive type => type.name
  | .binary kind => kind.render
  | .literals members => joinWith " | " (members.map (·.render))
  | .object properties => braces depth (renderProperties (depth + 1) properties)
  | .combined combinator members =>
    let separator := if combinator.isIntersection then " & " else " | "
    joinWith separator (renderMembers depth combinator.isIntersection members)
  | .array item =>
    parenthesized (item.isUnion || item.isIntersection) (item.render depth) ++ "[]"
  | .reference target => target.render
  | .status code => toString code
  | .format format => format.name
termination_by structural s => s

/-- The text of a property: its comment, its key and its value. A property that may
    be left out says so twice, by a mark and in its type. -/
def Property.render (depth : Nat) : Property → String
  | ⟨name, required, description, values⟩ =>
    let indent := indentation depth
    let value := joinWith " & " (renderMembers depth false values)
    docComment description indent ++ indent ++ name.render ++
      (if !required && name != .index then "?: " ++ value ++ " | undefined" else ": " ++ value)
termination_by structural q => q

/-- The texts of the members of a combination. Inside an intersection a union needs
    parentheses. -/
def renderMembers (depth : Nat) (intersection : Bool) : List TypeNode → List String
  | [] => []
  | n :: rest =>
    parenthesized (intersection && n.isUnion) (n.render depth) ::
      renderMembers depth intersection rest
termination_by structural ns => ns

/-- The texts of properties, with what the lines between them depend on. -/
def renderProperties (depth : Nat) : List Property → List Block
  | [] => []
  | q :: rest => ⟨q.render depth, q.spansLines⟩ :: renderProperties depth rest
termination_by structural qs => qs

end

/-- Properties in braces, at a depth. -/
def renderObject (depth : Nat) (properties : List Property) : String :=
  braces depth (renderProperties (depth + 1) properties)

end RouteTypes
