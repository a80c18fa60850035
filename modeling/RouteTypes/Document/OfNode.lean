import RouteTypes.Data.Decoding
import RouteTypes.Document.OfValue

/-!
# Documents from Nodes

The frame of a document: servers, paths with their operations, and components.

Everything in the frame has one expected form, so what is wrong with it is known
together with its place. Where a slot begins, the value is taken as it is first,
with any fault inside, and then has to be a reference or a definition.

## Main definitions

* `Decoding.slot`: What stands in a slot.
* `Decoding.pathItem`, `Decoding.operation`, `Decoding.components`: The parts of the
  frame.
* `Decoding.document`: A whole document.
-/

namespace RouteTypes

namespace Decoding

variable {α : Type}

/-- What stands in a slot. -/
def slot (definition : Value → Option α) (room : Nat) (node : Node) : Decoding (Slot α) := do
  match (← value room node).slot? definition with
  | some slot => pure slot
  | none => fail .noSlot

/-- A mapping from texts to values of one form, each key once with its last value. -/
def orderedMap (decode : Nat → Node → Decoding α) (room : Nat) (node : Node) :
    Decoding (OrderedMap String α) :=
  OrderedMap.ofList <$> map decode room node

/-- A registry of definitions. -/
def registry (definition : Value → Option α) :
    Nat → Node → Decoding (OrderedMap String (Slot α)) :=
  orderedMap (slot definition)

/-- The slots of a list of parameters. -/
def parameters : Nat → Node → Decoding (List (Slot Parameter)) :=
  list (slot Value.parameter?)

/-- The URL of a server. -/
def server : Nat → Node → Decoding String :=
  record Forms.server
    (fun _ _ node => do
      let url ← text node
      pure fun _ => url)
    ""

/-- What a field of an operation does to the operation. -/
def operationField : FieldDecoder Operation
  | "operationId", _, node => do
    let x ← optional text node
    pure fun o => { o with operationId := x }
  | "description", _, node => do
    let x ← optional text node
    pure fun o => { o with description := x }
  | "deprecated", _, node => do
    let x ← flag node
    pure fun o => { o with deprecated := x }
  | "parameters", room, node => do
    let x ← parameters room node
    pure fun o => { o with parameters := x }
  | "requestBody", room, node => do
    let x ← optional (slot Value.requestBody? room) node
    pure fun o => { o with requestBody := x }
  | "responses", room, node => do
    let x ← registry Value.response? room node
    pure fun o => { o with responses := x }
  | _, _, _ => pure id

/-- An operation. -/
def operation : Nat → Node → Decoding Operation :=
  record Forms.operation operationField {}

/-- A member of a path item. -/
def pathMember (room : Nat) (name : String) (node : Node) : Decoding PathMember :=
  if name = "parameters" then
    PathMember.parameters <$> parameters room node
  else match Method.ofKey? name with
    | some method => PathMember.operation method <$> operation room node
    | none => do
      skip node
      pure .other

/-- A path item. -/
def pathItem (room : Nat) (node : Node) : Decoding PathItem :=
  PathItem.ofMembers <$> mapExpecting .pathItem pathMember room node

/-- What a registry does to the components. -/
def componentsField : FieldDecoder Components
  | "schemas", room, node => do
    let x ← registry Value.schema? room node
    pure fun c => { c with schemas := x }
  | "parameters", room, node => do
    let x ← registry Value.parameter? room node
    pure fun c => { c with parameters := x }
  | "requestBodies", room, node => do
    let x ← registry Value.requestBody? room node
    pure fun c => { c with requestBodies := x }
  | "responses", room, node => do
    let x ← registry Value.response? room node
    pure fun c => { c with responses := x }
  | "headers", room, node => do
    let x ← registry Value.header? room node
    pure fun c => { c with headers := x }
  | _, _, _ => pure id

/-- The components of a document. -/
def components : Nat → Node → Decoding Components :=
  record Forms.components componentsField {}

/-- What a field of a document does to the document. -/
def documentField : FieldDecoder Document
  | "openapi", _, node => do
    let x ← optional text node
    pure fun d => { d with openapi := x }
  | "swagger", _, node => do
    let x ← optional text node
    pure fun d => { d with swagger := x }
  | "servers", room, node => do
    let x ← list server room node
    pure fun d => { d with servers := x }
  | "paths", room, node => do
    let x ← orderedMap pathItem room node
    pure fun d => { d with paths := x }
  | "components", room, node => do
    let x ← components room node
    pure fun d => { d with components := x }
  | _, _, _ => pure id

/-- A document. -/
def document : Nat → Node → Decoding Document :=
  record Forms.document documentField {}

end Decoding

end RouteTypes
