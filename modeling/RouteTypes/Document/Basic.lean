import RouteTypes.Document.Schema
import RouteTypes.OrderedMap

/-!
# Documents

The parts of an OpenAPI 3 document that request and response types are made of.

Every map keeps the order of the document. That order is visible: it decides in
which order declarations and properties are written, which success status counts
and which media type is chosen.

## Main definitions

* `Registry`: The five registries under `components`.
* `Components`: What the registries hold.
* `Method`: The methods that carry an operation.
* `Operation`, `PathItem`, `Document`: The document from the inside out.
* `PathItem.ofMembers`: The path item that a list of members leaves behind.
-/

namespace RouteTypes

/-- A registry of reusable definitions. -/
inductive Registry where
  | schemas
  | parameters
  | requestBodies
  | responses
  | headers
  deriving DecidableEq, Repr

namespace Registry

/-- The registries in the order in which their entries are declared. -/
def all : List Registry :=
  [schemas, parameters, requestBodies, responses, headers]

/-- The key of a registry under `components`. -/
def key : Registry → String
  | schemas => "schemas"
  | parameters => "parameters"
  | requestBodies => "requestBodies"
  | responses => "responses"
  | headers => "headers"

/-- The registry with a key. -/
def ofKey? (key : String) : Option Registry :=
  all.find? (·.key = key)

end Registry

/-- A method that can carry an operation. -/
inductive Method where
  | get
  | post
  | put
  | delete
  | head
  | options
  | patch
  deriving DecidableEq, Repr

namespace Method

/-- The methods. -/
def all : List Method :=
  [get, post, put, delete, head, options, patch]

/-- The key of a method in a path item. -/
def key : Method → String
  | get => "get"
  | post => "post"
  | put => "put"
  | delete => "delete"
  | head => "head"
  | options => "options"
  | patch => "patch"

/-- The method with a key. `trace` is no method here. -/
def ofKey? (key : String) : Option Method :=
  all.find? (·.key = key)

end Method

/-- Where a parameter is sent. -/
inductive Location where
  | query
  | header
  | path
  | cookie
  deriving DecidableEq, Repr

namespace Location

/-- The locations. -/
def all : List Location :=
  [query, header, path, cookie]

/-- The name of a location in a document. -/
def name : Location → String
  | query => "query"
  | header => "header"
  | path => "path"
  | cookie => "cookie"

/-- The location with a name. -/
def ofName? (name : String) : Option Location :=
  all.find? (·.name = name)

end Location

/-- A parameter of a request. -/
structure Parameter where
  name : String
  location : Location
  description : Option String := none
  required : Option Bool := none
  schema : Option (Slot Schema) := none

/-- The content of one media type. -/
structure MediaType where
  schema : Option (Slot Schema) := none

/-- Contents by media type. -/
abbrev Content := OrderedMap String MediaType

/-- The body of a request. -/
structure RequestBody where
  description : Option String := none
  required : Option Bool := none
  content : Content := .empty

/-- A header of a response. -/
structure Header where
  description : Option String := none
  required : Option Bool := none
  schema : Option (Slot Schema) := none

/-- A response. -/
structure Response where
  description : Option String := none
  content : Content := .empty
  headers : OrderedMap String (Slot Header) := .empty

/-- An operation: what one method of one path takes and answers. -/
structure Operation where
  operationId : Option String := none
  description : Option String := none
  deprecated : Bool := false
  parameters : List (Slot Parameter) := []
  requestBody : Option (Slot RequestBody) := none
  responses : OrderedMap String (Slot Response) := .empty

/-- The operations of a path, and the parameters they share. -/
structure PathItem where
  parameters : List (Slot Parameter) := []
  operations : OrderedMap Method Operation := .empty

/-- A member of a path item: the shared parameters, the operation of a method, or
    anything else, which counts for nothing. -/
inductive PathMember where
  | parameters (shared : List (Slot Parameter))
  | operation (method : Method) (operation : Operation)
  | other

namespace PathItem

/-- The path item after one more member. A member given again replaces the earlier
    one, and an operation then keeps its place. -/
def add (item : PathItem) : PathMember → PathItem
  | .parameters shared => { item with parameters := shared }
  | .operation method operation =>
    { item with operations := item.operations.insert method operation }
  | .other => item

/-- The path item that a list of members leaves behind. -/
def ofMembers (members : List PathMember) : PathItem :=
  members.foldl add {}

end PathItem

/-- The reusable definitions of a document. -/
structure Components where
  schemas : OrderedMap String (Slot Schema) := .empty
  parameters : OrderedMap String (Slot Parameter) := .empty
  requestBodies : OrderedMap String (Slot RequestBody) := .empty
  responses : OrderedMap String (Slot Response) := .empty
  headers : OrderedMap String (Slot Header) := .empty

namespace Components

/-- The keys of a registry in order. -/
def keys (c : Components) : Registry → List String
  | .schemas => c.schemas.keys
  | .parameters => c.parameters.keys
  | .requestBodies => c.requestBodies.keys
  | .responses => c.responses.keys
  | .headers => c.headers.keys

/-- Whether a registry has an entry for a key. -/
def contains (c : Components) (registry : Registry) (key : String) : Bool :=
  match registry with
  | .schemas => c.schemas.contains key
  | .parameters => c.parameters.contains key
  | .requestBodies => c.requestBodies.contains key
  | .responses => c.responses.contains key
  | .headers => c.headers.contains key

/-- Every entry as its registry and key, in the order of declaration. -/
def entryKeys (c : Components) : List (Registry × String) :=
  Registry.all.flatMap fun registry => (c.keys registry).map fun key => (registry, key)

end Components

/-- A document. -/
structure Document where
  openapi : Option String := none
  swagger : Option String := none
  servers : List String := []
  paths : OrderedMap String PathItem := .empty
  components : Components := {}

/-- The URL of the first server, or nothing. -/
def Document.baseUrl (d : Document) : String :=
  d.servers.headD ""

end RouteTypes
