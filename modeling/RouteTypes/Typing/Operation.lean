import RouteTypes.Api
import RouteTypes.Typing.Parameters

/-!
# Typed Operations

The entries that describe one operation.

An operation is described through its first successful response. An operation that
has none is dropped, but only after its parameters have been looked at, so a bad
reference among them is an error all the same. The entries come in a fixed order:
request headers, query, status, response body, response headers, form encoding,
request body.

## Main definitions

* `successStatus`: The number of a successful status code.
* `responseHeaders`: The headers of a response as properties.
* `requestEntries`: The form encoding and the body of a request.
* `typeOperation`: All entries of an operation.
-/

namespace RouteTypes

/-- The number of a status code that counts as success: `20` or `30` and one more
    digit. -/
def successStatus (code : String) : Option Nat :=
  match code.toList with
  | [first, '0', last] =>
    if (first = '2' ∨ first = '3') ∧ last.isDigit then
      some ((first.toNat - '0'.toNat) * 100 + (last.toNat - '0'.toNat))
    else none
  | _ => none

/-- The first successful response of an operation with its status. -/
def Operation.success? (o : Operation) : Option (Nat × Slot Response) :=
  o.responses.entries.findSome? fun e => (successStatus e.1).map fun status => (status, e.2)

/-- The response in a slot. -/
def resolveResponse (setting : Setting) : Slot Response → Typing Response
  | .reference pointer => .ofExcept (setting.components.response pointer)
  | .inline response => pure response

/-- The property for a response header. A header is always sent unless it says
    otherwise. -/
def responseHeader (setting : Setting) (name : String) :
    Slot Header → Typing (Option Property)
  | .reference pointer => do
    let target ← setting.typeRef pointer
    pure (some (.field name true none target.node))
  | .inline header => do
    let value ← typeOptional setting .response header.schema
    pure (value.map fun v => .field name (header.required.getD true) header.description v)

/-- The properties for the headers of a response that have a type. -/
def responseHeaders (setting : Setting) (response : Response) : Typing (List Property) := do
  let headers ← response.headers.entries.mapM fun e => responseHeader setting e.1 e.2
  pure (headers.filterMap id)

/-- The entry for response headers, if there are any. -/
def headersEntry (headers : List Property) : List Property :=
  if headers.isEmpty then []
  else [.field "resHeaders" true none { shape := .object headers }]

/-- The type of an inline request body: that of its form entry, or that of the entry
    chosen for any body. -/
def typeRequestBody (setting : Setting) (body : RequestBody) : Typing (Option TypeNode) :=
  match body.content.form with
  | some (_, media) => typeMedia setting .request (some media)
  | none => typeContent setting .request body.content

/-- The request body in a slot and its type. A referenced body is named, not built. -/
def resolveRequestBody (setting : Setting) :
    Slot RequestBody → Typing (RequestBody × Option TypeNode)
  | .reference pointer => do
    let body ← .ofExcept (setting.components.requestBody pointer)
    let target ← setting.typeRef pointer
    pure (body, some target.node)
  | .inline body => do
    let value ← typeRequestBody setting body
    pure (body, value)

/-- The entries for the form encoding and the body of a request. A body is required
    unless it says otherwise. -/
def requestEntries (setting : Setting) (slot : Slot RequestBody) : Typing (List Property) := do
  let (body, value) ← resolveRequestBody setting slot
  let format := body.content.form.map fun f =>
    Property.field "reqFormat" true none { shape := .format f.1 }
  let entry := value.map fun v =>
    Property.field "reqBody" (body.required.getD true) body.description v
  pure (format.toList ++ entry.toList)

/-- The request entries of an operation that may have no body. -/
def optionalRequestEntries (setting : Setting) :
    Option (Slot RequestBody) → Typing (List Property)
  | some slot => requestEntries setting slot
  | none => pure []

/-- The entries for merged parameters. Headers never have to be given, a query has to
    be when one of its parameters has. -/
def parameterEntries (declared : List DeclaredParameter) : List Property :=
  let headers := (mergeParameters declared .header).map fun g => g.property "reqHeaders" false
  let query := (mergeParameters declared .query).map fun g => g.property "query" g.required
  headers.toList ++ query.toList

/-- The entries for a response with its status. -/
def responseEntries (setting : Setting) (status : Nat) (slot : Slot Response) :
    Typing (List Property) := do
  let response ← resolveResponse setting slot
  let body ← typeContent setting .response response.content
  let headers ← responseHeaders setting response
  let statusEntry := Property.field "status" true none { shape := .status status }
  let bodyEntry := body.map fun v => Property.field "resBody" true response.description v
  pure (statusEntry :: bodyEntry.toList ++ headersEntry headers)

/-- An operation of a path item. Nothing when it has no successful response. -/
def typeOperation (setting : Setting) (item : PathItem) (method : Method)
    (operation : Operation) : Typing (Option TypedOperation) := do
  let declared ← declareParameters setting (item.parameters ++ operation.parameters)
  match operation.success? with
  | none => pure none
  | some (status, slot) => do
    let response ← responseEntries setting status slot
    let request ← optionalRequestEntries setting operation.requestBody
    pure (some {
      method
      description := operation.description
      entries := parameterEntries declared ++ response ++ request })

end RouteTypes
