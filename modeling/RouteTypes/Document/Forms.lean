import RouteTypes.Data.Record

/-!
# Forms of the Document's Records

Which fields each object of a document has, in the order of its list form, and
which of them may be left out.

## Main definitions

* `Forms.document`, `Forms.components`, `Forms.server`, `Forms.operation`: The
  records that make up the frame of a document.
* `Forms.reference`, `Forms.schema`, `Forms.parameter`, `Forms.requestBody`,
  `Forms.response`, `Forms.header`, `Forms.mediaType`: The records that can stand in
  a slot or inside one.
-/

namespace RouteTypes

namespace Forms

/-- A whole document. -/
def document : RecordForm where
  name := "Document"
  fields := [("openapi", .nullable), ("swagger", .nullable), ("servers", .defaulted),
    ("paths", .defaulted), ("components", .defaulted)]

/-- The reusable definitions. -/
def components : RecordForm where
  name := "Components"
  fields := [("schemas", .defaulted), ("parameters", .defaulted), ("requestBodies", .defaulted),
    ("responses", .defaulted), ("headers", .defaulted)]

/-- A server. -/
def server : RecordForm where
  name := "Server"
  fields := [("url", .required)]

/-- An operation. -/
def operation : RecordForm where
  name := "Operation"
  fields := [("operationId", .nullable), ("description", .nullable), ("deprecated", .defaulted),
    ("parameters", .defaulted), ("requestBody", .nullable), ("responses", .defaulted)]

/-- A reference. -/
def reference : RecordForm where
  name := "Reference"
  fields := [("$ref", .required)]

/-- A schema. -/
def schema : RecordForm where
  name := "Schema"
  fields := [("type", .nullable), ("format", .nullable), ("nullable", .defaulted),
    ("description", .nullable), ("deprecated", .defaulted), ("properties", .nullable),
    ("required", .defaulted), ("additionalProperties", .nullable), ("items", .nullable),
    ("enum", .nullable), ("oneOf", .nullable), ("allOf", .nullable), ("anyOf", .nullable)]

/-- A parameter. -/
def parameter : RecordForm where
  name := "Parameter"
  fields := [("name", .required), ("in", .required), ("description", .nullable),
    ("required", .nullable), ("schema", .nullable)]

/-- A request body. -/
def requestBody : RecordForm where
  name := "RequestBody"
  fields := [("description", .nullable), ("required", .nullable), ("content", .defaulted)]

/-- A response. -/
def response : RecordForm where
  name := "Response"
  fields := [("description", .nullable), ("content", .defaulted), ("headers", .defaulted)]

/-- A header. -/
def header : RecordForm where
  name := "Header"
  fields := [("description", .nullable), ("required", .nullable), ("schema", .nullable)]

/-- The content of a media type. -/
def mediaType : RecordForm where
  name := "MediaType"
  fields := [("schema", .nullable)]

end Forms

end RouteTypes
