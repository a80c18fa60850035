import RouteTypes.Document.OfNode
import RouteTypes.Json.Node
import RouteTypes.Logged
import RouteTypes.Yaml.Node

/-!
# Reading Documents

From the text of a document to the document.

The text is decoded first, and then the version it states is looked at. A document
of the format before OpenAPI 3 is refused. Any other version is read as if it were
3, with a warning when it is not stated or begins with another number.

## Main definitions

* `ReadError`: Why a text gives no document.
* `ReadWarning`: What is doubtful about a document.
* `Document.ofReading`: The document in the tree of a text.
* `Document.read`: The document in a text.
-/

namespace RouteTypes

/-- A format of document texts. -/
inductive Format where
  | json
  | yaml
  deriving DecidableEq, Repr

/-- The name of a format. -/
def Format.name : Format → String
  | json => "JSON"
  | yaml => "YAML"

/-- Why a text gives no document. -/
inductive ReadError where
  | undecodable (format : Format) (error : DecodeError)
  /-- Something follows the value of the text. -/
  | trailing (format : Format) (fault : TextFault)
  /-- The document is of the format before OpenAPI 3. -/
  | swagger (version : String)
  deriving DecidableEq, Repr

/-- The error in words. -/
def ReadError.message : ReadError → String
  | undecodable format error =>
    "Failed to parse " ++ format.name ++ " at '" ++ pathText error.path ++ "': " ++
      error.cause.message
  | trailing format fault => "Failed to parse " ++ format.name ++ ": " ++ fault.message
  | swagger version =>
    "Swagger " ++ version ++ " documents are not supported, convert to OpenAPI 3 first"

/-- What is doubtful about a document. -/
inductive ReadWarning where
  | unrecognizedVersion (version : String)
  | missingVersion
  deriving DecidableEq, Repr

namespace Format

/-- The error for what follows the value of a text. In JSON it stands outside the
    document, in YAML it belongs to the whole of it. -/
def trailing : Format → TextFault → ReadError
  | json, fault => .trailing .json fault
  | yaml, fault => .undecodable .yaml { cause := .text fault }

end Format

/-- The value in the tree of a text that has nothing else in it. -/
def Reading.decodeWhole {α : Type} (reading : Reading) (format : Format)
    (decode : Nat → Node → Decoding α) : Except ReadError α :=
  match reading.decode decode, reading.rest with
  | .error e, _ => .error (.undecodable format e)
  | .ok _, some fault => .error (format.trailing fault)
  | .ok value, none => .ok value

namespace Document

/-- A version that is known. -/
def isKnownVersion (version : String) : Bool :=
  version.toList.take 2 = ['3', '.']

/-- The document, if its version can be read. -/
def checkVersion (document : Document) : Logged ReadWarning ReadError Document :=
  match document.swagger, document.openapi with
  | some version, _ => .fail (.swagger version)
  | none, none => do
    Logged.report .missingVersion
    pure document
  | none, some version => do
    unless isKnownVersion version do
      Logged.report (.unrecognizedVersion version)
    pure document

/-- The document in the tree of a text. -/
def ofReading (format : Format) (reading : Reading) : Logged ReadWarning ReadError Document := do
  let document ← Logged.ofExcept (reading.decodeWhole format Decoding.document)
  document.checkVersion

end Document

/-- The tree of a text in a format. -/
def Format.read (format : Format) (text : String) : Reading :=
  match format with
  | json => Json.read text
  | yaml => Yaml.read text

/-- The document in a text. -/
def Document.read (format : Format) (text : String) : Logged ReadWarning ReadError Document :=
  ofReading format (format.read text)

/-- The components in a JSON text. -/
def Components.ofJson (text : String) : Except ReadError Components :=
  (Json.read text).decodeWhole .json Decoding.components

/-- The schema or reference in a JSON text. -/
def Schema.slotOfJson (text : String) : Except ReadError (Slot Schema) :=
  (Json.read text).decodeWhole .json (Decoding.slot Value.schema?)

end RouteTypes
