import RouteTypes.Config.Target
import RouteTypes.Event

/-!
# Log Events

What a run reports, and how it is written.

An event has a level and comes from one of the two parts of the program: the compiler,
or the command line around it. Its line is a message followed by fields. The fields that
can hold any text are written plainly, except for the few that are shown in quotes.

## Main definitions

* `Level`, `Part`: How important an event is, and where it comes from.
* `RunEvent`: One event of a run.
* `RunEvent.text`: The event in words.
-/

namespace RouteTypes

/-- How important an event is. -/
inductive Level where
  | error
  | warn
  | info
  | debug
  | trace
  deriving DecidableEq, Repr

namespace Level

/-- The levels, the most important one first. -/
def all : List Level := [error, warn, info, debug, trace]

/-- The name of a level in a line. -/
def name : Level → String
  | error => "ERROR"
  | warn => "WARN"
  | info => "INFO"
  | debug => "DEBUG"
  | trace => "TRACE"

/-- The place of a level among all, counted from one. -/
def rank : Level → Nat
  | error => 1
  | warn => 2
  | info => 3
  | debug => 4
  | trace => 5

end Level

/-- A part of the program. -/
inductive Part where
  | compiler
  | commandLine
  deriving DecidableEq, Repr

/-- The name of a part in a filter. -/
def Part.name : Part → String
  | compiler => "pathtypes_core"
  | commandLine => "pathtypes_cli"

/-- An event of a run. -/
inductive RunEvent where
  /-- The work on a target begins. -/
  | started (target : Target)
  /-- The text of a document is read. -/
  | documentRead (path : String) (format : Format) (bytes : Nat)
  /-- Something is doubtful about a document. -/
  | doubt (warning : ReadWarning)
  /-- The compiler reports something. -/
  | compiling (event : CompileEvent)
  /-- A module is written. -/
  | moduleWritten (path : String) (bytes : Nat)
  /-- The work on a target is done. -/
  | finished (target : Target) (files : Nat) (baseUrl : String)
  deriving DecidableEq, Repr

/-- A truth value in words. -/
def truthText (value : Bool) : String :=
  if value then "true" else "false"

/-- An optional text, shown. -/
def shownOption {α : Type} (text : α → String) : Option α → String
  | some a => "Some(" ++ text a ++ ")"
  | none => "None"

/-- The value of a `type` keyword, shown. -/
def TypeSpec.shown : TypeSpec → String
  | single name => "Single(" ++ Text.shown name ++ ")"
  | multiple names => "Multiple([" ++ ", ".intercalate (names.map Text.shown) ++ "])"

/-- An event of the compiler in words. -/
def CompileEvent.text : CompileEvent → String
  | schemaDropped type format =>
    "Schema has no type representation, dropping schema_type=" ++ shownOption (·.shown) type ++
      " format=" ++ shownOption Text.shown format
  | propertySkipped property => "Skipping deprecated property property=" ++ property
  | componentOmitted registry key =>
    "Component has no type representation, omitting registry=" ++ registry.key ++ " key=" ++ key
  | operationSkipped path method =>
    "Skipping deprecated operation path=" ++ path ++ " method=" ++ Text.shown method.key
  | operationDropped path method =>
    "No 2xx/3xx response, dropping operation path=" ++ path ++ " method=" ++
      Text.shown method.key
  | pathOmitted path => "No operations left, omitting path path=" ++ path
  | documentTyped types paths =>
    "Normalized document types=" ++ toString types ++ " paths=" ++ toString paths
  | modulesRendered files hasTypes =>
    "Rendered modules files=" ++ toString files ++ " has_types=" ++ truthText hasTypes

/-- A doubt about a document in words. -/
def ReadWarning.text : ReadWarning → String
  | unrecognizedVersion version =>
    "Unrecognized OpenAPI version, treating as 3.x version=" ++ Text.shown version
  | missingVersion => "Document has no 'openapi' version field, treating as 3.x"

namespace RunEvent

/-- The level of an event. -/
def level : RunEvent → Level
  | started _ | documentRead .. | compiling _ | moduleWritten .. => .debug
  | doubt _ => .warn
  | finished .. => .info

/-- The part of the program an event comes from. -/
def part : RunEvent → Part
  | compiling _ => .compiler
  | started _ | documentRead .. | doubt _ | moduleWritten .. | finished .. => .commandLine

/-- The event in words. -/
def text : RunEvent → String
  | started target =>
    "Generating types input=" ++ target.inputFile ++ " output=" ++ target.outputDirectory ++
      " namespace=" ++ target.options.space
  | documentRead path format bytes =>
    "Read OpenAPI document path=" ++ path ++ " yaml=" ++ truthText (format == .yaml) ++
      " bytes=" ++ toString bytes
  | doubt warning => warning.text
  | compiling event => event.text
  | moduleWritten path bytes => "Wrote module path=" ++ path ++ " bytes=" ++ toString bytes
  | finished target files baseUrl =>
    "Generated types input=" ++ target.inputFile ++ " output=" ++ target.outputDirectory ++
      " files=" ++ toString files ++ " base_url=" ++ baseUrl

end RunEvent

end RouteTypes
