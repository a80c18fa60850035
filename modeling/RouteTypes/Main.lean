import RouteTypes.Log.Filter
import RouteTypes.Run

/-!
# The Program

The program on a real system: its files, its log, and what it prints.

Everything that is decided is decided in `Request.perform`. What remains here is the host
that the system is, and the texts that the program prints about itself.

## Main definitions

* `systemHost`: The host that the system is.
* `main`: The program.
-/

namespace RouteTypes

/-- The number of an error of the system, and what it says. -/
def systemErrorDetails : IO.Error → Option UInt32 × String
  | .alreadyExists _ number details | .otherError number details
  | .resourceBusy number details | .resourceVanished number details
  | .unsupportedOperation number details | .hardwareFault number details
  | .unsatisfiedConstraints number details | .illegalOperation number details
  | .protocolError number details | .timeExpired number details
  | .interrupted _ number details | .noFileOrDirectory _ number details
  | .invalidArgument _ number details | .permissionDenied _ number details
  | .resourceExhausted _ number details | .inappropriateType _ number details
  | .noSuchThing _ number details => (some number, details)
  | .unexpectedEof => (none, "unexpected end of file")
  | .userError details => (none, details)

/-- The error of an action on a file. -/
def FileError.ofSystem (error : IO.Error) : FileError :=
  match systemErrorDetails error with
  | (none, details) => .unknown details
  | (some number, details) =>
    match SystemError.ofNumber? number.toNat with
    | some error => .system error
    | none => .unknown (details ++ " (os error " ++ toString number ++ ")")

/-- An action of the system, with its error as an answer. -/
def attempt {α : Type} (action : IO α) : IO (Except FileError α) := do
  match ← action.toBaseIO with
  | .ok value => return .ok value
  | .error error => return .error (.ofSystem error)

/-- The line of an event in the log. -/
def RunEvent.line (event : RunEvent) : String :=
  event.level.name ++ " " ++ event.part.name ++ ": " ++ event.text

/-- The host that the system is. Events are written to the standard error stream. -/
def systemHost (filter : LogFilter) : Host IO where
  read path := attempt (IO.FS.readBinFile path)
  write path text := attempt (IO.FS.writeFile path text)
  makeDirectory path := attempt (IO.FS.createDir path)
  isDirectory path := do
    match ← (IO.FS.realPath path).toBaseIO with
    | .ok resolved => resolved.isDir
    | .error _ => return false
  report event := do
    if filter.shows event then IO.eprintln event.line

/-- The environment variable with the setting of the log. -/
def logVariable : String := "PATHTYPES_LOG"

/-- How the program is called. -/
def usageText : String :=
  "Usage: pathtypes [OPTIONS]"

/-- What the program does and which options it takes. -/
def helpText : String :=
  "\n".intercalate [
    "Generate path-organized TypeScript types from OpenAPI 3 documents",
    "",
    usageText,
    "",
    "Options:",
    "      --config <FILE>           Config file listing [[openapi]] targets",
    "  -i, --input-file <FILE>       Compile a single document instead of the configured targets",
    "  -o, --output-dir <DIR>        Directory receiving the generated modules",
    "      --yaml                    Decode the input as YAML",
    "      --keep-date-object        Type date-time strings as Date",
    "      --types-namespace <NAME>  Namespace of the shared types module",
    "  -h, --help                    Print help",
    "  -V, --version                 Print version"]

/-- The program and its version. -/
def versionText : String :=
  "pathtypes 0.1.0"

/-- Print what the end of a command line calls for. -/
def Conclusion.print : Conclusion → IO Unit
  | done => return
  | failed error => IO.eprintln ("Error: " ++ error.message)
  | help => IO.println helpText
  | version => IO.println versionText
  | misuse => IO.eprintln ("error: unexpected arguments\n\n" ++ usageText)

end RouteTypes

/-- The program. -/
def main (words : List String) : IO UInt32 := do
  let filter := RouteTypes.LogFilter.ofSetting (← IO.getEnv RouteTypes.logVariable)
  let request := RouteTypes.Request.ofWords words
  let conclusion ← request.perform (RouteTypes.systemHost filter)
  conclusion.print
  return conclusion.code.toUInt32
