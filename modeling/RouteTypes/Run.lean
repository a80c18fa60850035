import RouteTypes.CommandLine
import RouteTypes.Config.File
import RouteTypes.Files.Host
import RouteTypes.Files.Plan

/-!
# Runs

What the program does: find its targets, and generate the modules of each.

All targets are known before the first one is generated, and a document is read, decoded
and compiled as a whole before the first of its modules is written. A run ends with the
first error, so a target that fails before it is written leaves no file, and no later
target leaves any.

## Main definitions

* `RunError`: Why a run fails.
* `Conclusion`: How a command line ends.
* `Arguments.targets`: The targets of a run.
* `Target.generate`: The modules of one target.
* `Arguments.run`, `Request.perform`: A run, and a command line.
-/

namespace RouteTypes

/-- Why a run fails. -/
inductive RunError where
  | unreadableConfig (path : String) (error : FileError)
  | invalidConfig (path : String)
  | unresolved (error : TargetError)
  | unreadableDocument (path : String) (error : FileError)
  | invalidDocument (path : String) (error : ReadError)
  | uncompiled (path : String) (error : CompileError)
  | directoryNotCreated (path : String) (error : FileError)
  | fileNotWritten (path : String) (error : FileError)
  deriving DecidableEq, Repr

/-- The error in words. -/
def RunError.message : RunError → String
  | unreadableConfig path error => "Failed to read config file " ++ path ++ ": " ++ error.message
  | invalidConfig path => "Failed to parse config file " ++ path
  | unresolved error => error.message
  | unreadableDocument path error => "Failed to read " ++ path ++ ": " ++ error.message
  | invalidDocument path error => path ++ ": " ++ error.message
  | uncompiled path error => "Failed to compile " ++ path ++ ": " ++ error.message
  | directoryNotCreated path error =>
    "Failed to create directory " ++ path ++ ": " ++ error.message
  | fileNotWritten path error => "Failed to write " ++ path ++ ": " ++ error.message

/-- How a command line ends. -/
inductive Conclusion where
  | done
  | failed (error : RunError)
  | help
  | version
  | misuse
  deriving DecidableEq, Repr

/-- The exit code of the program. -/
def Conclusion.code : Conclusion → Nat
  | done | help | version => 0
  | failed _ => 1
  | misuse => 2

/-- The configuration that is read when none is named. -/
def defaultConfig : String := "pathtypes.toml"

variable {m : Type → Type} [Monad m]

namespace Host

/-- Go on with the value of a computation, after its events are reported. -/
def follow {ω ε α : Type} (host : Host m) (event : ω → RunEvent) (error : ε → RunError)
    (computation : Logged ω ε α) : ExceptT RunError m α := do
  computation.events.forM fun reported => (host.report (event reported) : m Unit)
  match computation.outcome with
  | .ok value => return value
  | .error failure => throw (error failure)

/-- Go on with the answer of an action on a file. -/
def demand {α : Type} (error : FileError → RunError) (action : m (Except FileError α)) :
    ExceptT RunError m α := do
  match ← (action : m (Except FileError α)) with
  | .ok value => return value
  | .error failure => throw (error failure)

/-- Write a module, in a directory that is created as far as it is missing. -/
def writeModule (host : Host m) (file : PlannedFile) : ExceptT RunError m Unit := do
  if let some directory := Path.parent? file.path then
    demand (.directoryNotCreated directory) (host.createDirectories directory)
  demand (.fileNotWritten file.path) (host.writeText file.path file.text)
  host.report (.moduleWritten file.path file.text.utf8ByteSize)

end Host

/-- Read, decode and compile the document of a target. -/
def Target.compile (target : Target) (host : Host m) : ExceptT RunError m Compilation := do
  let path := target.inputFile
  let text ← Host.demand (.unreadableDocument path) (host.readText path)
  host.report (.documentRead path target.format text.utf8ByteSize)
  let document ← host.follow .doubt (.invalidDocument path) (Document.read target.format text)
  host.follow .compiling (.uncompiled path) (document.compile target.options)

/-- Generate the modules of a target. -/
def Target.generate (target : Target) (host : Host m) : ExceptT RunError m Unit := do
  host.report (.started target)
  let compilation ← target.compile host
  -- From here on files are written; no error but one of the system can follow.
  let files := compilation.plan target.outputDirectory
  files.forM host.writeModule
  host.report (.finished target files.length compilation.baseUrl)

namespace Arguments

/-- The targets that a run is asked for: one document, or those of a configuration. -/
def targets (a : Arguments) (host : Host m) : ExceptT RunError m (List Target) := do
  match a.inputFile with
  | some inputFile =>
    match resolveTargets [{ inputFile }] "" a.overrides with
    | .ok targets => return targets
    | .error error => throw (.unresolved error)
  | none =>
    let path := a.config.getD defaultConfig
    let text ← Host.demand (.unreadableConfig path) (host.readText path)
    match entriesOfToml text with
    | none => throw (.invalidConfig path)
    | some entries =>
      -- Paths of a configuration are seen from the directory that holds it.
      match resolveTargets entries ((Path.parent? path).getD "") a.overrides with
      | .ok targets => return targets
      | .error error => throw (.unresolved error)

/-- Generate the modules of all targets. -/
def run (a : Arguments) (host : Host m) : ExceptT RunError m Unit := do
  let targets ← a.targets host
  targets.forM (·.generate host)

end Arguments

/-- Do what a command line asks for. -/
def Request.perform (request : Request) (host : Host m) : m Conclusion := do
  match request with
  | .showHelp => return .help
  | .showVersion => return .version
  | .misuse => return .misuse
  | .run a =>
    match ← (a.run host).run with
    | .ok () => return .done
    | .error error => return .failed error

end RouteTypes
