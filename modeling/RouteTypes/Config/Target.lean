import RouteTypes.Document.Read
import RouteTypes.Files.Path
import RouteTypes.Text.Identifier
import RouteTypes.Typing.Basic

/-!
# Targets

What a run generates: which document, where to, and with which choices.

A configuration lists entries in which most settings can be left out. Settings of the
caller win over those of an entry, and what neither gives has a default. Paths of an
entry are seen from the directory of the configuration, the caller's are not.

## Main definitions

* `TargetEntry`: The settings of an entry.
* `Overrides`: The settings of the caller.
* `Target`: All settings of a target.
* `TargetEntry.resolve`: The target of an entry.
* `resolveTargets`: The targets of a configuration.
-/

namespace RouteTypes

/-- The settings of one entry of a configuration. -/
structure TargetEntry where
  inputFile : String
  outputDirectory : Option String := none
  yaml : Option Bool := none
  keepDates : Option Bool := none
  space : Option String := none
  deriving DecidableEq, Repr

/-- The settings given by the caller. -/
structure Overrides where
  outputDirectory : Option String := none
  yaml : Bool := false
  keepDates : Bool := false
  space : Option String := none
  deriving DecidableEq, Repr

/-- All settings of a target. -/
structure Target where
  inputFile : String
  outputDirectory : String
  format : Format
  options : Options
  deriving DecidableEq, Repr

/-- Why a configuration gives no targets. -/
inductive TargetError where
  | noTargets
  | invalidSpace (name : String)
  deriving DecidableEq, Repr

/-- The error in words. -/
def TargetError.message : TargetError → String
  | noTargets => "No [[openapi]] targets configured"
  | invalidSpace name =>
    "Invalid types namespace '" ++ name ++ "': expected a TypeScript identifier"

/-- The output directory of entries that name none. -/
def defaultOutputDirectory : String := "api"

/-- The namespace of entries that name none. -/
def defaultSpace : String := "Types"

/-- Whether a file is a JSON text, by the end of its path. -/
def isJsonPath (path : String) : Bool :=
  ".json".toList.isSuffixOf path.toList

namespace TargetEntry

/-- The namespace of an entry. An empty name counts as none. -/
def effectiveSpace (entry : TargetEntry) (overrides : Overrides) : String :=
  match overrides.space <|> entry.space with
  | none => defaultSpace
  | some name => if name.isEmpty then defaultSpace else name

/-- The output directory of an entry. -/
def effectiveOutput (entry : TargetEntry) (base : String) (overrides : Overrides) : String :=
  match overrides.outputDirectory with
  | some directory => directory
  | none => Path.join base (entry.outputDirectory.getD defaultOutputDirectory)

/-- The format of the document of an entry. -/
def effectiveFormat (entry : TargetEntry) (overrides : Overrides) : Format :=
  if overrides.yaml || entry.yaml.getD (!isJsonPath entry.inputFile) then .yaml else .json

/-- The target of an entry. -/
def resolve (entry : TargetEntry) (base : String) (overrides : Overrides) :
    Except TargetError Target :=
  let space := entry.effectiveSpace overrides
  if Text.IsIdentifier space.toList then
    .ok {
      inputFile := Path.join base entry.inputFile
      outputDirectory := entry.effectiveOutput base overrides
      format := entry.effectiveFormat overrides
      options := { keepDates := overrides.keepDates || entry.keepDates.getD false, space } }
  else .error (.invalidSpace space)

end TargetEntry

/-- The targets of a configuration, in the order of its entries. -/
def resolveTargets (entries : List TargetEntry) (base : String) (overrides : Overrides) :
    Except TargetError (List Target) :=
  if entries.isEmpty then .error .noTargets
  else entries.mapM (·.resolve base overrides)

end RouteTypes
