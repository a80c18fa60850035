import RouteTypes.Compile
import RouteTypes.Files.Path

/-!
# Output Plans

Which files a compilation is written to.

## Main definitions

* `PlannedFile`: A path and what is written there.
* `Compilation.plan`: The files of a compilation, in the order of writing.
-/

namespace RouteTypes

/-- A file to be written. -/
structure PlannedFile where
  path : String
  text : String
  deriving DecidableEq, Repr

/-- The extension of every module. -/
def moduleExtension : String := ".ts"

/-- The path of the module with the shared declarations. -/
def typesPath (directory : String) : String :=
  Path.join (Path.join directory typesDirectory) (Segment.leaf ++ moduleExtension)

/-- The path of the module of a path. -/
def PathFile.path (file : PathFile) (directory : String) : String :=
  file.segments.foldl Path.join directory ++ moduleExtension

/-- The files of a compilation below an output directory. The shared declarations
    come first. -/
def Compilation.plan (c : Compilation) (directory : String) : List PlannedFile :=
  (c.types.map fun text => { path := typesPath directory, text }).toList ++
    c.files.map fun file => { path := file.path directory, text := file.methods }

end RouteTypes
