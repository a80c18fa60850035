import RouteTypes.Document.Schema
import RouteTypes.Text.Identifier

/-!
# Path Segments

The directory that belongs to a URL template.

Each part of the template names one directory. Characters that could mean
something to a file system or a module loader become `_`, and so do the dots of a
part that has nothing else, which would name this directory or the one above. A
part in braces is a parameter; its directory also says of which kind the parameter
is, so that two parameters of one name and different kinds do not share it. Empty
parts name no directory, and the file of every template is called `index`.

## Main definitions

* `Segment.sanitize`: A part without unsafe characters.
* `Segment.ofPart`: The directory of a part.
* `routeSegments`: The directory of a template.
-/

namespace RouteTypes

/-- The parameters of a path with their kinds, as far as they have one. -/
abbrev PathParameters := List (String × Option Kind)

namespace Segment

/-- A character that is safe in the name of a file or module. -/
def isSafe (c : Char) : Bool :=
  c.isAlphanum || ['_', '-', '.', '@', '$', '~'].contains c

/-- A part in which every unsafe character is `_`, and every character if the part
    is dots only. -/
def sanitize (part : List Char) : List Char :=
  if part.all (· = '.') then part.map fun _ => '_'
  else part.map fun c => if isSafe c then c else '_'

/-- The name inside the braces of a part. -/
def parameterName? : List Char → Option (List Char)
  | '{' :: rest => if rest.getLast? = some '}' then some rest.dropLast else none
  | _ => none

/-- The word for the kind of a parameter. -/
def kindWord : Option Kind → String
  | some .integer | some .number => "number"
  | some .boolean => "boolean"
  | _ => "string"

/-- The kind of a parameter, by the first declaration of its name. -/
def declaredKind (declared : PathParameters) (name : String) : Option Kind :=
  (declared.lookup name).join

/-- The directory of a part. -/
def ofPart (declared : PathParameters) (part : List Char) : List Char :=
  match parameterName? part with
  | none => sanitize part
  | some name =>
    '_' :: sanitize name ++ '@' :: (kindWord (declaredKind declared (String.ofList name))).toList

/-- The name of the file in the directory of a template, without its extension. -/
def leaf : String := "index"

end Segment

/-- The template without one slash at its end. -/
def dropFinalSlash (template : List Char) : List Char :=
  if template.getLast? = some '/' then template.dropLast else template

/-- The parts of a template that name directories: what stands between its slashes
    after the first, as far as it is not empty. -/
def routeParts (template : String) : List (List Char) :=
  (((dropFinalSlash template.toList).splitOn '/').drop 1).filter (!·.isEmpty)

/-- The directory of a template, with the name of the file in it. -/
def routeSegments (template : String) (declared : PathParameters) : List String :=
  (routeParts template).map (fun part => String.ofList (Segment.ofPart declared part)) ++
    [Segment.leaf]

end RouteTypes
