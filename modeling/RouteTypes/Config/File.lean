import RouteTypes.Config.Target
import RouteTypes.Toml.Value

/-!
# Configuration Files

The entries that the text of a configuration lists.

Every setting has a name of its own and a type, and nothing else may occur. An entry can
also be written as a list of its settings in their order; what follows them in the list
does not count.

## Main definitions

* `TargetEntry.ofToml`: The entry that a value describes.
* `entriesOfToml`: The entries in a text.
-/

namespace RouteTypes

namespace TomlValue

/-- The text of a value that is one. -/
def text? : TomlValue → Option String
  | string text => some text
  | _ => none

/-- The truth value of a value that is one. -/
def boolean? : TomlValue → Option Bool
  | boolean value => some value
  | _ => none

/-- The elements of an array. -/
def array? : TomlValue → Option (List TomlValue)
  | array items => some items
  | _ => none

end TomlValue

/-- A setting that may be left out. -/
def optionalSetting? {α : Type} (read : TomlValue → Option α) (name : String)
    (entries : List (String × TomlValue)) : Option (Option α) :=
  match entries.lookup name with
  | none => some none
  | some value => (read value).map some

namespace TargetEntry

/-- The names of the settings, in the order of a list. -/
def settingNames : List String :=
  ["input-file", "output-dir", "yaml", "keep-date-object", "types-namespace"]

/-- The entry that named settings describe. -/
def ofSettings (entries : List (String × TomlValue)) : Option TargetEntry := do
  if !(entries.all fun entry => settingNames.contains entry.1) then none
  pure {
    inputFile := ← (← entries.lookup "input-file").text?
    outputDirectory := ← optionalSetting? (·.text?) "output-dir" entries
    yaml := ← optionalSetting? (·.boolean?) "yaml" entries
    keepDates := ← optionalSetting? (·.boolean?) "keep-date-object" entries
    space := ← optionalSetting? (·.text?) "types-namespace" entries }

/-- The entry that a value describes. -/
def ofToml : TomlValue → Option TargetEntry
  | .table entries => ofSettings entries
  | .array items =>
    if items.length < settingNames.length then none else ofSettings (settingNames.zip items)
  | _ => none

end TargetEntry

/-- The entries of a configuration. -/
def entriesOfSettings (settings : List (String × TomlValue)) : Option (List TargetEntry) :=
  match settings with
  | [] => some []
  | [("openapi", value)] => do (← value.array?).mapM TargetEntry.ofToml
  | _ => none

/-- The entries in the text of a configuration. -/
def entriesOfToml (text : String) : Option (List TargetEntry) := do
  entriesOfSettings (← Toml.read text)

end RouteTypes
