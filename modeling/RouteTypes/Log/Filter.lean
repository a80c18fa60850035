import RouteTypes.Log.Event
import RouteTypes.Text.Blank

/-!
# Log Filters

Which events of a run are shown.

A filter is a list of directives, each with a level and perhaps the beginning of the
names of the parts it is about. For an event, the directive with the longest beginning
counts, and of equal ones the last. A text that is only the name of a level stands for a
directive for each part of the program.

## Main definitions

* `Directive`: One directive.
* `LogFilter.ofSetting`: The filter that a setting asks for.
* `LogFilter.shows`: Whether an event is shown.
* `initializationWarnings`: What repeated set-up of the log says.
-/

namespace RouteTypes

/-- The rank of the least important level that is shown, or zero for nothing. -/
abbrev Verbosity := Nat

/-- A directive of a filter. -/
structure Directive where
  beginning : Option String := none
  verbosity : Verbosity
  deriving DecidableEq, Repr

/-- A filter of events. -/
abbrev LogFilter := List Directive

/-- A text in lower case, of which only the letters without marks count. -/
def lowerAscii (cs : List Char) : List Char :=
  cs.map Char.toLower

/-- The level with a name, in any case. -/
def Level.ofName? (name : List Char) : Option Level :=
  Level.all.find? fun level => lowerAscii level.name.toList = lowerAscii name

/-- The verbosity that a word in a directive stands for. -/
def verbosity? (word : List Char) : Option Verbosity :=
  match Level.ofName? word with
  | some level => some level.rank
  | none =>
    if lowerAscii word = ['o', 'f', 'f'] then some 0
    else if word.all Char.isDigit then
      (String.ofList word).toNat?.filter (· ≤ Level.trace.rank)
    else none

namespace Directive

/-- A directive in a filter. Without a level everything is shown. -/
def ofText? (text : List Char) : Option Directive :=
  let text := Text.trim text
  let name := text.takeWhile (· ≠ '=')
  let level := text.drop (name.length + 1)
  let isNamePart (c : Char) : Bool := c.isAlphanum || c = '-' || c = ':' || c = '_'
  if name.isEmpty || !name.all isNamePart then none
  else if name.length < text.length then
    if level.isEmpty then
      some { beginning := some (String.ofList name), verbosity := Level.trace.rank }
    else
      (verbosity? level).map fun verbosity => { beginning := some (String.ofList name), verbosity }
  else match verbosity? name with
    | some verbosity => some { verbosity }
    | none => some { beginning := some (String.ofList name), verbosity := Level.trace.rank }

/-- Whether a directive is about a part. -/
def isAbout (d : Directive) (part : Part) : Bool :=
  d.beginning.all fun beginning => beginning.toList.isPrefixOf part.name.toList

/-- How much of a name a directive gives. -/
def length (d : Directive) : Nat :=
  match d.beginning with
  | some beginning => beginning.length + 1
  | none => 0

end Directive

namespace LogFilter

/-- The filter that shows events of both parts up to a level. -/
def upTo (level : Level) : LogFilter :=
  [.commandLine, .compiler].map fun (part : Part) =>
    { beginning := some part.name, verbosity := level.rank }

/-- The filter that directives make. Without any, only errors are shown. -/
def ofDirectives (directives : List Directive) : LogFilter :=
  if directives.isEmpty then [{ verbosity := Level.error.rank }] else directives

/-- The filter that a setting asks for. Without a setting, everything up to `info` is
    shown. -/
def ofSetting : Option String → LogFilter
  | none => upTo .info
  | some text =>
    match Level.ofName? text.toList with
    | some level => upTo level
    | none =>
      ofDirectives ((((text.toList.splitOn ',').filter (!·.isEmpty))).filterMap Directive.ofText?)

/-- The directive that counts for a part. -/
def directiveFor? (filter : LogFilter) (part : Part) : Option Directive :=
  (filter.filter (·.isAbout part)).foldl
    (fun best d => match best with
      -- A later directive wins over an earlier one of the same length.
      | some b => if d.length ≥ b.length then some d else some b
      | none => some d)
    none

/-- Whether an event is shown. -/
def shows (filter : LogFilter) (event : RunEvent) : Bool :=
  (filter.directiveFor? event.part).any (event.level.rank ≤ ·.verbosity)

end LogFilter

/-- What is said when the log is set up a number of times: every time but the first has
    no effect. -/
def initializationWarnings (times : Nat) : String :=
  String.join (List.replicate (times - 1) "Warning: tracing subscriber already initialized\n")

end RouteTypes
