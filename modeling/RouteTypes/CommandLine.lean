import RouteTypes.Config.Target

/-!
# Command Lines

What the words after the name of the program ask for.

The words are read from left to right. An option takes its value from the rest of its
word or from the next word, unless that looks like an option. Each option can be given
once, and there is nothing but options.

## Main definitions

* `Arguments`: What a run is asked for.
* `Request`: A run, a text to be shown, or misuse.
* `Request.ofWords`: The request of a command line.
-/

namespace RouteTypes

/-- What a run is asked for. -/
structure Arguments where
  config : Option String := none
  inputFile : Option String := none
  overrides : Overrides := {}
  deriving DecidableEq, Repr

/-- What a command line asks for. -/
inductive Request where
  | run (arguments : Arguments)
  | showHelp
  | showVersion
  | misuse
  deriving DecidableEq, Repr

/-- An option with a value. -/
inductive ValueOption where
  | config
  | inputFile
  | outputDirectory
  | space
  deriving DecidableEq, Repr

/-- An option without a value. -/
inductive Switch where
  | yaml
  | keepDates
  | help
  | version
  deriving DecidableEq, Repr

/-- An option. -/
inductive CommandOption where
  | valued (option : ValueOption)
  | switch (option : Switch)
  deriving DecidableEq, Repr

namespace CommandOption

/-- The option with a long name. -/
def ofName? : String → Option CommandOption
  | "config" => some (.valued .config)
  | "input-file" => some (.valued .inputFile)
  | "output-dir" => some (.valued .outputDirectory)
  | "types-namespace" => some (.valued .space)
  | "yaml" => some (.switch .yaml)
  | "keep-date-object" => some (.switch .keepDates)
  | "help" => some (.switch .help)
  | "version" => some (.switch .version)
  | _ => none

/-- The option with a letter. -/
def ofLetter? : Char → Option CommandOption
  | 'i' => some (.valued .inputFile)
  | 'o' => some (.valued .outputDirectory)
  | 'h' => some (.switch .help)
  | 'V' => some (.switch .version)
  | _ => none

end CommandOption

namespace Arguments

/-- The arguments with the value of an option, unless that has one already. Only the
    namespace may be empty. -/
def give (a : Arguments) (option : ValueOption) (value : String) : Option Arguments :=
  let o := a.overrides
  if value.isEmpty && option ≠ .space then none
  else match option with
    | .config => if a.config.isSome then none else some { a with config := some value }
    | .inputFile =>
      if a.inputFile.isSome then none else some { a with inputFile := some value }
    | .outputDirectory =>
      if o.outputDirectory.isSome then none
      else some { a with overrides := { o with outputDirectory := some value } }
    | .space =>
      if o.space.isSome then none
      else some { a with overrides := { o with space := some value } }

/-- What a switch makes of the arguments: more arguments, or another request. -/
def turn (a : Arguments) : Switch → Except Request Arguments
  | .yaml =>
    if a.overrides.yaml then .error .misuse
    else .ok { a with overrides := { a.overrides with yaml := true } }
  | .keepDates =>
    if a.overrides.keepDates then .error .misuse
    else .ok { a with overrides := { a.overrides with keepDates := true } }
  | .help => .error .showHelp
  | .version => .error .showVersion

end Arguments

/-- Whether a word looks like an option. A dash alone does not. -/
def looksLikeOption (word : List Char) : Bool :=
  word.head? = some '-' && word ≠ ['-']

/-- The name and the value of a word such as `--name=value`, after its dashes. -/
def splitName (word : List Char) : List Char × Option (List Char) :=
  let name := word.takeWhile (· ≠ '=')
  (name, if name.length < word.length then some (word.drop (name.length + 1)) else none)

/-- What one word of a command line does. -/
inductive WordEffect where
  /-- The arguments are these now. -/
  | goOn (arguments : Arguments)
  /-- The next word is the value of an option. -/
  | needsValue (arguments : Arguments) (option : ValueOption)
  /-- Nothing else is looked at. -/
  | done (request : Request)

/-- The effect of an option with a value. -/
def WordEffect.ofValue (a : Arguments) (option : ValueOption) (value : String) : WordEffect :=
  match a.give option value with
  | some a => .goOn a
  | none => .done .misuse

/-- The effect of a word with a long name, after its dashes. -/
def longEffect (a : Arguments) (word : List Char) : WordEffect :=
  let (name, value) := splitName word
  match CommandOption.ofName? (String.ofList name), value with
  | none, _ => .done .misuse
  | some (.valued option), none => .needsValue a option
  | some (.valued option), some value => .ofValue a option (String.ofList value)
  | some (.switch _), some _ => .done .misuse
  | some (.switch option), none =>
    match a.turn option with
    | .ok a => .goOn a
    | .error request => .done request

/-- The effect of a word with letters, after its dash. What follows the letter of an
    option with a value is the value, with or without an equals sign. -/
def lettersEffect (a : Arguments) : List Char → WordEffect
  | [] => .goOn a
  | letter :: rest =>
    match CommandOption.ofLetter? letter with
    | none => .done .misuse
    | some (.switch option) =>
      match a.turn option with
      | .ok a => lettersEffect a rest
      | .error request => .done request
    | some (.valued option) =>
      match rest with
      | [] => .needsValue a option
      | '=' :: value => .ofValue a option (String.ofList value)
      | value => .ofValue a option (String.ofList value)

/-- The effect of a word that is no value. -/
def wordEffect (a : Arguments) : List Char → WordEffect
  | '-' :: '-' :: word => longEffect a word
  | '-' :: c :: letters => lettersEffect a (c :: letters)
  | _ => .done .misuse

/-- Reads the words of a command line. Nothing may follow two dashes alone. -/
def readWords : Arguments → List String → Request
  | a, [] => .run a
  | a, word :: rest =>
    if word = "--" then (if rest.isEmpty then .run a else .misuse)
    else match wordEffect a word.toList with
      | .goOn a => readWords a rest
      | .done request => request
      | .needsValue a option =>
        match rest with
        | [] => .misuse
        | value :: rest =>
          -- A forgotten value is not taken from the next option.
          if looksLikeOption value.toList then .misuse
          else match a.give option value with
            | some a => readWords a rest
            | none => .misuse

/-- What a command line asks for. -/
def Request.ofWords (words : List String) : Request :=
  readWords {} words

end RouteTypes
