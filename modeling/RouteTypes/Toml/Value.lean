import RouteTypes.Toml.Scalar

/-!
# TOML Values

Tables of settings in TOML.

A configuration lists its tables one after another, each with settings that have a
simple name. Nothing else can be part of one: names of several parts and tables with a
place of their own make a table inside another one, which no configuration has. The
reader refuses them.

## Main definitions

* `TomlValue`: A value.
* `Toml.readValue`: The value at the start of a text.
* `Toml.read`: A whole text.
-/

namespace RouteTypes

/-- A value in TOML. -/
inductive TomlValue where
  | string (text : String)
  | boolean (value : Bool)
  /-- A number or a point in time. -/
  | other
  | array (items : List TomlValue)
  | table (entries : List (String × TomlValue))

namespace Toml

/-- A character of a name without quotes. -/
def isNameChar (c : Char) : Bool :=
  c.isAlphanum || c = '_' || c = '-'

/-- A simple name, with or without quotes. -/
def readName (cs : List Char) : Option (String × List Char) :=
  let name := cs.takeWhile isNameChar
  if name.isEmpty then readOneLine cs
  else some (String.ofList name, cs.drop name.length)

/-- A character of a number, a time or a truth value. -/
def isWordChar (c : Char) : Bool :=
  isNameChar c || c = '+' || c = '.' || c = ':'

/-- The word at the start of a text. A date and a time may have a space between. -/
def takeWord (cs : List Char) : List Char × List Char :=
  let word := cs.takeWhile isWordChar
  let rest := cs.dropWhile isWordChar
  match rest with
  | ' ' :: d :: more =>
    if isDate word && d.isDigit then
      (word ++ ' ' :: (d :: more).takeWhile isWordChar, (d :: more).dropWhile isWordChar)
    else (word, rest)
  | _ => (word, rest)

/-- What a word stands for. -/
def wordValue? (word : List Char) : Option TomlValue :=
  if word = ['t', 'r', 'u', 'e'] then some (.boolean true)
  else if word = ['f', 'a', 'l', 's', 'e'] then some (.boolean false)
  else if isNumber word || isMoment word then some .other
  else none

/-- The text after the comment at its start, if there is one. -/
def dropComment : List Char → List Char
  | '#' :: rest => rest.dropWhile isPrintable
  | cs => cs

/-- The text after blanks, comments and line breaks. Every step takes a line. -/
def dropSpace : Nat → List Char → List Char
  | 0, cs => cs
  | n + 1, cs =>
    let rest := dropComment (dropBlanks cs)
    match dropBreak? rest with
    | some rest => dropSpace n rest
    | none => rest

/-- The entries with one more, unless its name is among them. -/
def addEntry (entries : List (String × TomlValue)) (name : String) (value : TomlValue) :
    Option (List (String × TomlValue)) :=
  if (entries.map Prod.fst).contains name then none else some (entries ++ [(name, value)])

/-- The text after an equals sign. -/
def dropEquals? (cs : List Char) : Option (List Char) :=
  match dropBlanks cs with
  | '=' :: rest => some (dropBlanks rest)
  | _ => none

mutual

/-- The value at the start of a text. Every second step takes a character. -/
def readValue : Nat → List Char → Option (TomlValue × List Char)
  | 0, _ => none
  | n + 1, cs =>
    match cs with
    | '[' :: rest => (readItems n rest).map fun (items, rest) => (.array items, rest)
    | '{' :: rest =>
      match dropBlanks rest with
      | '}' :: rest => some (.table [], rest)
      | rest => (readEntries n [] rest).map fun (entries, rest) => (.table entries, rest)
    | c :: rest =>
      if c = '"' || c = '\'' then
        (readString (c :: rest)).map fun (text, rest) => (.string text, rest)
      else
        let (word, rest) := takeWord (c :: rest)
        (wordValue? word).map fun value => (value, rest)
    | [] => none

/-- The elements of an array up to its end. A comma may follow the last one. -/
def readItems : Nat → List Char → Option (List TomlValue × List Char)
  | 0, _ => none
  | n + 1, cs =>
    match dropSpace (cs.length + 1) cs with
    | ']' :: rest => some ([], rest)
    | cs =>
      match readValue n cs with
      | none => none
      | some (item, rest) =>
        match dropSpace (rest.length + 1) rest with
        | ']' :: rest => some ([item], rest)
        | ',' :: rest => (readItems n rest).map fun (items, rest) => (item :: items, rest)
        | _ => none

/-- The entries of a table in braces, up to its end. -/
def readEntries : Nat → List (String × TomlValue) → List Char →
    Option (List (String × TomlValue) × List Char)
  | 0, _, _ => none
  | n + 1, entries, cs =>
    match readName (dropBlanks cs) with
    | none => none
    | some (name, rest) =>
      match dropEquals? rest with
      | none => none
      | some rest =>
        match readValue n rest with
        | none => none
        | some (value, rest) =>
          match addEntry entries name value, dropBlanks rest with
          | some entries, '}' :: rest => some (entries, rest)
          | some entries, ',' :: rest => readEntries n entries rest
          | _, _ => none

end

/-- The text after the rest of a line, which holds nothing but a comment. -/
def endLine? (cs : List Char) : Option (List Char) :=
  let rest := dropComment (dropBlanks cs)
  if rest.isEmpty then some [] else dropBreak? rest

/-- A line that opens the next table of a list: its name, and what follows. -/
def readHeader : List Char → Option (String × List Char)
  | '[' :: '[' :: cs => do
    let (name, rest) ← readName (dropBlanks cs)
    match dropBlanks rest with
    | ']' :: ']' :: rest => do
      let rest ← endLine? rest
      pure (name, rest)
    | _ => none
  | _ => none

/-- A line with a setting: its name and value, and what follows. -/
def readSetting (cs : List Char) : Option ((String × TomlValue) × List Char) := do
  let (name, rest) ← readName cs
  let rest ← dropEquals? rest
  let (value, rest) ← readValue (2 * rest.length + 2) rest
  let rest ← endLine? rest
  pure ((name, value), rest)

/-- A text up to some line: the settings before any table, and the tables with the
    names of their lists. -/
structure Sections where
  top : List (String × TomlValue) := []
  tables : List (String × List (String × TomlValue)) := []

namespace Sections

/-- One more setting, in the last table if there is one. -/
def addSetting (s : Sections) (name : String) (value : TomlValue) : Option Sections :=
  match s.tables.getLast? with
  | none => (addEntry s.top name value).map fun top => { s with top }
  | some (list, entries) => (addEntry entries name value).map fun entries =>
    { s with tables := s.tables.dropLast ++ [(list, entries)] }

/-- One more table. Its list cannot also be a setting. -/
def addTable (s : Sections) (list : String) : Option Sections :=
  if (s.top.map Prod.fst).contains list then none
  else some { s with tables := s.tables ++ [(list, [])] }

/-- The tables of a list. -/
def tablesOf (s : Sections) (list : String) : List TomlValue :=
  (s.tables.filter (·.1 = list)).map (.table ·.2)

/-- The whole table of a text. -/
def entries (s : Sections) : List (String × TomlValue) :=
  s.top ++ (s.tables.map Prod.fst).eraseDups.map fun list => (list, .array (s.tablesOf list))

end Sections

/-- Reads the lines of a text. Every step takes a line. -/
def readSections : Nat → Sections → List Char → Option Sections
  | 0, s, _ => some s
  | n + 1, s, cs =>
    match dropSpace (cs.length + 1) cs with
    | [] => some s
    | '[' :: rest => do
      let (list, rest) ← readHeader ('[' :: rest)
      readSections n (← s.addTable list) rest
    | rest => do
      let ((name, value), rest) ← readSetting rest
      readSections n (← s.addSetting name value) rest

/-- The table of a whole text. A mark of the encoding may stand at its start. -/
def read (text : String) : Option (List (String × TomlValue)) :=
  let cs := match text.toList with
    | '\ufeff' :: rest => rest
    | cs => cs
  (readSections (cs.length + 1) {} cs).map (·.entries)

end Toml

end RouteTypes
