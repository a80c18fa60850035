import RouteTypes.Json.Number
import RouteTypes.Json.String

/-!
# JSON Nodes

The tree of a JSON text, as far as the text can be read.

## Main definitions

* `Json.scalar`: The readings of a value without parts.
* `Json.readValue`: The value at the start of a text.
* `Json.read`: A whole text.
-/

namespace RouteTypes

namespace Json

/-- The characters that may stand between any two others. -/
def isSpace (c : Char) : Bool :=
  c = ' ' || c = '\n' || c = '\t' || c = '\r'

/-- The text from its first character on that is no space. -/
def dropSpace (cs : List Char) : List Char :=
  cs.dropWhile isSpace

/-- The readings of a value without parts. Only a string is a text and only null is
    absent. -/
def scalar (value : Except TextFault Atom) : Node :=
  .scalar {
    value := match value with
      | .ok a => .ok a
      | .error fault => .error (.text fault)
    text := match value with
      | .ok (.string text) => some text
      | _ => none
    flag := match value with
      | .ok (.boolean b) => some b
      | _ => none
    absent := match value with
      | .ok .null => .ok true
      | _ => .ok false }

/-- The scalar of a string. -/
def stringScalar (s : StringText) : Node :=
  scalar (s.text.map fun cs => .string (String.ofList cs))

/-- A part of a text that was read, and what follows it. Nothing follows a fault. -/
abbrev Read (α : Type) := α × Option (List Char)

/-- A value that cannot be read. -/
def brokenValue (fault : Fault) : Read Node :=
  (.broken fault, none)

/-- The rest of a word, or its fault. -/
def word : List Char → List Char → Except TextFault (List Char)
  | [], cs => .ok cs
  | _, [] => .error .endInValue
  | w :: ws, c :: cs => if w = c then word ws cs else .error .expectedWord

/-- A value that is written as a word, after its first letter. -/
def readWord (rest : List Char) (value : Atom) (cs : List Char) : Read Node :=
  match word rest cs with
  | .ok cs => (scalar (.ok value), some cs)
  | .error fault => brokenValue (.same fault)

/-- A string after its opening quote, as a value or key. -/
def readString (cs : List Char) : Read Node :=
  match StringText.read cs with
  | .ok s => (stringScalar s, some s.rest)
  | .error fault => brokenValue fault

/-- A number. -/
def readNumber (cs : List Char) : Read Node :=
  match NumberText.read cs with
  | .ok (t, rest) => (scalar t.value, some rest)
  | .error fault => brokenValue fault

/-- A list with its elements and its fault. -/
abbrev Items := List Node × Option Fault

/-- An object with its members and its ending. -/
abbrev Members := List (Node × Node) × Ending

mutual

/-- The value at the start of a text. Every step goes on with a shorter text, so as
    many steps as there are characters are enough. -/
def readValue : Nat → List Char → Read Node
  | 0, _ => brokenValue (.same .endInValue)
  | n + 1, cs =>
    match dropSpace cs with
    | [] => brokenValue (.same .endInValue)
    | 'n' :: cs => readWord ['u', 'l', 'l'] .null cs
    | 't' :: cs => readWord ['r', 'u', 'e'] (.boolean true) cs
    | 'f' :: cs => readWord ['a', 'l', 's', 'e'] (.boolean false) cs
    | '"' :: cs => readString cs
    | '[' :: cs =>
      let ((items, fault), rest) := readItems n true cs
      (.sequence false items fault, rest)
    | '{' :: cs =>
      let ((members, ending), rest) := readMembers n true cs
      (.mapping false members ending, rest)
    | c :: cs =>
      if c = '-' || c.isDigit then readNumber (c :: cs)
      else brokenValue (.same .expectedValue)

/-- The elements of a list up to its end. Before all but the first stands a comma. -/
def readItems : Nat → Bool → List Char → Read Items
  | 0, _, _ => (([], some (.same .endInList)), none)
  | n + 1, first, cs =>
    match dropSpace cs with
    | [] => (([], some (.same .endInList)), none)
    | ']' :: rest => (([], none), some rest)
    | c :: cs =>
      if first then readItem n (c :: cs)
      else if c = ',' then
        match dropSpace cs with
        | [] => (([], some (.same .endInValue)), none)
        -- Who wants a certain element sees the comma, who skips it sees no value.
        | ']' :: _ => (([], some ⟨.trailingComma, .expectedValue⟩), none)
        | cs => readItem n cs
      else (([], some (.same .expectedListEnd)), none)

/-- An element of a list and those that follow it. -/
def readItem : Nat → List Char → Read Items
  | 0, _ => (([], some (.same .endInList)), none)
  | n + 1, cs =>
    match readValue n cs with
    | (item, none) => (([item], none), none)
    | (item, some rest) =>
      let ((items, fault), rest) := readItems n false rest
      ((item :: items, fault), rest)

/-- The members of an object up to its end. Before all but the first stands a
    comma. -/
def readMembers : Nat → Bool → List Char → Read Members
  | 0, _, _ => (([], .beforeKey (.same .endInObject)), none)
  | n + 1, first, cs =>
    match dropSpace cs with
    | [] => (([], .beforeKey (.same .endInObject)), none)
    | '}' :: rest => (([], .closed), some rest)
    | '"' :: cs =>
      if first then readMember n cs
      else (([], .beforeKey (.same .expectedObjectEnd)), none)
    | c :: cs =>
      if first then (([], .beforeKey (.same .keyNotString)), none)
      else if c = ',' then
        match dropSpace cs with
        | [] => (([], .beforeKey ⟨.endInValue, .endInObject⟩), none)
        | '"' :: cs => readMember n cs
        -- Who wants a member sees the comma, who skips the object sees no key.
        | '}' :: _ => (([], .beforeKey ⟨.trailingComma, .keyNotString⟩), none)
        | _ => (([], .beforeKey (.same .keyNotString)), none)
      else (([], .beforeKey (.same .expectedObjectEnd)), none)

/-- A member of an object, after the opening quote of its key, and those that follow
    it. -/
def readMember : Nat → List Char → Read Members
  | 0, _ => (([], .beforeKey (.same .endInObject)), none)
  | n + 1, cs =>
    match readString cs with
    | (.broken fault, _) => (([], .beforeKey fault), none)
    | (key, none) => (([], .afterKey key (.same .endInObject)), none)
    | (key, some rest) =>
      match dropSpace rest with
      | [] => (([], .afterKey key (.same .endInObject)), none)
      | ':' :: rest =>
        match readValue n rest with
        | (value, none) => (([(key, value)], .closed), none)
        | (value, some rest) =>
          let ((members, ending), rest) := readMembers n false rest
          (((key, value) :: members, ending), rest)
      | _ => (([], .afterKey key (.same .expectedColon)), none)

end

/-- The number of containers that may be open at a time. -/
def greatestDepth : Nat := 127

/-- A whole text. Nothing but space may follow its value. -/
def read (text : String) : Reading :=
  let cs := text.toList
  let (root, rest) := readValue (3 * cs.length + 3) cs
  { root
    rest := match rest.map dropSpace with
      | none | some [] => none
      | some (_ :: _) => some .trailingCharacters
    depth := greatestDepth }

end Json

end RouteTypes
