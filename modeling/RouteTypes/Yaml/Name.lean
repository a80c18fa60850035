import RouteTypes.Text.Hexadecimal
import RouteTypes.Yaml.Cursor

/-!
# Names in YAML

Anchors, tags and directives.

A tag is written with a handle and a suffix. The handle stands for the beginning of
the tag, which the document can declare in a directive.

## Main definitions

* `readAnchor`: The name of an anchor or alias.
* `Tag`: A tag as it is written.
* `readTag`: A tag.
* `Directive`, `readDirective`: A line that declares something.
-/

namespace RouteTypes

namespace Yaml

/-- The characters that may follow the name of an anchor besides blanks. -/
def anchorEnds : List Char := ['?', ':', ',', ']', '}', '%', '@', '\x60']

/-- The name of an anchor, starting at its indicator, and the place after it. -/
def readAnchor (c : Cursor) : Option (List Char × Cursor) :=
  let (name, c) := c.next.takeWhile isNameChar
  if name.isEmpty || !(isBlankOrEnd c.head? || c.atAny anchorEnds) then none
  else some (name, c)

/-- A tag as it is written. -/
structure Tag where
  handle : List Char
  suffix : List Char
  deriving DecidableEq, Repr

/-- The characters of a tag besides those of names. -/
def tagChars : List Char :=
  [';', '/', '?', ':', '@', '&', '=', '+', '$', '.', '%', '!', '~', '*', '\'', '(', ')']

/-- The characters of a tag that is written in full. -/
def fullTagChars : List Char :=
  tagChars ++ [',', '[', ']']

/-- The value of a byte that is escaped in a tag. -/
def escapedByte? (c : Cursor) : Option Nat :=
  if c.atAny ['%'] then
    let digits := (c.rest.drop 1).take 2
    if digits.length = 2 then Text.hexNumber? digits else none
  else none

/-- The number of bytes of a character, by the first one, and what the first one
    adds to its code. -/
def leadingByte? (byte : Nat) : Option (Nat × Nat) :=
  if byte < 0x80 then some (1, byte)
  else if 0xC0 ≤ byte && byte < 0xE0 then some (2, byte - 0xC0)
  else if 0xE0 ≤ byte && byte < 0xF0 then some (3, byte - 0xE0)
  else if 0xF0 ≤ byte && byte < 0xF8 then some (4, byte - 0xF0)
  else none

/-- The code of an escaped character after its first bytes, and the place after it. -/
def readTrailingBytes : Nat → Nat → Cursor → Option (Nat × Cursor)
  | 0, code, c => some (code, c)
  | n + 1, code, c => do
    let byte ← escapedByte? c
    if 0x80 ≤ byte && byte < 0xC0 then readTrailingBytes n (code * 64 + (byte - 0x80)) (c.skip 3)
    else none

/-- An escaped character and the place after it. -/
def readEscapedChar (c : Cursor) : Option (Char × Cursor) := do
  let byte ← escapedByte? c
  let (width, code) ← leadingByte? byte
  let (code, c) ← readTrailingBytes (width - 1) code (c.skip 3)
  pure ((Text.character? code).getD '\ufffd', c)

/-- The characters of a tag from a place on, and the place after them. -/
def readTagChars (allowed : List Char) : Nat → Cursor → Option (List Char × Cursor)
  | 0, c => some ([], c)
  | n + 1, c =>
    if c.atAny ['%'] then do
      let (char, c) ← readEscapedChar c
      let (chars, c) ← readTagChars allowed n c
      pure (char :: chars, c)
    else match c.head? with
      | none => some ([], c)
      | some char =>
        if isNameChar char || allowed.contains char then do
          let (chars, c) ← readTagChars allowed n c.next
          pure (char :: chars, c)
        else some ([], c)

/-- The rest of a tag after a beginning. Together they must not be empty. -/
def readTagRest (allowed beginning : List Char) (c : Cursor) : Option (List Char × Cursor) := do
  let (chars, c) ← readTagChars allowed c.steps c
  if beginning.isEmpty && chars.isEmpty then none
  else pure (beginning.drop 1 ++ chars, c)

/-- The handle at a place, starting with its exclamation mark. It ends in another one
    unless it is the mark alone or no handle after all. -/
def readHandle (c : Cursor) : Option (List Char × Cursor) :=
  if c.atAny ['!'] then
    let (name, c) := c.next.takeWhile isNameChar
    if c.atAny ['!'] then some ('!' :: name ++ ['!'], c.next)
    else some ('!' :: name, c)
  else none

/-- Whether a text is a handle that ends in a mark of its own. -/
def isNamedHandle (handle : List Char) : Bool :=
  handle.length > 1 && handle.getLast? = some '!'

/-- A tag without the check of what follows it. -/
def readTagText (c : Cursor) : Option (Tag × Cursor) :=
  if c.get? 1 = some '<' then do
    let (suffix, c) ← readTagRest fullTagChars [] (c.skip 2)
    if c.atAny ['>'] then pure (⟨[], suffix⟩, c.next) else none
  else do
    let (handle, c) ← readHandle c
    if isNamedHandle handle then
      let (suffix, c) ← readTagRest tagChars [] c
      pure (⟨handle, suffix⟩, c)
    else
      let (suffix, c) ← readTagRest tagChars handle c
      pure (if suffix.isEmpty then ⟨[], ['!']⟩ else ⟨['!'], suffix⟩, c)

/-- A tag, and the place after it. Inside brackets a comma may follow it. -/
def readTag (flow : Bool) (c : Cursor) : Option (Tag × Cursor) := do
  let (tag, c) ← readTagText c
  if isBlankOrEnd c.head? || (flow && c.atAny [',']) then pure (tag, c) else none

/-- What a line that starts with a percent sign declares. -/
inductive Directive where
  | version (major minor : Nat)
  | tag (handle beginning : List Char)
  deriving DecidableEq, Repr

/-- One number of a version, and the place after it. -/
def readVersionNumber (c : Cursor) : Option (Nat × Cursor) :=
  let (digits, c) := c.takeWhile Char.isDigit
  if digits.isEmpty || digits.length > 9 then none
  else some
    (digits.foldl (fun n d => n * 10 + (d.toNat - '0'.toNat)) 0, c)

/-- The version of a directive, and the place after it. -/
def readVersion (c : Cursor) : Option (Directive × Cursor) := do
  let (major, c) ← readVersionNumber (c.dropWhile isBlank)
  if c.atAny ['.'] then
    let (minor, c) ← readVersionNumber c.next
    pure (.version major minor, c)
  else none

/-- The handle of a directive and what it stands for, and the place after it. -/
def readTagDirective (c : Cursor) : Option (Directive × Cursor) := do
  let (handle, c) ← readHandle (c.dropWhile isBlank)
  if handle.length > 1 && !isNamedHandle handle then none
  if !c.head?.any isBlank then none
  let (beginning, c) ← readTagRest fullTagChars [] (c.dropWhile isBlank)
  if isBlankOrEnd c.head? then pure (.tag handle beginning, c) else none

/-- A directive, starting at its percent sign, and the place after its line. -/
def readDirective (c : Cursor) : Option (Directive × Cursor) := do
  let (name, c) := c.next.takeWhile isNameChar
  if !isBlankOrEnd c.head? then none
  let (directive, c) ←
    if name = ['Y', 'A', 'M', 'L'] then readVersion c
    else if name = ['T', 'A', 'G'] then readTagDirective c
    else none
  let c ← c.restOfLine?
  pure (directive, c)

end Yaml

end RouteTypes
