/-!
# Cursors

A place in a YAML text.

Columns and lines decide what YAML text means, so reading keeps count of them. A
line break is one of five characters, or a carriage return with a line feed.

## Main definitions

* `Cursor`: The text that is left, and where it starts.
* `Cursor.next`, `Cursor.nextLine`: The place after a character or a line break.
* `Cursor.takeWhile`: The characters up to a place, and the place.
-/

namespace RouteTypes

namespace Yaml

/-- A space or a tab. -/
def isBlank (c : Char) : Bool :=
  c = ' ' || c = '\t'

/-- A character that ends a line. -/
def isBreak (c : Char) : Bool :=
  ['\n', '\r', '\x85', '\u2028', '\u2029'].contains c

/-- The end of the text, or a character that separates words. -/
def isBlankOrEnd : Option Char → Bool
  | none => true
  | some c => isBlank c || isBreak c

/-- A character of a name. -/
def isNameChar (c : Char) : Bool :=
  c.isAlphanum || c = '_' || c = '-'

/-- A place in a text: what is left of it, and how many characters, lines and
    columns come before. `size` is the number of characters of the whole text. -/
structure Cursor where
  rest : List Char
  size : Nat
  index : Nat := 0
  line : Nat := 0
  column : Nat := 0

namespace Cursor

/-- The first place in a text. -/
def ofText (text : String) : Cursor :=
  let rest := text.toList
  { rest, size := rest.length }

/-- More steps than there are characters left. -/
def steps (c : Cursor) : Nat :=
  c.size + 1 - c.index

/-- The character at the place. -/
def head? (c : Cursor) : Option Char :=
  c.rest.head?

/-- The character some way after the place. -/
def get? (c : Cursor) (offset : Nat) : Option Char :=
  c.rest[offset]?

/-- Whether a word stands at the place. -/
def at? (c : Cursor) (word : List Char) : Bool :=
  word.isPrefixOf c.rest

/-- Whether one of some characters stands at the place. -/
def atAny (c : Cursor) (chars : List Char) : Bool :=
  c.head?.any chars.contains

/-- The place after one character. -/
def next (c : Cursor) : Cursor :=
  match c.rest with
  | [] => c
  | _ :: rest => { c with rest, index := c.index + 1, column := c.column + 1 }

/-- The place after some characters. -/
def skip (c : Cursor) : Nat → Cursor
  | 0 => c
  | n + 1 => c.next.skip n

/-- The line break at the place as it is kept, and the place after it. All breaks
    are kept as line feeds, except for the separators of lines and paragraphs. -/
def nextLine (c : Cursor) : List Char × Cursor :=
  match c.rest with
  | '\r' :: '\n' :: rest => (['\n'], { c with rest, index := c.index + 2, line := c.line + 1, column := 0 })
  | b :: rest =>
    if isBreak b then
      ([if b = '\u2028' || b = '\u2029' then b else '\n'],
        { c with rest, index := c.index + 1, line := c.line + 1, column := 0 })
    else ([], c)
  | [] => ([], c)

/-- The characters from the place on that pass a test, and the place after them. -/
def takeWhile (p : Char → Bool) (c : Cursor) : List Char × Cursor :=
  let taken := c.rest.takeWhile p
  (taken, c.skip taken.length)

/-- The place after the characters that pass a test. -/
def dropWhile (p : Char → Bool) (c : Cursor) : Cursor :=
  (c.takeWhile p).2

/-- The place before the next line break. -/
def endOfLine (c : Cursor) : Cursor :=
  c.dropWhile (!isBreak ·)

/-- The place after blanks and a comment, which have to be all that is left of the
    line, and after its break. -/
def restOfLine? (c : Cursor) : Option Cursor :=
  let c := c.dropWhile isBlank
  let c := if c.atAny ['#'] then c.endOfLine else c
  match c.head? with
  | none => some c
  | some b => if isBreak b then some c.nextLine.2 else none

/-- Whether a line starts with the mark between two documents, or with the one after
    a document. -/
def atDocumentMark (c : Cursor) (mark : Char) : Bool :=
  c.column = 0 && c.at? [mark, mark, mark] && isBlankOrEnd (c.get? 3)

/-- Whether a line starts with either mark. -/
def atAnyDocumentMark (c : Cursor) : Bool :=
  c.atDocumentMark '-' || c.atDocumentMark '.'

end Cursor

end Yaml

end RouteTypes
