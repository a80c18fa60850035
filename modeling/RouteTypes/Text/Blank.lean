/-!
# Blank Characters and Lines

The blank characters of Unicode, trimming, and the lines of a text.

Blank means the property White_Space: the ASCII blanks including vertical tab
and form feed, the next-line control, the no-break space and the spaces of the
typographic blocks. A line ends with a line feed, and a carriage return right
before the line feed belongs to the line end.

## Main definitions

* `isBlank`: The blank characters.
* `trimStart`, `trimEnd`, `trim`: A text without the blanks at its ends.
* `lines`: The lines of a text without their ends.
-/

namespace RouteTypes

namespace Text

/-- The characters of the property White_Space. -/
def isBlank (c : Char) : Bool :=
  let code := c.toNat
  (9 ≤ code && code ≤ 13) || code == 0x20 || code == 0x85 || code == 0xA0 ||
  code == 0x1680 || (0x2000 ≤ code && code ≤ 0x200A) || code == 0x2028 || code == 0x2029 ||
  code == 0x202F || code == 0x205F || code == 0x3000

/-- The characters from the first that is not blank. -/
def trimStart (cs : List Char) : List Char :=
  cs.dropWhile isBlank

/-- The characters up to the last that is not blank. -/
def trimEnd (cs : List Char) : List Char :=
  (cs.reverse.dropWhile isBlank).reverse

/-- The characters without the blanks at both ends. -/
def trim (cs : List Char) : List Char :=
  trimEnd (trimStart cs)

/-- A line without the carriage return that belongs to its end. -/
def dropReturn (line : List Char) : List Char :=
  if line.getLast? = some '\r' then line.dropLast else line

/-- The lines of a text. The text after the last line feed is a line only when
    it is not empty, and then its carriage return stays. -/
def lines : List Char → List (List Char)
  | [] => []
  | cs => go [] cs
where
  /-- Reads on with the characters of the current line, the last one first. -/
  go (line : List Char) : List Char → List (List Char)
    | [] => if line.isEmpty then [] else [line.reverse]
    | c :: rest =>
      if c = '\n' then dropReturn line.reverse :: go [] rest else go (c :: line) rest

end Text

end RouteTypes
