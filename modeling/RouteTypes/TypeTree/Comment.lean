import RouteTypes.Text.Blank

/-!
# Documentation Comments

The comment that carries a description in front of a declaration.

A description of one line becomes a comment of one line, a longer one a block
with a star before each line. Blanks around the description and at the ends of
its lines are dropped, and a description of blanks only gives no comment. The end
mark of a comment is broken up with a backslash wherever it occurs in the
description, so that only the last two characters close the comment.

## Main definitions

* `Comment.escape`: A description without the end mark of a comment.
* `docComment`: The comment for a description, line by line after an indentation.
-/

namespace RouteTypes

namespace Comment

/-- The text with a backslash inside every end mark of a comment. -/
def escape : List Char → List Char
  | '*' :: '/' :: rest => '*' :: '\\' :: '/' :: escape rest
  | c :: rest => c :: escape rest
  | [] => []

/-- The lines that a comment shows, each without the blanks at its end. -/
def shownLines (text : List Char) : List (List Char) :=
  (Text.lines (escape text)).map Text.trimEnd

/-- A line of a block. An empty line has no blank after its star. -/
def blockLine (indent line : List Char) : List Char :=
  if line.isEmpty then indent ++ [' ', '*', '\n']
  else indent ++ [' ', '*', ' '] ++ line ++ ['\n']

/-- The comment around its lines. -/
def around (indent : List Char) : List (List Char) → List Char
  | [line] => indent ++ "/** ".toList ++ line ++ " */\n".toList
  | lines =>
    indent ++ "/**\n".toList ++ lines.flatMap (blockLine indent) ++ indent ++ " */\n".toList

end Comment

/-- The comment for a description, every line of it after the indentation. Nothing
    when there is no description or only blanks in it. -/
def docComment (description : Option String) (indent : String) : String :=
  match description with
  | none => ""
  | some text =>
    let text := Text.trim text.toList
    if text.isEmpty then ""
    else String.ofList (Comment.around indent.toList (Comment.shownLines text))

end RouteTypes
