import RouteTypes.Text.Identifier

/-!
# Quoted Names

Single-quoted string literals, used for literal types, for narrowed properties
and for the object keys that are no identifiers.

Inside the quotes a backslash and a quote are written with a backslash before
them and every other character stands for itself.

## Main definitions

* `escapeQuoted`: The inside of a literal.
* `quoted`: The whole literal.
* `objectKey`: A property name as an object key, quoted only where it has to be.
-/

namespace RouteTypes

namespace Text

/-- The characters between the quotes of a literal. -/
def escapeQuoted : List Char → List Char
  | [] => []
  | c :: rest =>
    if c = '\\' ∨ c = '\'' then '\\' :: c :: escapeQuoted rest else c :: escapeQuoted rest

/-- A text as a single-quoted literal. -/
def quoted (text : String) : String :=
  String.ofList ('\'' :: escapeQuoted text.toList ++ ['\''])

/-- A property name as an object key: bare when it is an identifier, a literal
    otherwise. -/
def objectKey (name : String) : String :=
  if needsQuotes name then quoted name else name

end Text

end RouteTypes
