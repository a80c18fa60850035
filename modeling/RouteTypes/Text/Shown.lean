import RouteTypes.Text.Hidden

/-!
# Shown Texts

Texts as messages show them: in double quotes, on one line, with every character
visible.

## Main definitions

* `shownChar`: How one character is written.
* `shown`: A text in quotes.
-/

namespace RouteTypes

namespace Text

/-- A character by its code point. -/
def codeEscape (c : Char) : List Char :=
  ['\\', 'u', '{'] ++ Nat.toDigits 16 c.toNat ++ ['}']

/-- How a character is written between quotes. -/
def shownChar (c : Char) : List Char :=
  match c with
  | '\x00' => ['\\', '0']
  | '\t' => ['\\', 't']
  | '\r' => ['\\', 'r']
  | '\n' => ['\\', 'n']
  | '"' => ['\\', '"']
  | '\\' => ['\\', '\\']
  | c => if isHidden c then codeEscape c else [c]

/-- A text between quotes. -/
def shown (text : String) : String :=
  String.ofList ('"' :: text.toList.flatMap shownChar ++ ['"'])

end Text

end RouteTypes
