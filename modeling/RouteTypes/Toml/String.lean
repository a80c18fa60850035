import RouteTypes.Text.Hexadecimal

/-!
# TOML Strings

The four ways of writing a text in TOML.

A text stands in double quotes, where escapes count, or in single quotes, where they
do not. With three quotes on either side it may go on over several lines, a line break
right after the opening quotes does not count, and up to two quotes may stand before
the closing ones.

## Main definitions

* `readString`: A text in any of the four ways, and what follows it.
-/

namespace RouteTypes

namespace Toml

/-- A character that may stand in a text or comment. -/
def isPrintable (c : Char) : Bool :=
  c = '\t' || (' ' ≤ c && c ≠ '\x7f')

/-- The line break at the start of a text is taken away. -/
def dropBreak? : List Char → Option (List Char)
  | '\n' :: rest => some rest
  | '\r' :: '\n' :: rest => some rest
  | _ => none

/-- A blank within a line. -/
def isBlank (c : Char) : Bool :=
  c = ' ' || c = '\t'

/-- The blanks at the start of a text are taken away. -/
def dropBlanks (cs : List Char) : List Char :=
  cs.dropWhile isBlank

/-- Blanks and line breaks at the start of a text are taken away. -/
def dropBlankLines : List Char → List Char
  | [] => []
  | '\n' :: rest => dropBlankLines rest
  | '\r' :: '\n' :: rest => dropBlankLines rest
  | c :: rest => if isBlank c then dropBlankLines rest else c :: rest

/-- The character of an escape by its code point, which has a number of digits. -/
def readCode (digits : Nat) (cs : List Char) : Option (Char × List Char) := do
  let taken := cs.take digits
  if taken.length < digits then none
  let char ← Text.character? (← Text.hexNumber? taken)
  pure (char, cs.drop digits)

/-- The character of an escape, after its backslash. -/
def readEscape : List Char → Option (Char × List Char)
  | 'b' :: rest => some ('\x08', rest)
  | 't' :: rest => some ('\t', rest)
  | 'n' :: rest => some ('\n', rest)
  | 'f' :: rest => some ('\x0c', rest)
  | 'r' :: rest => some ('\r', rest)
  | '"' :: rest => some ('"', rest)
  | '\\' :: rest => some ('\\', rest)
  | 'u' :: rest => readCode 4 rest
  | 'U' :: rest => readCode 8 rest
  | _ => none

/-- A text up to its closing quote. Escapes count between double quotes. Every step
    takes a character. -/
def readLine (quote : Char) : Nat → List Char → Option (List Char × List Char)
  | 0, _ | _, [] => none
  | n + 1, c :: cs =>
    if c = quote then some ([], cs)
    else if c = '\\' && quote = '"' then do
      let (char, rest) ← readEscape cs
      let (text, rest) ← readLine quote n rest
      pure (char :: text, rest)
    else if isPrintable c then do
      let (text, rest) ← readLine quote n cs
      pure (c :: text, rest)
    else none

/-- The text after a backslash at the end of a line: everything up to the next
    character that is no blank or line break. -/
def continued? (cs : List Char) : Option (List Char) :=
  (dropBreak? (dropBlanks cs)).map dropBlankLines

/-- The quotes at the end of a text of several lines: up to two belong to the text. -/
def closing? (quote : Char) (cs : List Char) : Option (List Char × List Char) :=
  let quotes := (cs.takeWhile (· = quote)).length
  if quotes < 3 then none
  else
    let kept := min (quotes - 3) 2
    some (List.replicate kept quote, cs.drop (kept + 3))

/-- A text of several lines up to its closing quotes. Every step takes a character. -/
def readLines (quote : Char) : Nat → List Char → Option (List Char × List Char)
  | 0, _ | _, [] => none
  | n + 1, c :: cs =>
    match closing? quote (c :: cs) with
    | some (kept, rest) => some (kept, rest)
    | none =>
      if c = '\\' && quote = '"' then
        match continued? cs with
        | some rest => readLines quote n rest
        | none => do
          let (char, rest) ← readEscape cs
          let (text, rest) ← readLines quote n rest
          pure (char :: text, rest)
      else match dropBreak? (c :: cs) with
        | some rest => do
          let (text, rest) ← readLines quote n rest
          pure ('\n' :: text, rest)
        | none =>
          if isPrintable c then do
            let (text, rest) ← readLines quote n cs
            pure (c :: text, rest)
          else none

/-- A text of one line, starting at its quote. -/
def readOneLine : List Char → Option (String × List Char)
  | [] => none
  | quote :: cs =>
    if quote = '"' || quote = '\'' then
      (readLine quote (cs.length + 1) cs).map fun (text, rest) => (String.ofList text, rest)
    else none

/-- A text, starting at its quotes. -/
def readString (cs : List Char) : Option (String × List Char) :=
  match cs with
  | a :: b :: c :: rest =>
    if (a = '"' || a = '\'') && a = b && b = c then
      let rest := (dropBreak? rest).getD rest
      (readLines a (rest.length + 1) rest).map fun (text, rest) => (String.ofList text, rest)
    else readOneLine cs
  | _ => readOneLine cs

end Toml

end RouteTypes
