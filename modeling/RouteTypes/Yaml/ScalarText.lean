import RouteTypes.Text.Hexadecimal
import RouteTypes.Yaml.Cursor

/-!
# Scalar Texts

The three ways of writing a scalar in YAML, and the texts they stand for.

A plain or quoted scalar may go on over several lines. The gap between two words is
kept when it lies within a line. When it runs over a line break it is folded: one
break becomes a space, and of several the first one is dropped. A block scalar keeps
its lines, or folds those that are not indented further.

## Main definitions

* `Gap`: What separates two words of a scalar.
* `readPlain`, `readQuoted`, `readBlock`: A scalar of each kind, with the place after
  it.
-/

namespace RouteTypes

namespace Yaml

/-- What separates two words: blanks within a line, or line breaks. `broken` tells
    which. -/
structure Gap where
  broken : Bool := false
  blanks : List Char := []
  first : List Char := []
  others : List Char := []

namespace Gap

/-- What stands for the gap in the text of a scalar. -/
def text (g : Gap) : List Char :=
  if !g.broken then g.blanks
  else if g.first = ['\n'] then (if g.others.isEmpty then [' '] else g.others)
  else g.first ++ g.others

/-- Reads a gap. Before `indent` columns, a tab that follows a line break is
    refused. Every step takes a character. -/
def readSteps (indent : Option Nat) : Nat → Gap → Cursor → Option (Gap × Cursor)
  | 0, g, c => some (g, c)
  | n + 1, g, c =>
    match c.head? with
    | none => some (g, c)
    | some b =>
      if isBlank b then
        if g.broken && b = '\t' && indent.any (c.column < ·) then none
        else
          readSteps indent n (if g.broken then g else { g with blanks := g.blanks ++ [b] }) c.next
      else if isBreak b then
        let (kept, after) := c.nextLine
        if g.broken then readSteps indent n { g with others := g.others ++ kept } after
        else readSteps indent n { g with broken := true, blanks := [], first := kept } after
      else some (g, c)

/-- Reads a gap. -/
def read (indent : Option Nat) (g : Gap) (c : Cursor) : Option (Gap × Cursor) :=
  readSteps indent c.steps g c

end Gap

/-- Where a scalar stands: inside brackets or not, and to the right of which
    column. -/
structure Surroundings where
  flow : Bool
  indent : Nat

/-- The length of a word of a plain scalar. A word ends before a blank and before an
    indicator. Inside brackets, a colon before another indicator is refused. -/
def plainWord (flow : Bool) : List Char → Option Nat
  | [] => some 0
  | c :: cs =>
    if isBlank c || isBreak c then some 0
    else if flow && c = ':' && cs.head?.any [',', '?', '[', ']', '{', '}'].contains then none
    else if c = ':' && isBlankOrEnd cs.head? then some 0
    else if flow && [',', '[', ']', '{', '}'].contains c then some 0
    else (plainWord flow cs).map (· + 1)

/-- A plain scalar: its text, whether the gap after it runs over a line break, and the
    place after it. -/
structure Plain where
  text : List Char
  broken : Bool
  after : Cursor

/-- Reads a plain scalar from a word on. `gap` separates the word from the text before
    it. Every step takes a word. -/
def readPlainSteps (place : Surroundings) : Nat → List Char → Gap → Cursor → Option Plain
  | 0, text, gap, c => some ⟨text, gap.broken, c⟩
  | n + 1, text, gap, c =>
    if c.atAnyDocumentMark || c.atAny ['#'] then some ⟨text, gap.broken, c⟩
    else
      match plainWord place.flow c.rest with
      | none => none
      | some 0 => some ⟨text, gap.broken, c⟩
      | some length =>
        let text := text ++ gap.text ++ c.rest.take length
        let c := c.skip length
        -- Only a blank or a break can be followed by another word.
        if !(c.head?.any fun b => isBlank b || isBreak b) then some ⟨text, false, c⟩
        else
          match Gap.read (some place.indent) {} c with
          | none => none
          | some (gap, c) =>
            if !place.flow && c.column < place.indent then some ⟨text, gap.broken, c⟩
            else readPlainSteps place n text gap c

/-- Reads a plain scalar. -/
def readPlain (place : Surroundings) (c : Cursor) : Option Plain :=
  readPlainSteps place c.steps [] {} c

/-- The character of an escape that is one letter long. -/
def shortEscape? : Char → Option Char
  | '0' => some '\x00'
  | 'a' => some '\x07'
  | 'b' => some '\x08'
  | 't' | '\t' => some '\t'
  | 'n' => some '\n'
  | 'v' => some '\x0b'
  | 'f' => some '\x0c'
  | 'r' => some '\r'
  | 'e' => some '\x1b'
  | ' ' => some ' '
  | '"' => some '"'
  | '/' => some '/'
  | '\\' => some '\\'
  | 'N' => some '\x85'
  | '_' => some '\xa0'
  | 'L' => some '\u2028'
  | 'P' => some '\u2029'
  | _ => none

/-- The number of hexadecimal digits of a longer escape. -/
def escapeLength? : Char → Option Nat
  | 'x' => some 2
  | 'u' => some 4
  | 'U' => some 8
  | _ => none

/-- The character of an escape and the place after it. The escape begins with its
    backslash. -/
def readEscape (c : Cursor) : Option (Char × Cursor) := do
  let letter ← c.get? 1
  match shortEscape? letter with
  | some char => pure (char, c.skip 2)
  | none => do
    let length ← escapeLength? letter
    let digits := (c.rest.drop 2).take length
    if digits.length < length then none
    let char ← Text.character? (← Text.hexNumber? digits)
    pure (char, c.skip (2 + length))

/-- A word of a quoted scalar: its text, whether it ends in an escaped line break, and
    the place after it. -/
def readQuotedWord (quote : Char) : Nat → Cursor → Option (List Char × Bool × Cursor)
  | 0, c => some ([], false, c)
  | n + 1, c =>
    match c.head? with
    | none => some ([], false, c)
    | some b =>
      if isBlank b || isBreak b then some ([], false, c)
      else if quote = '\'' && b = '\'' && c.get? 1 = some '\'' then do
        let (text, escaped, after) ← readQuotedWord quote n (c.skip 2)
        pure ('\'' :: text, escaped, after)
      else if b = quote then some ([], false, c)
      else if quote = '"' && b = '\\' then
        if (c.get? 1).any isBreak then some ([], true, c.next.nextLine.2)
        else do
          let (char, c) ← readEscape c
          let (text, escaped, after) ← readQuotedWord quote n c
          pure (char :: text, escaped, after)
      else do
        let (text, escaped, after) ← readQuotedWord quote n c.next
        pure (b :: text, escaped, after)

/-- Reads a quoted scalar from a word on. Every step takes a word or a gap. -/
def readQuotedSteps (quote : Char) : Nat → Cursor → Option (List Char × Cursor)
  | 0, _ => none
  | n + 1, c =>
    if c.atAnyDocumentMark || c.rest.isEmpty then none
    else do
      let (word, escaped, c) ← readQuotedWord quote c.steps c
      if c.atAny [quote] then pure (word, c.next)
      else do
        let (gap, c) ← Gap.read none { broken := escaped } c
        let (others, after) ← readQuotedSteps quote n c
        pure (word ++ gap.text ++ others, after)

/-- Reads a quoted scalar, starting at its opening quote. -/
def readQuoted (quote : Char) (c : Cursor) : Option (List Char × Cursor) :=
  readQuotedSteps quote c.steps c.next

/-- What happens to the line breaks at the end of a block scalar. -/
inductive Chomping where
  | strip
  | clip
  | keep
  deriving DecidableEq, Repr

/-- The chomping indicator at a place, if there is one, and the place after it. -/
def readChomping (c : Cursor) : Option Chomping × Cursor :=
  match c.head? with
  | some '+' => (some .keep, c.next)
  | some '-' => (some .strip, c.next)
  | _ => (none, c)

/-- The indentation indicator at a place, if there is one, and the place after it. It
    is a digit other than zero. -/
def readIncrement (c : Cursor) : Option (Option Nat × Cursor) :=
  match c.head? with
  | some d =>
    if d = '0' then none
    else if d.isDigit then some (some (d.toNat - '0'.toNat), c.next)
    else some (none, c)
  | none => some (none, c)

/-- The indicators of a block scalar in either order, and the place after them. -/
def readIndicators (c : Cursor) : Option (Chomping × Option Nat × Cursor) := do
  match readChomping c with
  | (some chomping, c) => do
    let (increment, c) ← readIncrement c
    pure (chomping, increment, c)
  | (none, c) => do
    match ← readIncrement c with
    | (some increment, c) =>
      let (chomping, c) := readChomping c
      pure (chomping.getD .clip, some increment, c)
    | (none, c) => pure (.clip, none, c)

/-- The line breaks before the next line of a block scalar, the greatest column they
    reach, and the place at the start of the line's text. Without an indentation, all
    spaces are taken. -/
def readBreaks (indent : Option Nat) : Nat → Nat → Cursor → Option (List Char × Nat × Cursor)
  | 0, greatest, c => some ([], greatest, c)
  | n + 1, greatest, c =>
    let inside (c : Cursor) : Bool := indent.all (c.column < ·)
    let spaces := c.rest.takeWhile (· = ' ')
    let c := c.skip (match indent with
      | none => spaces.length
      | some indent => min spaces.length (indent - c.column))
    let greatest := max greatest c.column
    if inside c && c.atAny ['\t'] then none
    else if c.head?.any isBreak then do
      let (kept, after) := c.nextLine
      let (others, greatest, after) ← readBreaks indent n greatest after
      pure (kept ++ others, greatest, after)
    else some ([], greatest, c)

/-- The text of a block scalar before its last line break, that break, and the breaks
    after it. -/
structure BlockText where
  text : List Char := []
  last : List Char := []
  trailing : List Char := []

/-- Reads the lines of a block scalar. `indented` tells whether the line before begins
    with a blank. Every step takes a line. -/
def readBlockLines (literal : Bool) (indent : Nat) :
    Nat → Bool → BlockText → Cursor → Option (BlockText × Cursor)
  | 0, _, t, c => some (t, c)
  | n + 1, indented, t, c =>
    if c.column ≠ indent || c.rest.isEmpty then some (t, c)
    else
      let blank := c.head?.any isBlank
      -- Two lines are joined unless either of them begins with a blank.
      let folded :=
        if !literal && t.last = ['\n'] && !indented && !blank then
          (if t.trailing.isEmpty then [' '] else [])
        else t.last
      let (line, c) := c.takeWhile (!isBreak ·)
      let (last, c) := c.nextLine
      match readBreaks (some indent) c.steps 0 c with
      | none => none
      | some (trailing, _, c) =>
        readBlockLines literal indent n blank
          { text := t.text ++ folded ++ t.trailing ++ line, last, trailing } c

/-- Reads a block scalar, starting at its indicator. `indent` is the column of the
    block around it, if there is one. -/
def readBlock (literal : Bool) (indent : Option Nat) (c : Cursor) :
    Option (List Char × Cursor) := do
  let (chomping, increment, c) ← readIndicators c.next
  let c ← c.restOfLine?
  let given := increment.map (· + indent.getD 0)
  -- Without an indicator the first line with text sets the indentation.
  let (breaks, greatest, c) ← readBreaks given c.steps 0 c
  let least := match indent with
    | some column => column + 1
    | none => 1
  let (t, c) ← readBlockLines literal (given.getD (max greatest least)) c.steps false
    { trailing := breaks } c
  pure (t.text ++ (if chomping = .strip then [] else t.last) ++
    (if chomping = .keep then t.trailing else []), c)

end Yaml

end RouteTypes
