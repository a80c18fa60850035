import RouteTypes.Yaml.Name
import RouteTypes.Yaml.ScalarText

/-!
# YAML Tokens

The indicators, names and scalars of a YAML text, with tokens that stand for its
indentation.

A colon makes what stands before it a key, and also begins a mapping when it is the
first key of its column. Both tokens belong before the key, which has been read by
then. So tokens wait in a queue while one of them may still turn out to be a key:
that is possible as long as the text stays on one line and within a certain length.

## Main definitions

* `Token`: One token.
* `Scanner`: A text from some place on, and the tokens that wait.
* `Scanner.peek?`, `Scanner.pop`: The next token, and the scanner without it.
-/

namespace RouteTypes

namespace Yaml

/-- How a scalar is written. -/
inductive Style where
  | plain
  | quoted
  | literal
  | folded
  deriving DecidableEq, Repr

/-- A token of a YAML text. -/
inductive Token where
  | streamEnd
  | directive (d : Directive)
  | documentStart
  | documentEnd
  | blockSequenceStart
  | blockMappingStart
  | blockEnd
  | flowSequenceStart
  | flowSequenceEnd
  | flowMappingStart
  | flowMappingEnd
  | blockEntry
  | flowEntry
  | key
  | value
  | alias (name : String)
  | anchor (name : String)
  | tag (t : Tag)
  | scalar (text : String) (style : Style)
  deriving DecidableEq, Repr

/-- A place where a key may have begun: the number of its first token, where it
    stands, and whether it has to be a key because nothing else can stand there. -/
structure KeyStart where
  number : Nat
  required : Bool
  index : Nat
  line : Nat
  column : Nat
  deriving DecidableEq, Repr

/-- A text from some place on. `levels` holds the possible key of the block and of
    every open bracket, the innermost first, and `indents` the columns of the blocks
    around the one at `indent`. -/
structure Scanner where
  cursor : Cursor
  indent : Option Nat := none
  indents : List (Option Nat) := []
  keyAllowed : Bool := true
  levels : List (Option KeyStart) := [none]
  queue : List Token := []
  taken : Nat := 0
  ended : Bool := false

namespace Scanner

/-- Whether the place is inside brackets. -/
def inFlow (s : Scanner) : Bool :=
  s.levels.length > 1

/-- The innermost place where a key may have begun. -/
def keyStart? (s : Scanner) : Option KeyStart :=
  s.levels.head?.join

/-- The scanner with another innermost place where a key may have begun. -/
def setKeyStart (s : Scanner) (key : Option KeyStart) : Scanner :=
  { s with levels := key :: s.levels.drop 1 }

/-- A token at the end of the queue. -/
def push (s : Scanner) (token : Token) : Scanner :=
  { s with queue := s.queue ++ [token] }

/-- A token in the queue, before the one with a number. -/
def insert (s : Scanner) (number : Nat) (token : Token) : Scanner :=
  let place := number - s.taken
  { s with queue := s.queue.take place ++ token :: s.queue.drop place }

/-- Gives up the innermost possible key, unless it has to be one. -/
def dropKey (s : Scanner) : Option Scanner :=
  if s.keyStart?.any (·.required) then none else some (s.setKeyStart none)

/-- Remembers that a key may begin here. -/
def markKey (s : Scanner) : Option Scanner :=
  if s.keyAllowed then
    (dropKey s).map (·.setKeyStart (some {
      number := s.taken + s.queue.length
      required := !s.inFlow && s.indent = some s.cursor.column
      index := s.cursor.index
      line := s.cursor.line
      column := s.cursor.column }))
  else some s

/-- The number of characters that a key may have. -/
def greatestKeyLength : Nat := 1024

/-- Whether a possible key began too long ago. -/
def isStale (s : Scanner) (key : KeyStart) : Bool :=
  key.line < s.cursor.line || key.index + greatestKeyLength < s.cursor.index

/-- Gives up the possible keys that began too long ago. -/
def dropStaleKeys (s : Scanner) : Option Scanner :=
  if s.levels.any (·.any fun key => s.isStale key && key.required) then none
  else some { s with levels := s.levels.map (·.filter (!s.isStale ·)) }

/-- Opens a block at a column, if the block around it is further left. -/
def openBlock (s : Scanner) (column : Nat) (add : Scanner → Scanner) : Scanner :=
  if !s.inFlow && s.indent.all (· < column) then
    add { s with indent := some column, indents := s.indent :: s.indents }
  else s

/-- Closes blocks while a test holds of their columns. -/
def closeBlocksWhile (p : Nat → Bool) : List (Option Nat) → Scanner → Scanner
  | [], s => s
  | outer :: rest, s =>
    if s.indent.any p then
      closeBlocksWhile p rest { s.push .blockEnd with indent := outer, indents := rest }
    else s

/-- Closes the blocks to the right of a column. -/
def closeBlocks (s : Scanner) (column : Nat) : Scanner :=
  if s.inFlow then s else closeBlocksWhile (column < ·) s.indents s

/-- Closes all blocks. -/
def closeAllBlocks (s : Scanner) : Scanner :=
  if s.inFlow then s else closeBlocksWhile (fun _ => true) s.indents s

/-- The scanner at another place. -/
def moved (s : Scanner) (cursor : Cursor) : Scanner :=
  { s with cursor }

/-- Goes on to the next token, over blanks, comments and line breaks. A tab does not
    count as a blank where a key may begin. Every step takes a line. -/
def skipToToken : Nat → Scanner → Scanner
  | 0, s => s
  | n + 1, s =>
    let c := s.cursor
    -- A byte order mark may stand at the very start.
    let c := if c.index = 0 && c.atAny ['\ufeff'] then c.next else c
    let c := c.dropWhile fun b => b = ' ' || ((s.inFlow || !s.keyAllowed) && b = '\t')
    let c := if c.atAny ['#'] then c.endOfLine else c
    if c.head?.any isBreak then
      skipToToken n { s with cursor := c.nextLine.2, keyAllowed := s.keyAllowed || !s.inFlow }
    else s.moved c

/-- The end of the text. -/
def readEnd (s : Scanner) : Option Scanner := do
  let c := s.cursor
  -- The end counts as the start of a line, which ends every block.
  let c := if c.column = 0 then c else { c with column := 0, line := c.line + 1 }
  let s ← (s.moved c).closeAllBlocks.dropKey
  pure { s.push .streamEnd with keyAllowed := false, ended := true }

/-- A directive. -/
def readDirectiveToken (s : Scanner) : Option Scanner := do
  let s ← s.closeAllBlocks.dropKey
  let (directive, c) ← readDirective s.cursor
  pure ({ s with keyAllowed := false, cursor := c }.push (.directive directive))

/-- The mark before or after a document. -/
def readDocumentMark (s : Scanner) (token : Token) : Option Scanner := do
  let s ← s.closeAllBlocks.dropKey
  pure ({ s with keyAllowed := false, cursor := s.cursor.skip 3 }.push token)

/-- An opening bracket. -/
def readOpening (s : Scanner) (token : Token) : Option Scanner := do
  let s ← s.markKey
  pure ({ s with
    levels := none :: s.levels
    keyAllowed := true
    cursor := s.cursor.next }.push token)

/-- A closing bracket. -/
def readClosing (s : Scanner) (token : Token) : Option Scanner := do
  let s ← s.dropKey
  pure ({ s with
    levels := if s.inFlow then s.levels.drop 1 else s.levels
    keyAllowed := false
    cursor := s.cursor.next }.push token)

/-- A comma inside brackets. -/
def readFlowEntry (s : Scanner) : Option Scanner := do
  let s ← s.dropKey
  pure ({ s with keyAllowed := true, cursor := s.cursor.next }.push .flowEntry)

/-- A block that an indicator at this place opens. Outside brackets the indicator has
    to stand where a key may begin. -/
def openBlockHere (s : Scanner) (token : Token) : Option Scanner :=
  if !s.inFlow && !s.keyAllowed then none
  else some (s.openBlock s.cursor.column (·.push token))

/-- A dash before an element. -/
def readBlockEntry (s : Scanner) : Option Scanner := do
  let s ← s.openBlockHere .blockSequenceStart
  let s ← s.dropKey
  pure ({ s with keyAllowed := true, cursor := s.cursor.next }.push .blockEntry)

/-- A question mark before a key. -/
def readKey (s : Scanner) : Option Scanner := do
  let s ← s.openBlockHere .blockMappingStart
  let s ← s.dropKey
  pure ({ s with keyAllowed := !s.inFlow, cursor := s.cursor.next }.push .key)

/-- A colon before a value. What stands before it is a key if it may be one. -/
def readValue (s : Scanner) : Option Scanner := do
  let s ← match s.keyStart? with
    | some key =>
      -- The key has been read, so the tokens that announce it go in before it.
      let s := (s.insert key.number .key).openBlock key.column
        (·.insert key.number .blockMappingStart)
      pure { s.setKeyStart none with keyAllowed := false }
    | none => do
      let s ← s.openBlockHere .blockMappingStart
      pure { s with keyAllowed := !s.inFlow }
  pure ((s.moved s.cursor.next).push .value)

/-- A token that may begin a key, but cannot be followed by one. -/
def readContent (s : Scanner) (read : Cursor → Option (Token × Cursor)) : Option Scanner := do
  let s ← s.markKey
  let (token, c) ← read s.cursor
  pure ({ s with keyAllowed := false, cursor := c }.push token)

/-- A block scalar. -/
def readBlockScalar (s : Scanner) (style : Style) : Option Scanner := do
  let s ← s.dropKey
  let (text, c) ← readBlock (style = .literal) s.indent s.cursor
  pure ({ s with keyAllowed := true, cursor := c }.push (.scalar (String.ofList text) style))

/-- A quoted scalar. -/
def readQuotedScalar (s : Scanner) (quote : Char) : Option Scanner :=
  s.readContent fun c =>
    (readQuoted quote c).map fun (text, c) => (.scalar (String.ofList text) .quoted, c)

/-- A plain scalar. A key may follow it when it ends in a line break. -/
def readPlainScalar (s : Scanner) : Option Scanner := do
  let s ← s.markKey
  let indent := match s.indent with
    | some column => column + 1
    | none => 0
  let plain ← readPlain { flow := s.inFlow, indent } s.cursor
  pure ({ s with keyAllowed := plain.broken, cursor := plain.after }.push
    (.scalar (String.ofList plain.text) .plain))

/-- The characters that begin no plain scalar, or only before a character that is no
    blank. -/
def indicators : List Char :=
  ['-', '?', ':', ',', '[', ']', '{', '}', '#', '&', '*', '!', '|', '>', '\'', '"', '%', '@',
    '\x60']

/-- Whether a plain scalar begins at the place. -/
def beginsPlain (s : Scanner) : Bool :=
  let next := s.cursor.get? 1
  match s.cursor.head? with
  | none => false
  | some b =>
    if isBlank b || isBreak b then false
    else !indicators.contains b || (b = '-' && !next.any isBlank) ||
      (!s.inFlow && (b = '?' || b = ':') && !isBlankOrEnd next)

/-- The token at the place, by its first character. -/
def readToken (s : Scanner) : Option Scanner :=
  let blankNext := isBlankOrEnd (s.cursor.get? 1)
  match s.cursor.head? with
  | none => s.readEnd
  | some b =>
    if s.cursor.column = 0 && b = '%' then s.readDirectiveToken
    else if s.cursor.atDocumentMark '-' then s.readDocumentMark .documentStart
    else if s.cursor.atDocumentMark '.' then s.readDocumentMark .documentEnd
    else if b = '[' then s.readOpening .flowSequenceStart
    else if b = '{' then s.readOpening .flowMappingStart
    else if b = ']' then s.readClosing .flowSequenceEnd
    else if b = '}' then s.readClosing .flowMappingEnd
    else if b = ',' then s.readFlowEntry
    else if b = '-' && blankNext then s.readBlockEntry
    else if b = '?' && (s.inFlow || blankNext) then s.readKey
    else if b = ':' && (s.inFlow || blankNext) then s.readValue
    else if b = '*' then
      s.readContent fun c => (readAnchor c).map fun (n, c) => (.alias (String.ofList n), c)
    else if b = '&' then
      s.readContent fun c => (readAnchor c).map fun (n, c) => (.anchor (String.ofList n), c)
    else if b = '!' then
      s.readContent fun c => (readTag s.inFlow c).map fun (t, c) => (.tag t, c)
    else if b = '|' && !s.inFlow then s.readBlockScalar .literal
    else if b = '>' && !s.inFlow then s.readBlockScalar .folded
    else if b = '\'' || b = '"' then s.readQuotedScalar b
    else if s.beginsPlain then s.readPlainScalar
    else none

/-- Reads one more token, and those that go with it. -/
def readMore (s : Scanner) : Option Scanner := do
  let s ← (skipToToken s.cursor.steps s).dropStaleKeys
  (s.closeBlocks s.cursor.column).readToken

/-- Whether the first token of the queue may still become a key. -/
def mayBecomeKey (s : Scanner) : Bool :=
  s.levels.any (·.any (·.number = s.taken))

/-- Reads until the first token of the queue is certain. Every step takes a
    character, or is the last one. -/
def fill : Nat → Scanner → Option Scanner
  | 0, s => some s
  | n + 1, s =>
    if s.queue.isEmpty then
      if s.ended then none else s.readMore.bind (fill n)
    else do
      -- As long as the first token may become a key, another one may come before it.
      let s ← s.dropStaleKeys
      if s.mayBecomeKey then s.readMore.bind (fill n) else pure s

/-- The next token, and the scanner that holds it. -/
def peek? (s : Scanner) : Option (Token × Scanner) := do
  let s ← fill (s.cursor.steps + 2) s
  let token ← s.queue.head?
  pure (token, s)

/-- The scanner without its next token. -/
def pop (s : Scanner) : Scanner :=
  { s with queue := s.queue.drop 1, taken := s.taken + 1 }

/-- The scanner of a text. -/
def ofText (text : String) : Scanner :=
  { cursor := .ofText text }

end Scanner

end Yaml

end RouteTypes
