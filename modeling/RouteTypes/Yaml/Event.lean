import RouteTypes.Yaml.Token

/-!
# YAML Events

The values of a YAML text as a flat list: scalars, aliases, and the starts and ends
of collections.

A parser goes through the tokens and is always in one state, which says what can come
next. Where a collection begins inside another one, the state to go on with afterwards
is put on a stack. Values that are left out are empty scalars.

## Main definitions

* `Event`: One event.
* `State`, `Parser`: Where the parser is.
* `Parser.step`: The next event.
-/

namespace RouteTypes

namespace Yaml

/-- What is written before a value: a name for it and its type. -/
structure Properties where
  anchor : Option String := none
  tag : Option String := none
  deriving DecidableEq, Repr

/-- An event of a YAML text. -/
inductive Event where
  | streamEnd
  | documentStart
  | documentEnd
  | alias (name : String)
  | scalar (properties : Properties) (text : String) (style : Style)
  | sequenceStart (properties : Properties)
  | sequenceEnd
  | mappingStart (properties : Properties)
  | mappingEnd
  deriving DecidableEq, Repr

/-- What can come next. The flag of the first states of collections tells that nothing
    of the collection has been read yet. -/
inductive State where
  | documentStart (first : Bool)
  | documentContent
  | documentEnd
  | blockNode
  | blockEntry (first : Bool)
  | indentlessEntry
  | blockKey (first : Bool)
  | blockValue
  | flowEntry (first : Bool)
  | pairKey
  | pairValue
  | pairEnd
  | flowKey (first : Bool)
  | flowValue (empty : Bool)
  | finished
  deriving DecidableEq, Repr

/-- A parser in a state. `tags` says what the handles of tags stand for. -/
structure Parser where
  scanner : Scanner
  state : State := .documentStart true
  stack : List State := []
  tags : List (List Char × List Char) := []

namespace Parser

/-- An event and the parser after it. -/
abbrev Step := Option (Event × Parser)

/-- The next token, and the parser that holds it. -/
def peek? (p : Parser) : Option (Token × Parser) := do
  let (token, scanner) ← p.scanner.peek?
  pure (token, { p with scanner })

/-- The parser without its next token. -/
def pop (p : Parser) : Parser :=
  { p with scanner := p.scanner.pop }

/-- The parser in another state. -/
def go (p : Parser) (state : State) : Parser :=
  { p with state }

/-- The parser in the state that was put away last. -/
def back (p : Parser) : Parser :=
  { p with state := p.stack.headD .finished, stack := p.stack.drop 1 }

/-- The parser with a state put away for later. -/
def later (p : Parser) (state : State) : Parser :=
  { p with stack := state :: p.stack }

/-- A value that is left out. -/
def empty (p : Parser) (state : State) : Step :=
  some (.scalar {} "" .plain, p.go state)

/-- What the handles of tags stand for when a document does not say it. -/
def defaultTags : List (List Char × List Char) :=
  [(['!'], ['!']), (['!', '!'], "tag:yaml.org,2002:".toList)]

/-- The tag that is written as a handle and a suffix. -/
def resolveTag (p : Parser) (t : Tag) : Option String :=
  if t.handle.isEmpty then some (String.ofList t.suffix)
  else (p.tags.lookup t.handle).map fun beginning => String.ofList (beginning ++ t.suffix)

/-- The properties before a value, each at most once and in either order. -/
def properties (p : Parser) : Option (Properties × Parser) := do
  match ← p.peek? with
  | (.anchor name, p) => do
    match ← p.pop.peek? with
    | (.tag t, p) => do
      let tag ← p.resolveTag t
      pure ({ anchor := some name, tag := some tag }, p.pop)
    | (_, p) => pure ({ anchor := some name }, p)
  | (.tag t, p) => do
    match ← p.pop.peek? with
    | (.anchor name, p) => do
      let (_, p) ← p.pop.peek?
      let tag ← p.resolveTag t
      pure ({ anchor := some name, tag := some tag }, p)
    | (_, p) => do
      let tag ← p.resolveTag t
      pure ({ tag := some tag }, p)
  | (_, p) => pure ({}, p)

/-- A value. Outside brackets it may be a block, and after a key also a sequence that
    is not indented. -/
def node (p : Parser) (block indentless : Bool) : Step := do
  match ← p.peek? with
  | (.alias name, p) => pure (.alias name, p.back.pop)
  | (_, p) => do
    let (given, p) ← p.properties
    let (token, p) ← p.peek?
    match token with
    | .scalar text style => pure (.scalar given text style, p.back.pop)
    | .flowSequenceStart => pure (.sequenceStart given, p.go (.flowEntry true))
    | .flowMappingStart => pure (.mappingStart given, p.go (.flowKey true))
    | .blockEntry =>
      if indentless then pure (.sequenceStart given, p.go .indentlessEntry)
      else leftOut given p
    | .blockSequenceStart =>
      if block then pure (.sequenceStart given, p.go (.blockEntry true)) else leftOut given p
    | .blockMappingStart =>
      if block then pure (.mappingStart given, p.go (.blockKey true)) else leftOut given p
    | _ => leftOut given p
where
  /-- A value of which only the properties are written. -/
  leftOut (given : Properties) (p : Parser) : Step :=
    if given.anchor.isSome || given.tag.isSome then some (.scalar given "" .plain, p.back)
    else none

/-- The directives before a document. A version may be given once, and a handle may be
    declared once. Every step takes a token. -/
def directives : Nat → Bool → List (List Char × List Char) → Parser → Option Parser
  | 0, _, _, _ => none
  | n + 1, versioned, tags, p => do
    match ← p.peek? with
    | (.directive (.version major minor), p) =>
      if versioned || major ≠ 1 || (minor ≠ 1 && minor ≠ 2) then none
      else directives n true tags p.pop
    | (.directive (.tag handle beginning), p) =>
      if (tags.lookup handle).isSome then none
      else directives n versioned (tags ++ [(handle, beginning)]) p.pop
    | (_, p) => pure { p with tags := tags ++ defaultTags }

/-- The tokens from the next one on that do not end a document. -/
def skipDocumentEnds : Nat → Parser → Option Parser
  | 0, p => some p
  | n + 1, p => do
    match ← p.peek? with
    | (.documentEnd, p) => skipDocumentEnds n p.pop
    | (_, p) => pure p

/-- The start of a document. Only the first one can do without a mark. -/
def documentStart (p : Parser) (first : Bool) : Step := do
  let steps := p.scanner.cursor.steps + 2
  let p ← if first then pure p else skipDocumentEnds steps p
  match ← p.peek? with
  | (.streamEnd, p) => pure (.streamEnd, p.pop.go .finished)
  | (token, p) =>
    let marked := match token with
      | .directive _ | .documentStart => true
      | _ => false
    if first && !marked then
      -- A document without a mark begins with its value.
      pure (.documentStart, { p with tags := defaultTags }.later .documentEnd |>.go .blockNode)
    else do
      let p ← directives steps false [] p
      match ← p.peek? with
      | (.documentStart, p) =>
        pure (.documentStart, (p.pop.later .documentEnd).go .documentContent)
      | _ => none

/-- The value of a document after its mark. -/
def documentContent (p : Parser) : Step := do
  match ← p.peek? with
  | (.directive _, p) | (.documentStart, p) | (.documentEnd, p) | (.streamEnd, p) =>
    pure (.scalar {} "" .plain, p.back)
  | (_, p) => p.node true false

/-- The end of a document. -/
def documentEnd (p : Parser) : Step := do
  match ← p.peek? with
  | (.documentEnd, p) => pure (.documentEnd, p.pop.go (.documentStart false))
  | (_, p) => pure (.documentEnd, p.go (.documentStart false))

/-- The parser without the token that opens a collection, if that is still there. -/
def opened (p : Parser) (first : Bool) : Option Parser :=
  if first then (p.peek?).map (·.2.pop) else some p

/-- An element of a block sequence, or its end. -/
def blockEntry (p : Parser) (first : Bool) : Step := do
  match ← (← p.opened first).peek? with
  | (.blockEntry, p) => do
    match ← p.pop.peek? with
    | (.blockEntry, p) | (.blockEnd, p) => p.empty (.blockEntry false)
    | (_, p) => (p.later (.blockEntry false)).node true false
  | (.blockEnd, p) => pure (.sequenceEnd, p.back.pop)
  | _ => none

/-- An element of a sequence that is not indented, or its end. -/
def indentlessEntry (p : Parser) : Step := do
  match ← p.peek? with
  | (.blockEntry, p) => do
    match ← p.pop.peek? with
    | (.blockEntry, p) | (.key, p) | (.value, p) | (.blockEnd, p) => p.empty .indentlessEntry
    | (_, p) => (p.later .indentlessEntry).node true false
  | (_, p) => pure (.sequenceEnd, p.back)

/-- A key of a block mapping, or its end. -/
def blockKey (p : Parser) (first : Bool) : Step := do
  match ← (← p.opened first).peek? with
  | (.key, p) => do
    match ← p.pop.peek? with
    | (.key, p) | (.value, p) | (.blockEnd, p) => p.empty .blockValue
    | (_, p) => (p.later .blockValue).node true true
  | (.blockEnd, p) => pure (.mappingEnd, p.back.pop)
  | _ => none

/-- A value of a block mapping. -/
def blockValue (p : Parser) : Step := do
  match ← p.peek? with
  | (.value, p) => do
    match ← p.pop.peek? with
    | (.key, p) | (.value, p) | (.blockEnd, p) => p.empty (.blockKey false)
    | (_, p) => (p.later (.blockKey false)).node true true
  | (_, p) => p.empty (.blockKey false)

/-- The parser after the comma before an element or member, which the first one does
    not have. -/
def separated (p : Parser) (first : Bool) : Option Parser :=
  if first then some p
  else do
    match ← p.peek? with
    | (.flowEntry, p) => pure p.pop
    | _ => none

/-- An element of a sequence in brackets, or its end. A key there begins a mapping with
    one member. -/
def flowEntry (p : Parser) (first : Bool) : Step := do
  match ← (← p.opened first).peek? with
  | (.flowSequenceEnd, p) => pure (.sequenceEnd, p.back.pop)
  | (_, p) => do
    match ← (← p.separated first).peek? with
    -- A key inside a sequence stands for a mapping with one member.
    | (.key, p) => pure (.mappingStart {}, p.pop.go .pairKey)
    | (.flowSequenceEnd, p) => pure (.sequenceEnd, p.back.pop)
    | (_, p) => (p.later (.flowEntry false)).node false false

/-- The key of a mapping with one member. When it is left out, the token after it is
    taken for its end. -/
def pairKey (p : Parser) : Step := do
  match ← p.peek? with
  | (.value, p) | (.flowEntry, p) | (.flowSequenceEnd, p) => p.pop.empty .pairValue
  | (_, p) => (p.later .pairValue).node false false

/-- The value of a mapping with one member. -/
def pairValue (p : Parser) : Step := do
  match ← p.peek? with
  | (.value, p) => do
    match ← p.pop.peek? with
    | (.flowEntry, p) | (.flowSequenceEnd, p) => p.empty .pairEnd
    | (_, p) => (p.later .pairEnd).node false false
  | (_, p) => p.empty .pairEnd

/-- A key of a mapping in braces, or its end. A member can do without a value. -/
def flowKey (p : Parser) (first : Bool) : Step := do
  match ← (← p.opened first).peek? with
  | (.flowMappingEnd, p) => pure (.mappingEnd, p.back.pop)
  | (_, p) => do
    match ← (← p.separated first).peek? with
    | (.key, p) => do
      match ← p.pop.peek? with
      | (.value, p) | (.flowEntry, p) | (.flowMappingEnd, p) => p.empty (.flowValue false)
      | (_, p) => (p.later (.flowValue false)).node false false
    | (.flowMappingEnd, p) => pure (.mappingEnd, p.back.pop)
    | (_, p) => (p.later (.flowValue true)).node false false

/-- A value of a mapping in braces. -/
def flowValue (p : Parser) (empty : Bool) : Step := do
  match ← p.peek? with
  | (.value, p) =>
    if empty then p.empty (.flowKey false)
    else match ← p.pop.peek? with
      | (.flowEntry, p) | (.flowMappingEnd, p) => p.empty (.flowKey false)
      | (_, p) => (p.later (.flowKey false)).node false false
  | (_, p) => p.empty (.flowKey false)

/-- The next event, and the parser after it. -/
def step (p : Parser) : Step :=
  match p.state with
  | .documentStart first => p.documentStart first
  | .documentContent => p.documentContent
  | .documentEnd => p.documentEnd
  | .blockNode => p.node true false
  | .blockEntry first => p.blockEntry first
  | .indentlessEntry => p.indentlessEntry
  | .blockKey first => p.blockKey first
  | .blockValue => p.blockValue
  | .flowEntry first => p.flowEntry first
  | .pairKey => p.pairKey
  | .pairValue => p.pairValue
  | .pairEnd => some (.mappingEnd, p.go (.flowEntry false))
  | .flowKey first => p.flowKey first
  | .flowValue empty => p.flowValue empty
  | .finished => none

/-- The parser of a text. -/
def ofText (text : String) : Parser :=
  { scanner := .ofText text }

end Parser

end Yaml

end RouteTypes
