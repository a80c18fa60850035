import RouteTypes.Yaml.Scalar

/-!
# YAML Nodes

The tree of a YAML text, as far as the text can be read.

The events of the first document are taken as items until it ends or something is
wrong. Anchors get numbers on the way. The number of a name that is given again is not
new, so a later name can get it too, and an alias stands for the last value that has
its number.

## Main definitions

* `Item`: An event without names.
* `Loaded`: The items of a document.
* `Loaded.ofText`: The items of the first document of a text.
* `readNode`: The value at the start of a list of items.
* `Yaml.read`: A whole text.
-/

namespace RouteTypes

namespace Yaml

/-- An event of which only what decides about values is kept. -/
inductive Item where
  | scalar (readings : Scalar)
  | alias (anchor : Nat)
  | sequenceStart (marked : Bool)
  | sequenceEnd
  | mappingStart (marked : Bool)
  | mappingEnd

/-- The items of a document, the last one first. `anchors` lists the names of the
    anchors with their numbers, `places` the numbers with the places where their values
    begin; the later ones stand first in both. -/
structure Loaded where
  items : List Item := []
  anchors : List (String × Nat) := []
  places : List (Nat × Nat) := []

namespace Loaded

/-- The number of names that are anchors. -/
def names (l : Loaded) : Nat :=
  (l.anchors.map Prod.fst).eraseDups.length

/-- The document with one more item. -/
def push (l : Loaded) (item : Item) : Loaded :=
  { l with items := item :: l.items }

/-- The document with one more value, or its start. -/
def pushValue (l : Loaded) (properties : Properties) (item : Item) : Loaded :=
  match properties.anchor with
  | none => l.push item
  | some name =>
    -- The number is taken from how many names there are, new or not.
    { items := item :: l.items
      anchors := (name, l.names) :: l.anchors
      places := (l.names, l.items.length) :: l.places }

/-- The document with one more event, unless that is an alias of nothing. -/
def add (l : Loaded) : Event → Option Loaded
  | .alias name => (l.anchors.lookup name).map fun number => l.push (.alias number)
  | .scalar properties text style =>
    some (l.pushValue properties (.scalar (scalarReadings properties text style)))
  | .sequenceStart properties =>
    some (l.pushValue properties (.sequenceStart (isOwnTag properties.tag)))
  | .mappingStart properties =>
    some (l.pushValue properties (.mappingStart (isOwnTag properties.tag)))
  | .sequenceEnd => some (l.push .sequenceEnd)
  | .mappingEnd => some (l.push .mappingEnd)
  | .documentStart | .documentEnd | .streamEnd => some l

/-- The items of a document, and the parser after its end, unless something is wrong
    with the document. A text without a document is an empty scalar. Every step takes
    an event. -/
def collect : Nat → Loaded → Parser → Loaded × Option Parser
  | 0, l, _ => (l, none)
  | n + 1, l, p =>
    match p.step with
    | none => (l, none)
    | some (.documentEnd, p) => (l, some p)
    | some (.streamEnd, p) => (l.push (.scalar (scalarReadings {} "" .plain)), some p)
    | some (event, p) =>
      match l.add event with
      | none => (l, none)
      | some l => collect n l p

/-- A character that may occur in a text. -/
def isAllowed (c : Char) : Bool :=
  c = '\t' || c = '\n' || c = '\r' || c = '\x85' || (' ' ≤ c && c ≤ '~') ||
    ('\xa0' ≤ c && c ≠ '\ufffe' && c ≠ '\uffff')

/-- What is wrong after the end of a document: nothing at the end of the text. -/
def afterDocument (p : Parser) : Option TextFault :=
  if p.state = .finished then none
  else match p.step with
    | some (.streamEnd, _) => none
    | _ => some .unreadable

/-- The items of the first document of a text, and what is wrong at its end. A character
    yields only a few events. -/
def ofText (text : String) : Loaded × Option TextFault :=
  if text.toList.all isAllowed then
    match collect (10 * text.length + 10) {} (.ofText text) with
    | (l, none) => (l, some .unreadable)
    | (l, some p) => (l, afterDocument p)
  else ({}, some .unreadable)

end Loaded

mutual

/-- The value at the start of a list of items, and the items after it. Every second
    step takes an item. -/
def readNode : Nat → List Item → Node × List Item
  | 0, _ => (.broken (.same .unreadable), [])
  | _, .scalar readings :: rest => (.scalar readings, rest)
  | _, .alias anchor :: rest => (.alias anchor, rest)
  | n + 1, .sequenceStart marked :: rest =>
    let ((items, fault), rest) := readSequence n rest
    (.sequence marked items fault, rest)
  | n + 1, .mappingStart marked :: rest =>
    let ((members, ending), rest) := readMapping n rest
    (.mapping marked members ending, rest)
  | _, _ => (.broken (.same .unreadable), [])

/-- The elements of a sequence up to its end. -/
def readSequence : Nat → List Item → (List Node × Option Fault) × List Item
  | 0, _ => (([], some (.same .unreadable)), [])
  | _, [] => (([], some (.same .unreadable)), [])
  | _, .sequenceEnd :: rest => (([], none), rest)
  | n + 1, items =>
    let (item, rest) := readNode n items
    let ((others, fault), rest) := readSequence n rest
    ((item :: others, fault), rest)

/-- The members of a mapping up to its end. -/
def readMapping : Nat → List Item → (List (Node × Node) × Ending) × List Item
  | 0, _ => (([], .beforeKey (.same .unreadable)), [])
  | _, [] => (([], .beforeKey (.same .unreadable)), [])
  | _, .mappingEnd :: rest => (([], .closed), rest)
  | n + 1, items =>
    let (key, rest) := readNode n items
    let (value, rest) := readNode n rest
    let ((others, ending), rest) := readMapping n rest
    (((key, value) :: others, ending), rest)

end

/-- The number of containers that may be open at a time. -/
def greatestDepth : Nat := 128

/-- How often aliases may be followed, for each event of the document. -/
def jumpsPerEvent : Nat := 100

/-- The first document of a text. It has to be the only one. -/
def read (text : String) : Reading :=
  let (l, rest) := Loaded.ofText text
  let items := l.items.reverse
  let steps := 2 * items.length + 2
  { root := (readNode steps items).1
    rest
    anchors := fun number =>
      (l.places.lookup number).map fun place => (readNode steps (items.drop place)).1
    depth := greatestDepth
    jumps := items.length * jumpsPerEvent }

end Yaml

end RouteTypes
