import RouteTypes.Data.Node
import RouteTypes.Data.Record

/-!
# Decoding

Going through the tree of a text and taking from it what is expected there.

A decoder visits the tree in the order of the text and stops at the first thing
that is wrong. It counts how often it follows an alias, because aliases can make a
small text stand for an endless one, and how many containers are open. `room` is
the number of containers that may still be opened.

## Main definitions

* `Decoding`: A decoding step.
* `Decoding.within`: A step at a place further inside.
* `Decoding.text`, `Decoding.flag`, `Decoding.optional`, `Decoding.list`,
  `Decoding.map`, `Decoding.record`: Decoders for the forms a value can have.
* `Decoding.value`: The value itself, whatever its form.
-/

namespace RouteTypes

/-- A decoding step. It knows the whole text and counts the aliases followed. -/
abbrev Decoding (α : Type) := ReaderT Reading (StateT Nat (Except DecodeError)) α

mutual

/-- What is wrong in a tree that is passed over. Aliases are not followed. -/
def Node.skipFault? : Node → Option TextFault
  | .scalar readings =>
    match readings.skip with
    | .error fault => some fault
    | .ok () => none
  | .sequence _ items fault =>
    match itemsSkipFault? items with
    | some fault => some fault
    | none => fault.map (·.skipped)
  | .mapping _ members ending =>
    match membersSkipFault? members with
    | some fault => some fault
    | none => ending.skipFault?
  | .alias _ => none
  | .broken fault => some fault.skipped

/-- What is wrong in the first tree with a fault. -/
def itemsSkipFault? : List Node → Option TextFault
  | [] => none
  | item :: rest =>
    match item.skipFault? with
    | some fault => some fault
    | none => itemsSkipFault? rest

/-- What is wrong in the first member with a fault. -/
def membersSkipFault? : List (Node × Node) → Option TextFault
  | [] => none
  | (key, value) :: rest =>
    match key.skipFault? with
    | some fault => some fault
    | none =>
      match value.skipFault? with
      | some fault => some fault
      | none => membersSkipFault? rest

/-- What is wrong at the end of a mapping. -/
def Ending.skipFault? : Ending → Option TextFault
  | .closed => none
  | .beforeKey fault => some fault.skipped
  | .afterKey key fault =>
    match key.skipFault? with
    | some fault => some fault
    | none => some fault.skipped

end

namespace Decoding

variable {α σ : Type}

/-- Stop at this place. -/
def fail (cause : Cause) : Decoding α :=
  throw { cause }

/-- Stop at a fault of the text, if there is one. -/
def stop (fault : Option Fault) : Decoding Unit :=
  match fault with
  | some fault => fail (.text fault.wanted)
  | none => pure ()

/-- A step one place further inside. -/
def within (step : Step) (x : Decoding α) : Decoding α :=
  tryCatch x fun e => throw { e with path := step :: e.path }

/-- Pass over a value. -/
def skip (node : Node) : Decoding Unit :=
  match node.skipFault? with
  | some fault => fail (.text fault)
  | none => pure ()

/-- The node itself, or the one its alias stands for. -/
def target : Node → Decoding Node
  | .alias anchor => do
    let source ← read
    let count ← getModify (· + 1)
    if count ≥ source.jumps then fail .tooManyAliases
    else pure ((source.anchors anchor).getD default)
  | node => pure node

/-- Stop because a value is not of the expected form. -/
def mismatch (expected : Expected) : Node → Decoding α
  | .scalar readings =>
    match readings.value with
    | .ok value => fail (.wrongType (.atom value) expected)
    | .error cause => fail cause
  | .sequence .. => fail (.wrongType .sequence expected)
  | .mapping .. => fail (.wrongType .map expected)
  | .broken fault => fail (.text fault.wanted)
  | .alias _ => fail (.text .unreadable)

/-- Open a container. -/
def enter (room : Nat) (x : Nat → Decoding α) : Decoding α :=
  match room with
  | 0 => fail .tooDeep
  | room + 1 => x room

/-- A text. -/
def text (node : Node) : Decoding String := do
  match ← target node with
  | n@(.scalar readings) =>
    match readings.text with
    | some text => pure text
    | none => mismatch .string n
  | n => mismatch .string n

/-- A truth value. -/
def flag (node : Node) : Decoding Bool := do
  match ← target node with
  | n@(.scalar readings) =>
    match readings.flag with
    | some value => pure value
    | none => mismatch .boolean n
  | n => mismatch .boolean n

/-- A value that may be absent. -/
def optional (decode : Node → Decoding α) (node : Node) : Decoding (Option α) := do
  match ← target node with
  | n@(.scalar readings) =>
    match readings.absent with
    | .error cause => fail cause
    | .ok true => pure none
    | .ok false => some <$> decode n
  | n => some <$> decode n

/-- A scalar that can stand for an empty container. -/
def isVacant : Node → Bool
  | .scalar readings => readings.vacant
  | _ => false

/-- The elements of a sequence from a position on. -/
def itemsFrom (decode : Node → Decoding α) : Nat → List Node → Decoding (List α)
  | _, [] => pure []
  | position, item :: rest => do
    let value ← within (.index position) (decode item)
    let values ← itemsFrom decode (position + 1) rest
    pure (value :: values)

/-- A sequence. -/
def list (decode : Nat → Node → Decoding α) (room : Nat) (node : Node) :
    Decoding (List α) := do
  match ← target node with
  | .sequence _ items fault => enter room fun room => do
    let values ← itemsFrom (decode room) 0 items
    stop fault
    pure values
  | n => if isVacant n then pure [] else mismatch .sequence n

/-- The members of a mapping with the texts of their keys. The decoder of a value
    gets to know the key. -/
def membersOf (decode : String → Node → Decoding α) :
    List (Node × Node) → Decoding (List α)
  | [] => pure []
  | (key, value) :: rest => do
    let name ← within .unknown (text key)
    let decoded ← within (.key name) (decode name value)
    let others ← membersOf decode rest
    pure (decoded :: others)

/-- The end of a mapping. A last key without a value still has to pass a test. -/
def finish (check : String → Decoding Unit) : Ending → Decoding Unit
  | .closed => pure ()
  | .beforeKey fault => within .unknown (fail (.text fault.wanted))
  | .afterKey key fault => do
    let name ← within .unknown (text key)
    check name
    fail (.text fault.wanted)

/-- A mapping whose keys are texts, of which a form of its own is expected. -/
def mapExpecting (expected : Expected) (decode : Nat → String → Node → Decoding α)
    (room : Nat) (node : Node) : Decoding (List α) := do
  match ← target node with
  | .mapping _ members ending => enter room fun room => do
    let decoded ← membersOf (decode room) members
    finish (fun _ => pure ()) ending
    pure decoded
  | n => if isVacant n then pure [] else mismatch expected n

/-- A mapping from texts to values of one form. -/
def map (decode : Nat → Node → Decoding α) : Nat → Node → Decoding (List (String × α)) :=
  mapExpecting .map fun room name value => do
    let decoded ← decode room value
    pure (name, decoded)

/-- What a field of a record does to the record. -/
abbrev FieldDecoder (σ : Type) := String → Nat → Node → Decoding (σ → σ)

/-- A field must not be given twice. -/
def checkNew (form : RecordForm) (seen : List String) (name : String) : Decoding Unit :=
  if form.names.contains name && seen.contains name then fail (.duplicateField name)
  else pure ()

/-- The members of a mapping that stands for a record, and the fields it gives. -/
def recordMembers (form : RecordForm) (decode : FieldDecoder σ) (room : Nat) :
    List String → σ → List (Node × Node) → Decoding (List String × σ)
  | seen, state, [] => pure (seen, state)
  | seen, state, (key, value) :: rest => do
    let name ← within .unknown (text key)
    checkNew form seen name
    if form.names.contains name then
      let update ← within (.key name) (decode name room value)
      recordMembers form decode room (name :: seen) (update state) rest
    else
      within (.key name) (skip value)
      recordMembers form decode room seen state rest

/-- What is left to find at the end of a list that has given all fields. -/
def leftover : Fault → TextFault
  | ⟨.trailingComma, _⟩ => .trailingComma
  | ⟨.endInList, _⟩ => .endInList
  | _ => .trailingCharacters

/-- The elements of a sequence that stands for a record. -/
def recordItems (form : RecordForm) (decode : FieldDecoder σ) (room : Nat)
    (fault : Option Fault) : Nat → σ → List (String × Presence) → List Node → Decoding σ
  | _, state, [], [] => do
    stop (fault.map fun f => .same (leftover f))
    pure state
  | _, _, [], _ :: _ => fail (.text .trailingCharacters)
  | position, state, (_, presence) :: fields, [] => do
    stop fault
    if presence = .defaulted then recordItems form decode room fault (position + 1) state fields []
    else fail (.wrongLength position form.name form.fields.length)
  | position, state, (name, _) :: fields, item :: items => do
    let update ← within (.index position) (decode name room item)
    recordItems form decode room fault (position + 1) (update state) fields items

/-- A record, starting from what it is without any field. -/
def record (form : RecordForm) (decode : FieldDecoder σ) (empty : σ) (room : Nat)
    (node : Node) : Decoding σ := do
  match ← target node with
  | .sequence _ items fault =>
    enter room (recordItems form decode · fault 0 empty form.fields items)
  | .mapping _ members ending => enter room fun room => do
    let (seen, state) ← recordMembers form decode room [] empty members
    finish (checkNew form seen) ending
    complete seen state
  | n => if isVacant n then complete [] empty else mismatch (.object form.name) n
where
  /-- The record, once nothing is missing. -/
  complete (seen : List String) (state : σ) : Decoding σ :=
    match form.missing? seen with
    | some name => fail (.missingField name)
    | none => pure state

/-- The step to the value of a key. Only texts, whole numbers and truth values have
    a text in a path. -/
def stepOf : Value → Step
  | .atom (.string text) => .key text
  | .atom (.natural value) => .key (toString value)
  | .atom (.signed value) => .key (toString value)
  | .atom (.boolean value) => .key (if value then "true" else "false")
  | _ => .unknown

/-- The entries of a mapping as values. -/
def entriesOf (decode : Node → Decoding Value) :
    List (Node × Node) → Decoding (List (Value × Value))
  | [] => pure []
  | (key, value) :: rest => do
    let k ← within .unknown (decode key)
    let v ← within (stepOf k) (decode value)
    let others ← entriesOf decode rest
    pure ((k, v) :: others)

/-- The end of a mapping that is taken as a value. -/
def finishValue (decode : Node → Decoding Value) : Ending → Decoding Unit
  | .closed => pure ()
  | .beforeKey fault => within .unknown (fail (.text fault.wanted))
  | .afterKey key fault => do
    let _ ← within .unknown (decode key)
    fail (.text fault.wanted)

/-- The value that a node stands for, whatever its form. Aliases are replaced by
    what they stand for. -/
def value (room : Nat) (node : Node) : Decoding Value := do
  match ← target node with
  | .scalar readings =>
    match readings.value with
    | .ok value => pure (.atom value)
    | .error cause => fail cause
  | .sequence marked items fault =>
    if marked then fail .marked else
    match room with
    | 0 => fail .tooDeep
    | room + 1 =>
      let values ← itemsFrom (value room) 0 items
      stop fault
      pure (.list values)
  | .mapping marked members ending =>
    if marked then fail .marked else
    match room with
    | 0 => fail .tooDeep
    | room + 1 =>
      let entries ← entriesOf (value room) members
      finishValue (value room) ending
      pure (.map entries)
  | .broken fault => fail (.text fault.wanted)
  | .alias _ => fail (.text .unreadable)

end Decoding

/-- Decode the root of a text. -/
def Reading.decode {α : Type} (reading : Reading) (decode : Nat → Node → Decoding α) :
    Except DecodeError α :=
  match ((decode reading.depth reading.root).run reading).run 0 with
  | .ok (value, _) => .ok value
  | .error e => .error e

end RouteTypes
