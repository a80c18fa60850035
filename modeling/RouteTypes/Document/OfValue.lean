import RouteTypes.Document.Basic
import RouteTypes.Document.Forms
import RouteTypes.Number.Width

/-!
# Definitions from Values

Schemas, parameters, bodies, responses and headers as values of a data format
describe them.

What stands in a slot can be a reference or an inline definition, and only trying
tells which. A value that can be read as a reference is one, whatever else it
holds; otherwise it has to be a definition. So nothing but success or failure is
known about a slot, and there are no causes here.

Schemas hold schemas. A member of a schema is read as a change to the schema around
it, with the readings of its value as functions, so that only the one its name asks
for is made.

## Main definitions

* `Value.schema?`: A schema.
* `Value.slot?`: What stands in a slot.
* `Value.parameter?`, `Value.requestBody?`, `Value.response?`, `Value.header?`: The
  other definitions.
-/

namespace RouteTypes

namespace Value

/-- The pointer of a reference. -/
def reference? (v : Value) : Option String := do
  let members ← v.record? Forms.reference
  (← members.lookup "$ref").text?

/-- The elements of a list. -/
def list? : Value → Option (List Value)
  | .list items => some items
  | _ => none

/-- The texts of a list of texts. -/
def texts? (v : Value) : Option (List String) := do
  (← v.list?).mapM text?

/-- The value of a `type` keyword. -/
def typeSpec? (v : Value) : Option TypeSpec :=
  match v.text? with
  | some name => some (.single name)
  | none => v.texts?.map .multiple

/-- A value of an enumeration. A whole number that cannot be kept with a sign becomes a
    floating-point number. -/
def enumMember? : Value → Option EnumMember
  | .atom .null => some .null
  | .atom (.boolean value) => some (.boolean value)
  | .atom (.natural value) =>
    some (if Width.fitsSigned 64 value then .integer value else .float (.ofRatio false value 1))
  | .atom (.signed value) => some (.integer value)
  | .atom (.float value) => some (.float value)
  | .atom (.string text) => some (.string text)
  | .list _ | .map _ => none

/-- The values of an enumeration. -/
def enumMembers? (v : Value) : Option (List EnumMember) := do
  (← v.list?).mapM enumMember?

/-- A reading that is not made for a null. -/
def orNull {α : Type} (v : Value) (read : Unit → Option α) : Option (Option α) :=
  match v with
  | .atom .null => some none
  | _ => (read ()).map some

end Value

/-- What stands in a slot: a reference if it can be read as one, else an inline
    definition. -/
def Slot.choose {α : Type} (reference : Option String) (definition : Unit → Option α) :
    Option (Slot α) :=
  match reference with
  | some pointer => some (.reference pointer)
  | none => (definition ()).map .inline

/-- What stands in a slot. -/
def Value.slot? {α : Type} (definition : Value → Option α) (v : Value) : Option (Slot α) :=
  Slot.choose v.reference? fun _ => definition v

/-- The value of a member of a schema, with its readings as parts of a schema. -/
structure SchemaMember where
  value : Value
  slot : Unit → Option (Slot Schema)
  slots : Unit → Option (List (Slot Schema))
  properties : Unit → Option (List (String × Slot Schema))

namespace SchemaMember

/-- The value of `additionalProperties`. -/
def additional? (m : SchemaMember) : Option (Additional Schema) :=
  match m.value.boolean? with
  | some yes => some (.allowed yes)
  | none => (m.slot ()).map .typed

/-- The keyword of a name changes a schema. -/
def change? (m : SchemaMember) (name : String) : Option (Schema → Schema) :=
  match name with
  | "type" => (m.value.orNull fun _ => m.value.typeSpec?).map fun x s => { s with type := x }
  | "format" => (m.value.orNull fun _ => m.value.text?).map fun x s => { s with format := x }
  | "nullable" => m.value.boolean?.map fun x s => { s with nullable := x }
  | "description" =>
    (m.value.orNull fun _ => m.value.text?).map fun x s => { s with description := x }
  | "deprecated" => m.value.boolean?.map fun x s => { s with deprecated := x }
  | "properties" => (m.value.orNull m.properties).map fun x s => { s with properties := x }
  | "required" => m.value.texts?.map fun x s => { s with required := x }
  | "additionalProperties" =>
    (m.value.orNull fun _ => m.additional?).map fun x s => { s with additional := x }
  | "items" => (m.value.orNull m.slot).map fun x s => { s with items := x }
  | "enum" => (m.value.orNull fun _ => m.value.enumMembers?).map fun x s => { s with enum := x }
  | "oneOf" => (m.value.orNull m.slots).map fun x s => { s with oneOf := x }
  | "allOf" => (m.value.orNull m.slots).map fun x s => { s with allOf := x }
  | "anyOf" => (m.value.orNull m.slots).map fun x s => { s with anyOf := x }
  | _ => some id

end SchemaMember

/-- The schema that changes make of an empty one. -/
def Schema.ofChanges (changes : List (Schema → Schema)) : Schema :=
  changes.foldl (fun s change => change s) {}

/-- The entries of a map with text keys, each key once with its last value. -/
def distinctEntries {α : Type} (entries : List (String × α)) : List (String × α) :=
  (OrderedMap.ofList entries).entries

mutual

/-- A schema. -/
def Value.schema? : Value → Option Schema
  | .atom _ => none
  | .list items =>
    if Forms.schema.fits items.length then
      (elementChanges? Forms.schema.names items).map Schema.ofChanges
    else none
  | .map entries =>
    if (Forms.schema.members? entries).isSome then
      (entryChanges? entries).map Schema.ofChanges
    else none
termination_by structural v => v

/-- The slots of a list. -/
def Value.schemaSlots? : Value → Option (List (Slot Schema))
  | .list items => itemSlots? items
  | .atom _ | .map _ => none
termination_by structural v => v

/-- The properties of a map, in their order. -/
def Value.properties? : Value → Option (List (String × Slot Schema))
  | .map entries => (entrySlots? entries).map distinctEntries
  | .atom _ | .list _ => none
termination_by structural v => v

/-- What stands in the slots of a list. -/
def itemSlots? : List Value → Option (List (Slot Schema))
  | [] => some []
  | item :: rest =>
    match Slot.choose item.reference? fun _ => item.schema? with
    | none => none
    | some slot => (itemSlots? rest).map (slot :: ·)
termination_by structural items => items

/-- What stands in the slots of a map with text keys. -/
def entrySlots? : List (Value × Value) → Option (List (String × Slot Schema))
  | [] => some []
  | (key, value) :: rest =>
    match key.text?, Slot.choose value.reference? fun _ => value.schema? with
    | some name, some slot => (entrySlots? rest).map ((name, slot) :: ·)
    | _, _ => none
termination_by structural entries => entries

/-- What the entries of a map change. -/
def entryChanges? : List (Value × Value) → Option (List (Schema → Schema))
  | [] => some []
  | (key, value) :: rest =>
    let m : SchemaMember := {
      value
      slot := fun _ => Slot.choose value.reference? fun _ => value.schema?
      slots := fun _ => value.schemaSlots?
      properties := fun _ => value.properties? }
    match m.change? (((Forms.schema.fieldOf key).join).getD "") with
    | none => none
    | some change => (entryChanges? rest).map (change :: ·)
termination_by structural entries => entries

/-- What the elements of a list change, by the names of the keywords. -/
def elementChanges? : List String → List Value → Option (List (Schema → Schema))
  | name :: names, value :: rest =>
    let m : SchemaMember := {
      value
      slot := fun _ => Slot.choose value.reference? fun _ => value.schema?
      slots := fun _ => value.schemaSlots?
      properties := fun _ => value.properties? }
    match m.change? name with
    | none => none
    | some change => (elementChanges? names rest).map (change :: ·)
  | _, _ => some []
termination_by structural _ items => items

end

namespace Value

/-- What stands in the slot of a schema. -/
def schemaSlot? (v : Value) : Option (Slot Schema) :=
  v.slot? schema?

/-- A map with text keys. -/
def orderedMap? {α : Type} (read : Value → Option α) : Value → Option (OrderedMap String α)
  | .map entries => do
    let pairs ← entries.mapM fun entry => do
      let name ← entry.1.text?
      let value ← read entry.2
      pure (name, value)
    pure (.ofList pairs)
  | _ => none

/-- The location of a parameter: its name, or a map from its name or number to
    null. -/
def location? : Value → Option Location
  | .atom (.string name) => Location.ofName? name
  | .map [(.atom (.string name), .atom .null)] => Location.ofName? name
  | .map [(.atom (.natural position), .atom .null)] => Location.all[position]?
  | _ => none

/-- A parameter. -/
def parameter? (v : Value) : Option Parameter := do
  let members ← v.record? Forms.parameter
  pure {
    name := ← (← members.lookup "name").text?
    location := ← (← members.lookup "in").location?
    description := ← optionalField? text? "description" members
    required := ← optionalField? boolean? "required" members
    schema := ← optionalField? schemaSlot? "schema" members }

/-- The content of a media type. -/
def mediaType? (v : Value) : Option MediaType := do
  let members ← v.record? Forms.mediaType
  pure { schema := ← optionalField? schemaSlot? "schema" members }

/-- Contents by media type. -/
def content? : Value → Option Content :=
  orderedMap? mediaType?

/-- A request body. -/
def requestBody? (v : Value) : Option RequestBody := do
  let members ← v.record? Forms.requestBody
  pure {
    description := ← optionalField? text? "description" members
    required := ← optionalField? boolean? "required" members
    content := ← defaultedField? content? .empty "content" members }

/-- A header. -/
def header? (v : Value) : Option Header := do
  let members ← v.record? Forms.header
  pure {
    description := ← optionalField? text? "description" members
    required := ← optionalField? boolean? "required" members
    schema := ← optionalField? schemaSlot? "schema" members }

/-- A response. -/
def response? (v : Value) : Option Response := do
  let members ← v.record? Forms.response
  pure {
    description := ← optionalField? text? "description" members
    content := ← defaultedField? content? .empty "content" members
    headers := ← defaultedField? (orderedMap? (slot? header?)) .empty "headers" members }

end Value

end RouteTypes
