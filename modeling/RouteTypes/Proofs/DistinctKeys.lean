import RouteTypes.Document.OfValue
import RouteTypes.Proofs.SchemaTyping

/-!
# Distinct Keys

The properties of a schema that is read have distinct names.

Most maps are kept in a type that says of its keys that they are distinct. The properties
of a schema are not: a schema holds schemas in its properties, and a type cannot be nested
in itself through a map that carries a proof about its entries. So they are a list, and
that its names are distinct is a property of schemas (`Schema.Keyed`), which all schemas
have that are taken from a value of a data format (`Value.schema?_keyed`).

What such a value gives twice under one name counts once, with its last reading. Reading a
schema is a list of changes to the empty schema, so it is enough that every change keeps
the property, whichever keywords there are and in whichever order.

## Main definitions

* `Slot.All`, `OrderedMap.All`: What is true of everything in a slot or a map.
* `Schema.Keyed`: The properties of a schema and of all schemas in it have distinct names.
* `Document.Keyed`: All schemas of a document are keyed.
* `Schema.Keeps`: A change to a schema keeps it keyed.

## Theorems

* `Schema.keyed_iff`: A schema is keyed, keyword by keyword.
* `SchemaMember.change?_keeps`: Every keyword keeps a schema keyed.
* `Value.schema?_keyed`: A value that is read as a schema is read as a keyed one.
* `Value.parameter?_keyed`, `Value.requestBody?_keyed`, `Value.response?_keyed`,
  `Value.header?_keyed`: So are all schemas of the other definitions.
-/

namespace RouteTypes

/-- What stands in a slot has a property, unless it is a reference. -/
def Slot.All {α : Type} (P : α → Prop) : Slot α → Prop
  | .reference _ => True
  | .inline value => P value

/-- All values of a map have a property. -/
def OrderedMap.All {κ α : Type} (P : α → Prop) (m : OrderedMap κ α) : Prop :=
  ∀ e ∈ m.entries, P e.2

/-- The properties of the schema, and of every schema in it, have distinct names. -/
inductive Schema.Keyed : Schema → Prop where
  | of {s : Schema} (own : ((s.properties.getD []).map Prod.fst).Nodup)
      (inside : ∀ t, Slot.inline t ∈ s.slots → Keyed t) : Keyed s

/-- All schemas of the parameter are keyed. -/
def Parameter.Keyed (p : Parameter) : Prop :=
  ∀ slot ∈ p.schema, slot.All Schema.Keyed

/-- All schemas of the content are keyed. -/
def Content.Keyed (c : Content) : Prop :=
  c.All fun media => ∀ slot ∈ media.schema, slot.All Schema.Keyed

/-- All schemas of the body are keyed. -/
def RequestBody.Keyed (b : RequestBody) : Prop :=
  b.content.Keyed

/-- All schemas of the header are keyed. -/
def Header.Keyed (h : Header) : Prop :=
  ∀ slot ∈ h.schema, slot.All Schema.Keyed

/-- All schemas of the response are keyed. -/
structure Response.Keyed (r : Response) : Prop where
  content : r.content.Keyed
  headers : r.headers.All (·.All Header.Keyed)

/-- All schemas of the operation are keyed. -/
structure Operation.Keyed (o : Operation) : Prop where
  parameters : ∀ slot ∈ o.parameters, slot.All Parameter.Keyed
  requestBody : ∀ slot ∈ o.requestBody, slot.All RequestBody.Keyed
  responses : o.responses.All (·.All Response.Keyed)

/-- All schemas of the path item are keyed. -/
structure PathItem.Keyed (item : PathItem) : Prop where
  parameters : ∀ slot ∈ item.parameters, slot.All Parameter.Keyed
  operations : item.operations.All Operation.Keyed

/-- All schemas of the components are keyed. -/
structure Components.Keyed (c : Components) : Prop where
  schemas : c.schemas.All (·.All Schema.Keyed)
  parameters : c.parameters.All (·.All Parameter.Keyed)
  requestBodies : c.requestBodies.All (·.All RequestBody.Keyed)
  responses : c.responses.All (·.All Response.Keyed)
  headers : c.headers.All (·.All Header.Keyed)

/-- All schemas of the document are keyed. -/
structure Document.Keyed (d : Document) : Prop where
  paths : d.paths.All PathItem.Keyed
  components : d.components.Keyed

namespace OrderedMap

variable {κ α : Type} {P : α → Prop}

theorem all_empty : (empty : OrderedMap κ α).All P :=
  fun _ he => absurd he List.not_mem_nil

variable [DecidableEq κ]

/-- Putting a value under a name adds one entry at most: the rest were there before. -/
theorem mem_put {k : κ} {v : α} {es : List (κ × α)} {e : κ × α} (h : e ∈ put k v es) :
    e = (k, v) ∨ e ∈ es := by
  induction es with
  | nil => exact Or.inl (List.mem_singleton.mp h)
  | cons first rest ih =>
      rcases first with ⟨k', v'⟩
      -- Either this entry has the name, and its value is replaced, or the search goes on.
      unfold put at h
      split at h
      · rcases List.mem_cons.mp h with h | h
        · exact Or.inl h
        · exact Or.inr (List.mem_cons_of_mem _ h)
      · rcases List.mem_cons.mp h with h | h
        · exact Or.inr (h ▸ List.mem_cons_self)
        · exact (ih h).imp_right (List.mem_cons_of_mem _)

/-- A map in which a value is set has the property when the map and the value have it. -/
theorem all_insert {m : OrderedMap κ α} (hm : m.All P) {k : κ} {v : α} (hv : P v) :
    (m.insert k v).All P := by
  intro e he
  rcases mem_put he with rfl | he
  · exact hv
  · exact hm e he

/-- So has a map in which a list of values is set, one after the other. -/
theorem all_foldl_insert {es : List (κ × α)} (h : ∀ e ∈ es, P e.2) {m : OrderedMap κ α}
    (hm : m.All P) : (es.foldl (fun m e => m.insert e.1 e.2) m).All P := by
  induction es generalizing m with
  | nil => exact hm
  | cons e es ih =>
      exact ih (fun e' he' => h e' (List.mem_cons_of_mem e he'))
        (all_insert hm (h e List.mem_cons_self))

/-- What all entries of a list have, the values of its map have. -/
theorem all_ofList {es : List (κ × α)} (h : ∀ e ∈ es, P e.2) : (ofList es).All P :=
  all_foldl_insert h all_empty

end OrderedMap

namespace Schema

/-- The names of the properties are distinct, and what stands in the slots of the schema is
    keyed, keyword by keyword. -/
structure PartsKeyed (s : Schema) : Prop where
  own : ((s.properties.getD []).map Prod.fst).Nodup
  properties : ∀ slot ∈ propertySlots (s.properties.getD []), slot.All Keyed
  additional : ∀ slot ∈ additionalSlots s.additional, slot.All Keyed
  items : ∀ slot ∈ s.items.toList, slot.All Keyed
  oneOf : ∀ slot ∈ s.oneOf.getD [], slot.All Keyed
  allOf : ∀ slot ∈ s.allOf.getD [], slot.All Keyed
  anyOf : ∀ slot ∈ s.anyOf.getD [], slot.All Keyed

/-- What stands in a slot of a keyed schema is a keyed schema or a reference. -/
theorem Keyed.slot {s : Schema} (h : s.Keyed) {slot : Slot Schema} (hslot : slot ∈ s.slots) :
    slot.All Keyed := by
  rcases h with ⟨_, hinside⟩
  cases slot with
  | reference pointer => trivial
  | inline t => exact hinside t hslot

/-- A schema is keyed exactly when its keywords are, each for itself. Changing one keyword
    then leaves one part to show. -/
theorem keyed_iff (s : Schema) : s.Keyed ↔ s.PartsKeyed := by
  constructor
  · intro h
    -- The slots of a schema are those of its keywords, in a row.
    have hslots : ∀ slot, slot ∈ s.slots → slot.All Keyed := fun slot hslot => h.slot hslot
    simp only [slots, List.mem_append] at hslots
    rcases h with ⟨hown, _⟩
    exact {
      own := hown
      properties := fun slot hs => hslots slot (by simp only [hs, true_or])
      additional := fun slot hs => hslots slot (by simp only [hs, true_or, or_true])
      items := fun slot hs => hslots slot (by simp only [hs, true_or, or_true])
      oneOf := fun slot hs => hslots slot (by simp only [hs, true_or, or_true])
      allOf := fun slot hs => hslots slot (by simp only [hs, true_or, or_true])
      anyOf := fun slot hs => hslots slot (by simp only [hs, or_true]) }
  · intro h
    refine .of h.own fun t ht => ?_
    simp only [slots, List.mem_append] at ht
    rcases ht with ((((ht | ht) | ht) | ht) | ht) | ht
    · exact h.properties _ ht
    · exact h.additional _ ht
    · exact h.items _ ht
    · exact h.oneOf _ ht
    · exact h.allOf _ ht
    · exact h.anyOf _ ht

theorem keyed_empty : ({} : Schema).Keyed :=
  .of List.nodup_nil fun _ ht => absurd ht List.not_mem_nil

/-- The change keeps the names of properties distinct. -/
def Keeps (change : Schema → Schema) : Prop :=
  ∀ s, s.Keyed → (change s).Keyed

/-- Changes that each keep a schema keyed lead from the empty schema to a keyed one. -/
theorem ofChanges_keyed {changes : List (Schema → Schema)} (h : ∀ c ∈ changes, Keeps c) :
    (ofChanges changes).Keyed := by
  -- The induction is on the changes, for any schema to start with: the first changes it.
  have hfold : ∀ s : Schema, s.Keyed → (changes.foldl (fun s change => change s) s).Keyed := by
    induction changes with
    | nil => exact fun _ hs => hs
    | cons c changes ih =>
        intro s hs
        exact ih (fun c' hc' => h c' (List.mem_cons_of_mem c hc')) _ (h c List.mem_cons_self s hs)
  exact hfold {} keyed_empty

end Schema

/-- A value that is read where null stands for nothing is what the reading gives. -/
theorem Value.exists_of_orNull {α : Type} {v : Value} {read : Unit → Option α} {x : Option α}
    (h : v.orNull read = some x) : ∀ a ∈ x, read () = some a := by
  unfold Value.orNull at h
  split at h
  · obtain rfl := Option.some.inj h
    exact fun a ha => absurd ha (by simp only [Option.mem_def, reduceCtorEq, not_false_eq_true])
  · rcases Option.map_eq_some_iff.mp h with ⟨a, ha, rfl⟩
    rintro b hb
    rw [← Option.some.inj hb]
    exact ha

namespace SchemaMember

/-- The readings of a member as parts of a schema are keyed. -/
structure Keyed (m : SchemaMember) : Prop where
  slot : ∀ slot ∈ m.slot (), slot.All Schema.Keyed
  slots : ∀ slots ∈ m.slots (), ∀ slot ∈ slots, slot.All Schema.Keyed
  properties : ∀ properties ∈ m.properties (), (properties.map Prod.fst).Nodup ∧
    ∀ p ∈ properties, p.2.All Schema.Keyed

variable {m : SchemaMember}

/-- Additional properties hold a schema at most, and it is the one the member is read as. -/
theorem additional?_keyed (hm : m.Keyed) {a : Additional Schema} (h : m.additional? = some a) :
    ∀ slot ∈ Schema.additionalSlots (some a), slot.All Schema.Keyed := by
  unfold additional? at h
  split at h
  -- A truth value in place of a schema: there is no slot.
  · obtain rfl := Option.some.inj h
    exact fun slot hslot => absurd hslot List.not_mem_nil
  · rcases Option.map_eq_some_iff.mp h with ⟨slot, hslot, rfl⟩
    intro slot' hslot'
    rw [List.mem_singleton.mp hslot']
    exact hm.slot slot hslot

/-- A list of schemas that may be null holds the schemas the member is read as. -/
theorem optional_slots_keyed (hm : m.Keyed) {x : Option (List (Slot Schema))}
    (h : m.value.orNull m.slots = some x) : ∀ slot ∈ x.getD [], slot.All Schema.Keyed := by
  have hx := Value.exists_of_orNull h
  cases x with
  | none => exact fun slot hslot => absurd hslot List.not_mem_nil
  | some slots => exact hm.slots slots (hx slots rfl)

/-- Every keyword keeps the names of properties distinct. -/
theorem change?_keeps (hm : m.Keyed) {name : String} {change : Schema → Schema}
    (h : m.change? name = some change) : Schema.Keeps change := by
  intro s hs
  -- Part by part: a keyword changes its own, and the others are those of the schema before.
  rw [Schema.keyed_iff] at hs ⊢
  unfold change? at h
  split at h
  all_goals
    try rcases Option.map_eq_some_iff.mp h with ⟨x, hx, rfl⟩
  -- `properties`, the one keyword with names to keep distinct.
  case h_6 =>
    have hproperties := Value.exists_of_orNull hx
    cases x with
    | none =>
        exact { hs with
          own := List.nodup_nil
          properties := fun slot hslot => absurd hslot List.not_mem_nil }
    | some properties =>
        rcases hm.properties properties (hproperties properties rfl) with ⟨hown, hslots⟩
        refine { hs with own := hown, properties := fun slot hslot => ?_ }
        rcases List.mem_map.mp hslot with ⟨p, hp, rfl⟩
        exact hslots p hp
  -- `additionalProperties`.
  case h_8 =>
    have hadditional := Value.exists_of_orNull hx
    refine { hs with additional := ?_ }
    cases x with
    | none => exact fun slot hslot => absurd hslot List.not_mem_nil
    | some a => exact additional?_keyed hm (hadditional a rfl)
  -- `items`.
  case h_9 =>
    have hitems := Value.exists_of_orNull hx
    refine { hs with items := fun slot hslot => ?_ }
    exact hm.slot slot (hitems slot (Option.mem_toList.mp hslot))
  -- `oneOf`, `allOf` and `anyOf`, which hold lists.
  case h_11 => exact { hs with oneOf := optional_slots_keyed hm hx }
  case h_12 => exact { hs with allOf := optional_slots_keyed hm hx }
  case h_13 => exact { hs with anyOf := optional_slots_keyed hm hx }
  -- A name that is no keyword leaves the schema as it is.
  case h_14 =>
    obtain rfl := Option.some.inj h
    exact hs
  -- The other keywords hold no schemas.
  all_goals exact { hs with }

end SchemaMember

/-- Keeping the last value of every name drops values, and adds none. -/
theorem distinctEntries_all {α : Type} {P : α → Prop} {entries : List (String × α)}
    (h : ∀ e ∈ entries, P e.2) : ∀ e ∈ distinctEntries entries, P e.2 :=
  OrderedMap.all_ofList h

/-- A slot holds the definition the value is read as, unless the value is a reference. -/
theorem Slot.all_of_choose {α : Type} {P : α → Prop} {reference : Option String}
    {definition : Unit → Option α} (hdefinition : ∀ a, definition () = some a → P a)
    {slot : Slot α} (h : Slot.choose reference definition = some slot) : slot.All P := by
  unfold Slot.choose at h
  split at h
  · rw [← Option.some.inj h]
    trivial
  · rcases Option.map_eq_some_iff.mp h with ⟨a, ha, rfl⟩
    exact hdefinition a ha

section Values

/-- The member of a schema has keyed readings when its value has. -/
theorem SchemaMember.keyed_of {value : Value}
    (hschema : ∀ s, value.schema? = some s → s.Keyed)
    (hslots : ∀ slots, value.schemaSlots? = some slots → ∀ slot ∈ slots, slot.All Schema.Keyed)
    (hproperties : ∀ properties, value.properties? = some properties →
      (properties.map Prod.fst).Nodup ∧ ∀ p ∈ properties, p.2.All Schema.Keyed) :
    SchemaMember.Keyed {
      value
      slot := fun _ => Slot.choose value.reference? fun _ => value.schema?
      slots := fun _ => value.schemaSlots?
      properties := fun _ => value.properties? } where
  slot slot hslot := by
    have hchosen : Slot.choose value.reference? (fun _ => value.schema?) = some slot := hslot
    exact Slot.all_of_choose hschema hchosen
  slots slots h := hslots slots h
  properties properties h := hproperties properties h

-- One theorem for each function of the family that reads a schema, along its recursion.
mutual

/-- A value that is read as a schema is read as a keyed one. -/
theorem Value.schema?_keyed : ∀ (v : Value) (s : Schema), v.schema? = some s → s.Keyed
  | .atom _, _, h => absurd h (by simp only [Value.schema?, reduceCtorEq, not_false_eq_true])
  | .list items, s, h => by
      unfold Value.schema? at h
      split at h
      · rcases Option.map_eq_some_iff.mp h with ⟨changes, hchanges, rfl⟩
        exact Schema.ofChanges_keyed (elementChanges?_keep items _ changes hchanges)
      · exact absurd h (by simp only [reduceCtorEq, not_false_eq_true])
  | .map entries, s, h => by
      unfold Value.schema? at h
      split at h
      · rcases Option.map_eq_some_iff.mp h with ⟨changes, hchanges, rfl⟩
        exact Schema.ofChanges_keyed (entryChanges?_keep entries changes hchanges)
      · exact absurd h (by simp only [reduceCtorEq, not_false_eq_true])
termination_by structural v => v

/-- A value that is read as a list of schemas is read as keyed ones. -/
theorem Value.schemaSlots?_keyed : ∀ (v : Value) (slots : List (Slot Schema)),
    v.schemaSlots? = some slots → ∀ slot ∈ slots, slot.All Schema.Keyed
  | .atom _, _, h => absurd h (by simp only [Value.schemaSlots?, reduceCtorEq, not_false_eq_true])
  | .list items, slots, h => itemSlots?_keyed items slots h
  | .map _, _, h => absurd h (by simp only [Value.schemaSlots?, reduceCtorEq, not_false_eq_true])
termination_by structural v => v

/-- A value that is read as properties is read as ones with distinct names and keyed schemas.
    -/
theorem Value.properties?_keyed : ∀ (v : Value) (properties : List (String × Slot Schema)),
    v.properties? = some properties → (properties.map Prod.fst).Nodup ∧
      ∀ p ∈ properties, p.2.All Schema.Keyed
  | .atom _, _, h => absurd h (by simp only [Value.properties?, reduceCtorEq, not_false_eq_true])
  | .list _, _, h => absurd h (by simp only [Value.properties?, reduceCtorEq, not_false_eq_true])
  | .map entries, properties, h => by
      unfold Value.properties? at h
      rcases Option.map_eq_some_iff.mp h with ⟨slots, hslots, rfl⟩
      -- What is given twice under one name is kept once.
      exact ⟨(OrderedMap.ofList slots).nodup,
        distinctEntries_all (entrySlots?_keyed entries slots hslots)⟩
termination_by structural v => v

/-- The items of a list are read as keyed schemas, each for itself. -/
theorem itemSlots?_keyed : ∀ (items : List Value) (slots : List (Slot Schema)),
    itemSlots? items = some slots → ∀ slot ∈ slots, slot.All Schema.Keyed
  | [], slots, h => by
      unfold itemSlots? at h
      rw [← Option.some.inj h]
      exact fun slot hslot => absurd hslot List.not_mem_nil
  | item :: rest, slots, h => by
      unfold itemSlots? at h
      split at h
      · exact absurd h (by simp only [reduceCtorEq, not_false_eq_true])
      · next first hfirst =>
          rcases Option.map_eq_some_iff.mp h with ⟨others, hothers, rfl⟩
          intro slot hslot
          rcases List.mem_cons.mp hslot with rfl | hslot
          · exact Slot.all_of_choose (fun s hs => Value.schema?_keyed item s hs) hfirst
          · exact itemSlots?_keyed rest others hothers slot hslot
termination_by structural items => items

/-- The entries of a map are read as keyed schemas, before equal names are put together. -/
theorem entrySlots?_keyed : ∀ (entries : List (Value × Value))
    (slots : List (String × Slot Schema)), entrySlots? entries = some slots →
      ∀ p ∈ slots, p.2.All Schema.Keyed
  | [], slots, h => by
      unfold entrySlots? at h
      rw [← Option.some.inj h]
      exact fun slot hslot => absurd hslot List.not_mem_nil
  | (key, value) :: rest, slots, h => by
      unfold entrySlots? at h
      split at h
      -- Name and schema are both read, so the entry gives a property.
      · next name first _ hfirst =>
          rcases Option.map_eq_some_iff.mp h with ⟨others, hothers, rfl⟩
          intro p hp
          rcases List.mem_cons.mp hp with rfl | hp
          · exact Slot.all_of_choose (fun s hs => Value.schema?_keyed value s hs) hfirst
          · exact entrySlots?_keyed rest others hothers p hp
      · exact absurd h (by simp only [reduceCtorEq, not_false_eq_true])
termination_by structural entries => entries

/-- The entries of a map are read as changes that keep a schema keyed. -/
theorem entryChanges?_keep : ∀ (entries : List (Value × Value))
    (changes : List (Schema → Schema)), entryChanges? entries = some changes →
      ∀ c ∈ changes, Schema.Keeps c
  | [], changes, h => by
      unfold entryChanges? at h
      rw [← Option.some.inj h]
      exact fun c hc => absurd hc List.not_mem_nil
  | (key, value) :: rest, changes, h => by
      unfold entryChanges? at h
      dsimp only at h
      split at h
      · exact absurd h (by simp only [reduceCtorEq, not_false_eq_true])
      · next change hchange =>
          rcases Option.map_eq_some_iff.mp h with ⟨others, hothers, rfl⟩
          intro c hc
          rcases List.mem_cons.mp hc with rfl | hc
          -- The value stands below the map, so all its readings are keyed by the recursion.
          · exact SchemaMember.change?_keeps (SchemaMember.keyed_of (Value.schema?_keyed value)
              (Value.schemaSlots?_keyed value) (Value.properties?_keyed value)) hchange
          · exact entryChanges?_keep rest others hothers c hc
termination_by structural entries => entries

/-- So are the items of a list, which are given their names by their positions. -/
theorem elementChanges?_keep : ∀ (items : List Value) (names : List String)
    (changes : List (Schema → Schema)), elementChanges? names items = some changes →
      ∀ c ∈ changes, Schema.Keeps c
  | [], names, changes, h => by
      cases names <;> (
        unfold elementChanges? at h
        rw [← Option.some.inj h]
        exact fun c hc => absurd hc List.not_mem_nil)
  -- There may be fewer names than items: the rest of the list is not read.
  | value :: rest, names, changes, h => by
      cases names with
      | nil =>
          unfold elementChanges? at h
          rw [← Option.some.inj h]
          exact fun c hc => absurd hc List.not_mem_nil
      | cons name names =>
          unfold elementChanges? at h
          dsimp only at h
          split at h
          · exact absurd h (by simp only [reduceCtorEq, not_false_eq_true])
          · next change hchange =>
              rcases Option.map_eq_some_iff.mp h with ⟨others, hothers, rfl⟩
              intro c hc
              rcases List.mem_cons.mp hc with rfl | hc
              · exact SchemaMember.change?_keeps (SchemaMember.keyed_of
                  (Value.schema?_keyed value) (Value.schemaSlots?_keyed value)
                  (Value.properties?_keyed value)) hchange
              · exact elementChanges?_keep rest names others hothers c hc
termination_by structural items => items

end

namespace Value

/-- A value read as a slot gives a reference or what the definition is read as. -/
theorem slot?_all {α : Type} {P : α → Prop} {definition : Value → Option α}
    (hdefinition : ∀ v a, definition v = some a → P a) {v : Value} {slot : Slot α}
    (h : v.slot? definition = some slot) : slot.All P :=
  Slot.all_of_choose (fun a ha => hdefinition v a ha) h

/-- An optional field is absent, null, or what its value is read as. -/
theorem optionalField?_all {α : Type} {P : α → Prop} {read : Value → Option α}
    (hread : ∀ v a, read v = some a → P a) {name : String} {members : List (String × Value)}
    {x : Option α} (h : optionalField? read name members = some x) : ∀ a ∈ x, P a := by
  unfold optionalField? at h
  split at h
  · obtain rfl := Option.some.inj h
    exact fun a ha => absurd ha (by simp only [Option.mem_def, reduceCtorEq, not_false_eq_true])
  · obtain rfl := Option.some.inj h
    exact fun a ha => absurd ha (by simp only [Option.mem_def, reduceCtorEq, not_false_eq_true])
  · next value _ _ =>
      rcases Option.map_eq_some_iff.mp h with ⟨a, ha, rfl⟩
      intro b hb
      rw [← Option.some.inj hb]
      exact hread value a ha

/-- A field with a default is the default or what its value is read as. -/
theorem defaultedField?_all {α : Type} {P : α → Prop} {read : Value → Option α} {default : α}
    (hread : ∀ v a, read v = some a → P a) (hdefault : P default) {name : String}
    {members : List (String × Value)} {x : α}
    (h : defaultedField? read default name members = some x) : P x := by
  unfold defaultedField? at h
  split at h
  · exact Option.some.inj h ▸ hdefault
  · next value _ => exact hread value x h

/-- What a list is read as comes from one of its items. -/
theorem exists_of_mem_mapM {α β : Type} {f : α → Option β} {xs : List α} {ys : List β}
    (h : xs.mapM f = some ys) {y : β} (hy : y ∈ ys) : ∃ x ∈ xs, f x = some y := by
  induction xs generalizing ys with
  | nil =>
      rw [List.mapM_nil, Option.pure_def, Option.some.injEq] at h
      exact absurd (h ▸ hy) List.not_mem_nil
  | cons x xs ih =>
      simp only [List.mapM_cons, Option.bind_eq_bind, Option.pure_def, Option.bind_eq_some_iff,
        Option.some.injEq] at h
      rcases h with ⟨first, hfirst, rest, hrest, rfl⟩
      rcases List.mem_cons.mp hy with rfl | hy
      · exact ⟨x, List.mem_cons_self, hfirst⟩
      · rcases ih hrest hy with ⟨x', hx', hyields⟩
        exact ⟨x', List.mem_cons_of_mem x hx', hyields⟩

/-- The values of a map are what the values of its entries are read as. -/
theorem orderedMap?_all {α : Type} {P : α → Prop} {read : Value → Option α}
    (hread : ∀ v a, read v = some a → P a) (v : Value) (m : OrderedMap String α)
    (h : orderedMap? read v = some m) : m.All P := by
  unfold orderedMap? at h
  split at h
  · next entries =>
      simp only [Option.bind_eq_bind, Option.pure_def, Option.bind_eq_some_iff,
        Option.some.injEq] at h
      rcases h with ⟨pairs, hpairs, rfl⟩
      refine OrderedMap.all_ofList fun pair hpair => ?_
      rcases exists_of_mem_mapM hpairs hpair with ⟨e, _, he⟩
      simp only [Option.bind_eq_some_iff, Option.some.injEq] at he
      rcases he with ⟨name, _, a, ha, rfl⟩
      exact hread e.2 a ha
  · exact absurd h (by simp only [reduceCtorEq, not_false_eq_true])

/-- A value read in the place of a schema is a reference or a keyed schema. -/
theorem schemaSlot?_keyed (v : Value) (slot : Slot Schema) (h : v.schemaSlot? = some slot) :
    slot.All Schema.Keyed :=
  slot?_all schema?_keyed h

/-- A parameter is read with a keyed schema. -/
theorem parameter?_keyed (v : Value) (p : Parameter) (h : v.parameter? = some p) : p.Keyed := by
  simp only [parameter?, Option.bind_eq_bind, Option.pure_def, Option.bind_eq_some_iff,
    Option.some.injEq] at h
  -- Of its fields only the schema matters; the others hold no property names.
  rcases h with ⟨members, _, _, _, _, _, _, _, _, _, _, _, _, _, schema, hschema, rfl⟩
  exact optionalField?_all schemaSlot?_keyed hschema

theorem content?_keyed (v : Value) (c : Content) (h : v.content? = some c) : c.Keyed := by
  refine orderedMap?_all (fun v media hmedia => ?_) v c h
  simp only [mediaType?, Option.bind_eq_bind, Option.pure_def, Option.bind_eq_some_iff,
    Option.some.injEq] at hmedia
  rcases hmedia with ⟨members, _, schema, hschema, rfl⟩
  exact optionalField?_all schemaSlot?_keyed hschema

theorem requestBody?_keyed (v : Value) (b : RequestBody) (h : v.requestBody? = some b) :
    b.Keyed := by
  simp only [requestBody?, Option.bind_eq_bind, Option.pure_def, Option.bind_eq_some_iff,
    Option.some.injEq] at h
  rcases h with ⟨members, _, _, _, _, _, content, hcontent, rfl⟩
  exact defaultedField?_all content?_keyed OrderedMap.all_empty hcontent

theorem header?_keyed (v : Value) (x : Header) (h : v.header? = some x) : x.Keyed := by
  simp only [header?, Option.bind_eq_bind, Option.pure_def, Option.bind_eq_some_iff,
    Option.some.injEq] at h
  rcases h with ⟨members, _, _, _, _, _, schema, hschema, rfl⟩
  exact optionalField?_all schemaSlot?_keyed hschema

/-- A response is read with keyed schemas, in its content and in its headers. -/
theorem response?_keyed (v : Value) (r : Response) (h : v.response? = some r) : r.Keyed := by
  simp only [response?, Option.bind_eq_bind, Option.pure_def, Option.bind_eq_some_iff,
    Option.some.injEq] at h
  rcases h with ⟨members, _, _, _, content, hcontent, headers, hheaders, rfl⟩
  exact {
    content := defaultedField?_all content?_keyed OrderedMap.all_empty hcontent
    headers := defaultedField?_all
      (orderedMap?_all fun _ _ hslot => slot?_all header?_keyed hslot)
      OrderedMap.all_empty hheaders }

end Value

end Values

end RouteTypes
