import RouteTypes.Proofs.SchemaCorrespondence

/-!
# Corresponding Documents

Documents that are the same except for their schemas.

Two documents are alike when they differ in their inline schemas at most, and each schema
of one is related to the schema at the same place of the other. All places count: shared
definitions, parameters of paths and operations, bodies, responses and headers, and within
them the schemas inside of schemas.

Documents that are alike have the same keys everywhere, so the same references lead
somewhere in them, and they lead to definitions that are alike again (`follow_matches`).
The relation between schemas is given, and each part of a document has a relation of its
own made from it.

## Main definitions

* `OrderedMap.Alike`: Two maps with the same keys and related values.
* `Parameter.Alike`, `RequestBody.Alike`, `Response.Alike`, `Operation.Alike`: Two parts of
  documents that differ in related schemas at most.
* `Document.Alike`: Two documents that do.
* `Document.mapSchemas`: A document with another schema in place of each.

## Theorems

* `Document.Alike.refl`: Every document is like itself.
* `Document.alike_mapSchemas`: It is like the document with other schemas in it.
* `Components.Alike.contains_eq`, `Components.Alike.entryKeys_eq`: The keys are the same.
* `follow_matches`: References lead to definitions that are alike.
-/

namespace RouteTypes

/-- Two maps with the same keys in the same order, and related values. -/
def OrderedMap.Alike {κ α β : Type} (R : α → β → Prop) (m : OrderedMap κ α)
    (m' : OrderedMap κ β) : Prop :=
  List.Forall₂ (SameKey R) m.entries m'.entries

section Maps

variable {κ α β γ δ : Type} {R : α → β → Prop}

/-- The first elements of two lists that pass a test, when related elements pass it
    alike. -/
theorem rel_find? {p : α → Bool} {q : β → Bool} (hpq : ∀ a b, R a b → p a = q b) {xs : List α}
    {ys : List β} (h : List.Forall₂ R xs ys) : Option.Rel R (xs.find? p) (ys.find? q) := by
  induction h with
  | nil => exact .none
  -- Related elements pass the test alike, so the search stops at the same place in both.
  | @cons a b _ _ hab _ ih =>
      rw [List.find?_cons, List.find?_cons, ← hpq a b hab]
      cases p a with
      | true => exact .some hab
      | false => exact ih

/-- What is found first in two lists, when the same is looked for in related elements. -/
theorem rel_findSome? {S : γ → δ → Prop} {f : α → Option γ} {g : β → Option δ}
    (hfg : ∀ a b, R a b → Option.Rel S (f a) (g b)) {xs : List α} {ys : List β}
    (h : List.Forall₂ R xs ys) : Option.Rel S (xs.findSome? f) (ys.findSome? g) := by
  induction h with
  | nil => exact .none
  | @cons a b _ _ hab _ ih =>
      have hfound := hfg a b hab
      rw [List.findSome?_cons, List.findSome?_cons]
      generalize f a = c at hfound ⊢
      generalize g b = d at hfound ⊢
      cases hfound with
      | some hcd => exact .some hcd
      | none => exact ih

/-- The first elements of related lists are related, or both lists are empty. -/
theorem rel_head? {xs : List α} {ys : List β} (h : List.Forall₂ R xs ys) :
    Option.Rel R xs.head? ys.head? := by
  cases h with
  | nil => exact .none
  | cons hab _ => exact .some hab

/-- Entries that are alike have the same key. -/
theorem SameKey.key_eq {e : κ × α} {e' : κ × β} (h : SameKey R e e') : e.1 = e'.1 := by
  cases h
  rfl

/-- Entries that are alike have related values. -/
theorem SameKey.value {e : κ × α} {e' : κ × β} (h : SameKey R e e') : R e.2 e'.2 := by
  cases h with
  | mk _ h => exact h

/-- The values of a key in two lists of entries. -/
theorem OrderedMap.rel_find [DecidableEq κ] (k : κ) {es : List (κ × α)} {es' : List (κ × β)}
    (h : List.Forall₂ (SameKey R) es es') : Option.Rel R (find? k es) (find? k es') := by
  induction h with
  | nil => exact .none
  | cons he _ ih =>
      rcases he with ⟨k', he⟩
      unfold find?
      split
      · exact .some he
      · exact ih

namespace OrderedMap.Alike

variable {m : OrderedMap κ α} {m' : OrderedMap κ β}

/-- Maps that are alike have the same keys in the same order. -/
theorem keys_eq (h : m.Alike R m') : m.keys = m'.keys := by
  unfold keys
  rw [← List.forall₂_eq_eq_eq, List.forall₂_map_left_iff, List.forall₂_map_right_iff]
  exact h.imp fun _ _ he => he.key_eq

/-- The values of maps that are alike are related one by one. -/
theorem values (h : m.Alike R m') : List.Forall₂ R m.values m'.values := by
  unfold OrderedMap.values
  rw [List.forall₂_map_left_iff, List.forall₂_map_right_iff]
  exact h.imp fun _ _ he => he.value

/-- Under one key there are related values, or none in both maps. -/
theorem get? [DecidableEq κ] (h : m.Alike R m') (k : κ) :
    Option.Rel R (m.get? k) (m'.get? k) :=
  rel_find k h

/-- What one of the maps has a value for the other has one for. -/
theorem contains_eq [DecidableEq κ] (h : m.Alike R m') (k : κ) :
    m.contains k = m'.contains k :=
  isSome_eq_of_rel (h.get? k)

end OrderedMap.Alike

/-- Every map is like itself when every value is related to itself. -/
theorem OrderedMap.Alike.refl {R : α → α → Prop} (h : ∀ a, R a a) (m : OrderedMap κ α) :
    m.Alike R m :=
  List.forall₂_same.mpr fun e _ => SameKey.refl h e

end Maps

section Relations

variable (R : Schema → Schema → Prop)

/-- Two parameters that differ in related schemas at most. -/
structure Parameter.Alike (p p' : Parameter) : Prop where
  name : p.name = p'.name
  location : p.location = p'.location
  description : p.description = p'.description
  required : p.required = p'.required
  schema : Option.Rel (Slot.Alike R) p.schema p'.schema

/-- Two media types with related schemas. -/
structure MediaType.Alike (m m' : MediaType) : Prop where
  schema : Option.Rel (Slot.Alike R) m.schema m'.schema

/-- Two request bodies that differ in related schemas at most. -/
structure RequestBody.Alike (b b' : RequestBody) : Prop where
  description : b.description = b'.description
  required : b.required = b'.required
  content : b.content.Alike (MediaType.Alike R) b'.content

/-- Two headers that differ in related schemas at most. -/
structure Header.Alike (h h' : Header) : Prop where
  description : h.description = h'.description
  required : h.required = h'.required
  schema : Option.Rel (Slot.Alike R) h.schema h'.schema

/-- Two responses that differ in related schemas at most. -/
structure Response.Alike (r r' : Response) : Prop where
  description : r.description = r'.description
  content : r.content.Alike (MediaType.Alike R) r'.content
  headers : r.headers.Alike (Slot.Alike (Header.Alike R)) r'.headers

/-- Two operations that differ in related schemas at most. -/
structure Operation.Alike (o o' : Operation) : Prop where
  operationId : o.operationId = o'.operationId
  description : o.description = o'.description
  deprecated : o.deprecated = o'.deprecated
  parameters : List.Forall₂ (Slot.Alike (Parameter.Alike R)) o.parameters o'.parameters
  requestBody : Option.Rel (Slot.Alike (RequestBody.Alike R)) o.requestBody o'.requestBody
  responses : o.responses.Alike (Slot.Alike (Response.Alike R)) o'.responses

/-- Two path items that differ in related schemas at most. -/
structure PathItem.Alike (i i' : PathItem) : Prop where
  parameters : List.Forall₂ (Slot.Alike (Parameter.Alike R)) i.parameters i'.parameters
  operations : i.operations.Alike (Operation.Alike R) i'.operations

/-- Shared definitions that differ in related schemas at most. -/
structure Components.Alike (c c' : Components) : Prop where
  schemas : c.schemas.Alike (Slot.Alike R) c'.schemas
  parameters : c.parameters.Alike (Slot.Alike (Parameter.Alike R)) c'.parameters
  requestBodies : c.requestBodies.Alike (Slot.Alike (RequestBody.Alike R)) c'.requestBodies
  responses : c.responses.Alike (Slot.Alike (Response.Alike R)) c'.responses
  headers : c.headers.Alike (Slot.Alike (Header.Alike R)) c'.headers

/-- Two documents that differ in related schemas at most. -/
structure Document.Alike (d d' : Document) : Prop where
  openapi : d.openapi = d'.openapi
  swagger : d.swagger = d'.swagger
  servers : d.servers = d'.servers
  paths : d.paths.Alike (PathItem.Alike R) d'.paths
  components : d.components.Alike R d'.components

end Relations

section Reflexivity

variable {R : Schema → Schema → Prop} (h : ∀ s, R s s)
include h

/-- A parameter is like itself. Only its schema is not compared for equality. -/
theorem Parameter.Alike.refl (p : Parameter) : p.Alike R p :=
  ⟨rfl, rfl, rfl, rfl, optionRel_refl (Slot.Alike.refl h) _⟩

theorem MediaType.Alike.refl (m : MediaType) : m.Alike R m :=
  ⟨optionRel_refl (Slot.Alike.refl h) _⟩

theorem RequestBody.Alike.refl (b : RequestBody) : b.Alike R b :=
  ⟨rfl, rfl, .refl (MediaType.Alike.refl h) _⟩

theorem Header.Alike.refl (header : Header) : header.Alike R header :=
  ⟨rfl, rfl, optionRel_refl (Slot.Alike.refl h) _⟩

theorem Response.Alike.refl (r : Response) : r.Alike R r :=
  ⟨rfl, .refl (MediaType.Alike.refl h) _, .refl (Slot.Alike.refl (Header.Alike.refl h)) _⟩

theorem Operation.Alike.refl (o : Operation) : o.Alike R o where
  operationId := rfl
  description := rfl
  deprecated := rfl
  parameters := List.forall₂_same.mpr fun slot _ => .refl (Parameter.Alike.refl h) slot
  requestBody := optionRel_refl (Slot.Alike.refl (RequestBody.Alike.refl h)) _
  responses := .refl (Slot.Alike.refl (Response.Alike.refl h)) _

theorem PathItem.Alike.refl (i : PathItem) : i.Alike R i where
  parameters := List.forall₂_same.mpr fun slot _ => .refl (Parameter.Alike.refl h) slot
  operations := .refl (Operation.Alike.refl h) _

theorem Components.Alike.refl (c : Components) : c.Alike R c where
  schemas := .refl (Slot.Alike.refl h) _
  parameters := .refl (Slot.Alike.refl (Parameter.Alike.refl h)) _
  requestBodies := .refl (Slot.Alike.refl (RequestBody.Alike.refl h)) _
  responses := .refl (Slot.Alike.refl (Response.Alike.refl h)) _
  headers := .refl (Slot.Alike.refl (Header.Alike.refl h)) _

/-- Every document is like itself. -/
theorem Document.Alike.refl (d : Document) : d.Alike R d where
  openapi := rfl
  swagger := rfl
  servers := rfl
  paths := .refl (PathItem.Alike.refl h) _
  components := .refl h _

end Reflexivity

section Maps

/-- Another definition in the place of an inline one. References stay. -/
def Slot.map {α β : Type} (f : α → β) : Slot α → Slot β
  | .reference pointer => .reference pointer
  | .inline a => .inline (f a)

/-- What stands in a slot is related to what a function makes of it, and references stay. -/
theorem Slot.alike_map {α β : Type} {Q : α → β → Prop} {f : α → β} (h : ∀ a, Q a (f a))
    (slot : Slot α) : slot.Alike Q (slot.map f) := by
  cases slot with
  | reference pointer => exact .reference pointer
  | inline a => exact .inline (h a)

/-- The same for all slots of a list. -/
theorem alike_mapSlots {α β : Type} {Q : α → β → Prop} {f : α → β} (h : ∀ a, Q a (f a))
    (slots : List (Slot α)) : List.Forall₂ (Slot.Alike Q) slots (slots.map (Slot.map f)) :=
  List.forall₂_map_right_iff.mpr (List.forall₂_same.mpr fun slot _ => slot.alike_map h)

/-- The same for a value that may be missing. -/
theorem rel_optionMap {α β : Type} {Q : α → β → Prop} {f : α → β} (h : ∀ a, Q a (f a))
    (a : Option α) : Option.Rel Q a (a.map f) := by
  cases a with
  | none => exact .none
  | some a => exact .some (h a)

/-- The same for all values of a map. The keys are not touched. -/
theorem OrderedMap.alike_mapValues {κ α β : Type} {Q : α → β → Prop} {f : α → β}
    (h : ∀ a, Q a (f a)) (m : OrderedMap κ α) : m.Alike Q (m.mapValues fun _ a => f a) :=
  List.forall₂_map_right_iff.mpr (List.forall₂_same.mpr fun e _ => .mk e.1 (h e.2))

variable (f : Schema → Schema)

/-- The parameter with another schema. -/
def Parameter.mapSchemas (p : Parameter) : Parameter :=
  { p with schema := p.schema.map (Slot.map f) }

/-- The media type with another schema. -/
def MediaType.mapSchemas (m : MediaType) : MediaType :=
  { m with schema := m.schema.map (Slot.map f) }

/-- The request body with other schemas. -/
def RequestBody.mapSchemas (b : RequestBody) : RequestBody :=
  { b with content := b.content.mapValues fun _ m => m.mapSchemas f }

/-- The header with another schema. -/
def Header.mapSchemas (h : Header) : Header :=
  { h with schema := h.schema.map (Slot.map f) }

/-- The response with other schemas. -/
def Response.mapSchemas (r : Response) : Response :=
  { r with
    content := r.content.mapValues fun _ m => m.mapSchemas f
    headers := r.headers.mapValues fun _ slot => slot.map (·.mapSchemas f) }

/-- The operation with other schemas. -/
def Operation.mapSchemas (o : Operation) : Operation :=
  { o with
    parameters := o.parameters.map (Slot.map (·.mapSchemas f))
    requestBody := o.requestBody.map (Slot.map (·.mapSchemas f))
    responses := o.responses.mapValues fun _ slot => slot.map (·.mapSchemas f) }

/-- The path item with other schemas. -/
def PathItem.mapSchemas (i : PathItem) : PathItem where
  parameters := i.parameters.map (Slot.map (·.mapSchemas f))
  operations := i.operations.mapValues fun _ o => o.mapSchemas f

/-- The shared definitions with other schemas. -/
def Components.mapSchemas (c : Components) : Components where
  schemas := c.schemas.mapValues fun _ slot => slot.map f
  parameters := c.parameters.mapValues fun _ slot => slot.map (·.mapSchemas f)
  requestBodies := c.requestBodies.mapValues fun _ slot => slot.map (·.mapSchemas f)
  responses := c.responses.mapValues fun _ slot => slot.map (·.mapSchemas f)
  headers := c.headers.mapValues fun _ slot => slot.map (·.mapSchemas f)

/-- The document with what a function makes of each inline schema in its place. Schemas
    inside of schemas are left to the function. -/
def Document.mapSchemas (d : Document) : Document :=
  { d with
    paths := d.paths.mapValues fun _ i => i.mapSchemas f
    components := d.components.mapSchemas f }

variable {f} {R : Schema → Schema → Prop} (h : ∀ s, R s (f s))
include h

/-- A parameter is like the one with another schema. -/
theorem Parameter.alike_mapSchemas (p : Parameter) : p.Alike R (p.mapSchemas f) :=
  ⟨rfl, rfl, rfl, rfl, rel_optionMap (Slot.alike_map h) _⟩

/-- A media type is like the one with another schema. -/
theorem MediaType.alike_mapSchemas (m : MediaType) : m.Alike R (m.mapSchemas f) :=
  ⟨rel_optionMap (Slot.alike_map h) _⟩

/-- A request body is like the one with other schemas in its content. -/
theorem RequestBody.alike_mapSchemas (b : RequestBody) : b.Alike R (b.mapSchemas f) :=
  ⟨rfl, rfl, OrderedMap.alike_mapValues (MediaType.alike_mapSchemas h) _⟩

/-- A header is like the one with another schema. -/
theorem Header.alike_mapSchemas (header : Header) : header.Alike R (header.mapSchemas f) :=
  ⟨rfl, rfl, rel_optionMap (Slot.alike_map h) _⟩

/-- A response is like the one with other schemas in its content and its headers. -/
theorem Response.alike_mapSchemas (r : Response) : r.Alike R (r.mapSchemas f) where
  description := rfl
  content := OrderedMap.alike_mapValues (MediaType.alike_mapSchemas h) _
  headers := OrderedMap.alike_mapValues (Slot.alike_map (Header.alike_mapSchemas h)) _

/-- An operation is like the one with other schemas at all of its places. -/
theorem Operation.alike_mapSchemas (o : Operation) : o.Alike R (o.mapSchemas f) where
  operationId := rfl
  description := rfl
  deprecated := rfl
  parameters := alike_mapSlots (Parameter.alike_mapSchemas h) _
  requestBody := rel_optionMap (Slot.alike_map (RequestBody.alike_mapSchemas h)) _
  responses := OrderedMap.alike_mapValues (Slot.alike_map (Response.alike_mapSchemas h)) _

/-- A path item is like the one with other schemas in its parameters and operations. -/
theorem PathItem.alike_mapSchemas (i : PathItem) : i.Alike R (i.mapSchemas f) where
  parameters := alike_mapSlots (Parameter.alike_mapSchemas h) _
  operations := OrderedMap.alike_mapValues (Operation.alike_mapSchemas h) _

/-- The shared definitions are like those with other schemas in them. -/
theorem Components.alike_mapSchemas (c : Components) : c.Alike R (c.mapSchemas f) where
  schemas := OrderedMap.alike_mapValues (Slot.alike_map h) _
  parameters := OrderedMap.alike_mapValues (Slot.alike_map (Parameter.alike_mapSchemas h)) _
  requestBodies := OrderedMap.alike_mapValues (Slot.alike_map (RequestBody.alike_mapSchemas h)) _
  responses := OrderedMap.alike_mapValues (Slot.alike_map (Response.alike_mapSchemas h)) _
  headers := OrderedMap.alike_mapValues (Slot.alike_map (Header.alike_mapSchemas h)) _

/-- A document is like the one with other schemas in place of its own. -/
theorem Document.alike_mapSchemas (d : Document) : d.Alike R (d.mapSchemas f) where
  openapi := rfl
  swagger := rfl
  servers := rfl
  paths := OrderedMap.alike_mapValues (PathItem.alike_mapSchemas h) _
  components := Components.alike_mapSchemas h _

end Maps

section References

variable {R : Schema → Schema → Prop} {c c' : Components}

/-- The same references lead somewhere in documents that are alike. -/
theorem Components.Alike.contains_eq (h : c.Alike R c') : c.contains = c'.contains := by
  funext registry key
  cases registry with
  | schemas => exact h.schemas.contains_eq key
  | parameters => exact h.parameters.contains_eq key
  | requestBodies => exact h.requestBodies.contains_eq key
  | responses => exact h.responses.contains_eq key
  | headers => exact h.headers.contains_eq key

/-- The entries of documents that are alike stand under the same keys, in the same order. -/
theorem Components.Alike.entryKeys_eq (h : c.Alike R c') : c.entryKeys = c'.entryKeys := by
  -- One registry after the other. The keys of all entries are made from these.
  have hkeys : c.keys = c'.keys := by
    funext registry
    cases registry with
    | schemas => exact h.schemas.keys_eq
    | parameters => exact h.parameters.keys_eq
    | requestBodies => exact h.requestBodies.keys_eq
    | responses => exact h.responses.keys_eq
    | headers => exact h.headers.keys_eq
  unfold entryKeys
  rw [hkeys]

variable {α β : Type} {Q : α → β → Prop} {entries : OrderedMap String (Slot α)}
  {entries' : OrderedMap String (Slot β)}

/-- Following one reference in two documents that are alike leads to the same next reference,
    to related definitions, or to the same error. -/
theorem followSteps_matches (h : entries.Alike (Slot.Alike Q) entries') (registry : Registry)
    (start : String) (n : Nat) (reference : String) :
    Logged.Matches Q
      (.ofExcept (followSteps registry entries start n reference) : Typing α)
      (.ofExcept (followSteps registry entries' start n reference)) := by
  -- The induction is on the steps that are left, for every reference that is reached.
  induction n generalizing reference with
  | zero => exact .fail _
  | succ n ih =>
      unfold followSteps
      cases definitionKey registry reference with
      | error e => exact .fail e
      | ok key =>
          dsimp only
          -- Both chains look up the same key and go on to the same reference, if any.
          have hslot := h.get? key
          generalize entries.get? key = slot at hslot ⊢
          generalize entries'.get? key = slot' at hslot ⊢
          cases hslot with
          | none => exact .fail _
          | some hslot =>
              cases hslot with
              | reference next => exact ih next
              | inline hvalue => exact .pure hvalue

/-- A reference leads to related definitions, or to the same error. -/
theorem follow_matches (h : entries.Alike (Slot.Alike Q) entries') (registry : Registry)
    (reference : String) :
    Logged.Matches Q (.ofExcept (follow registry entries reference) : Typing α)
      (.ofExcept (follow registry entries' reference)) := by
  -- There are as many entries in both, and so as many steps before a cycle is reported.
  have hlength : entries.entries.length = entries'.entries.length := List.Forall₂.length_eq h
  unfold follow
  rw [hlength]
  exact followSteps_matches h registry reference _ reference

end References

end RouteTypes
