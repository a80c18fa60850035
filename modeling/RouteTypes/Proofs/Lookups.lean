import RouteTypes.Proofs.DocumentNeeds

/-!
# Where Definitions Are Looked Up

Which places of a document ask for the definition behind a reference.

Naming a type is asked of most references, and of all that stand in schemas. Looking up
is asked of few: of the parameters, the request body and the successful response of an
operation that is not deprecated, of the parameters of a path that gets a directory, and
of the schemas of its path parameters, whose kinds name the directory. A reference in
any other place is never followed (`definition_mem_needs_iff`).

## Main definitions

* `NamesOnly`: Needs that ask for no definition.
* `Document.Describes`: An operation of a path that is not deprecated.
* `Document.LooksUp`: The places where definitions are looked up.

## Theorems

* `Components.needs_namesOnly`: Declaring the components looks nothing up.
* `Operation.definition_mem_needs_iff`: What an operation looks up.
* `definition_mem_needs_iff`: What a document looks up.
-/

namespace RouteTypes

/-- No definition is asked for. -/
def NamesOnly (needs : Set Need) : Prop :=
  ∀ registry r, .definition registry r ∉ needs

/-- The operation belongs to the path and is not deprecated. -/
def Document.Describes (document : Document) (item : PathItem) (operation : Operation) : Prop :=
  ∃ template method, (template, item) ∈ document.paths.entries ∧
    (method, operation) ∈ item.operations.entries ∧ operation.deprecated = false

/-- The document has the path, and it gets a directory. -/
def Document.Places (document : Document) (item : PathItem) : Prop :=
  (∃ template, (template, item) ∈ document.paths.entries) ∧ item.Remains

/-- The reference stands where a definition of this registry is looked up. -/
def Document.LooksUp (document : Document) : Registry → String → Prop
  | .schemas, r => ∃ item, document.Places item ∧ ∃ slot ∈ item.allParameters, ∃ p : Parameter,
      slot.Stands document.components.parameter p ∧ p.location = .path ∧
        p.schema = some (.reference r)
  | .parameters, r =>
      (∃ item operation, document.Describes item operation ∧
        .reference r ∈ item.parameters ++ operation.parameters) ∨
      ∃ item, document.Places item ∧ .reference r ∈ item.allParameters
  | .requestBodies, r => ∃ item operation, document.Describes item operation ∧
      operation.success?.isSome = true ∧ operation.requestBody = some (.reference r)
  | .responses, r => ∃ item operation, document.Describes item operation ∧
      ∃ status, operation.success? = some (status, .reference r)
  | .headers, _ => False

section Names

/-- What stands in the place of a schema is named and never looked up. -/
theorem Slot.needs_namesOnly (slot : Slot Schema) : NamesOnly slot.needs := by
  rintro registry r ⟨_, _, h⟩
  exact absurd h (by simp only [reduceCtorEq, not_false_eq_true])

theorem Schema.needs_namesOnly (s : Schema) : NamesOnly s.needs := by
  rintro registry r ⟨slot, _, h⟩
  exact slot.needs_namesOnly registry r h

theorem optionalNeeds_namesOnly (slot : Option (Slot Schema)) :
    NamesOnly (optionalNeeds slot) := by
  rintro registry r ⟨s, _, h⟩
  exact s.needs_namesOnly registry r h

/-- A body names the schema of one of its entries, whichever it is. -/
theorem RequestBody.needs_namesOnly (body : RequestBody) : NamesOnly body.needs := by
  unfold RequestBody.needs
  cases body.content.form with
  | none => exact optionalNeeds_namesOnly _
  | some f => exact optionalNeeds_namesOnly f.2.schema

/-- Declaring a registry names what its references refer to. -/
theorem entriesNeeds_namesOnly {α : Type} {registry : Registry} {inline : α → Set Need}
    (h : ∀ a, NamesOnly (inline a)) (entries : OrderedMap String (Slot α)) :
    NamesOnly (entriesNeeds registry inline entries) := by
  rintro registry' r ⟨⟨key, slot⟩, _, hm⟩
  cases slot with
  | reference r' => exact absurd hm (by simp [Slot.namedNeeds])
  | inline a => exact h a registry' r hm

/-- Declaring the components looks nothing up. -/
theorem Components.needs_namesOnly (c : Components) : NamesOnly c.needs := by
  rintro registry r ⟨entries, h⟩
  -- Parameters, bodies, responses and headers are declared by the one schema they have.
  have hoptional : ∀ {α : Type} (schema : α → Option (Slot Schema)) (a : α),
      NamesOnly (optionalNeeds (schema a)) := fun schema a => optionalNeeds_namesOnly (schema a)
  cases entries with
  | schemas => exact entriesNeeds_namesOnly Schema.needs_namesOnly _ registry r h
  | parameters => exact entriesNeeds_namesOnly (hoptional _) _ registry r h
  | requestBodies => exact entriesNeeds_namesOnly (hoptional _) _ registry r h
  | responses => exact entriesNeeds_namesOnly (hoptional _) _ registry r h
  | headers => exact entriesNeeds_namesOnly (hoptional _) _ registry r h

theorem Response.needs_namesOnly (response : Response) : NamesOnly response.needs := by
  rintro registry r (h | h)
  · exact optionalNeeds_namesOnly _ registry r h
  · exact entriesNeeds_namesOnly (fun _ => optionalNeeds_namesOnly _) _ registry r h

end Names

section Definitions

variable {registry registry' : Registry} {r : String}

/-- A slot that is looked up asks for a definition when it is a reference. -/
theorem Slot.definition_mem_lookedUpNeeds_iff {α : Type} {slot : Slot α} :
    .definition registry' r ∈ slot.lookedUpNeeds registry ↔
      registry' = registry ∧ slot = .reference r := by
  cases slot with
  | reference r' => simp [Slot.lookedUpNeeds, eq_comm]
  | inline _ => simp [Slot.lookedUpNeeds]

/-- So does a slot that is used, since what stands in it asks for none. -/
theorem Slot.definition_mem_usedNeeds_iff {α : Type} {inline : α → Set Need}
    (h : ∀ a, NamesOnly (inline a)) {slot : Slot α} :
    .definition registry' r ∈ slot.usedNeeds registry inline ↔
      registry' = registry ∧ slot = .reference r := by
  cases slot with
  | reference r' => simp [Slot.usedNeeds, eq_comm]
  | inline a => simp [Slot.usedNeeds, h a registry' r]

/-- An operation looks up its parameters, and if it has a successful response that
    response and the body. -/
theorem Operation.definition_mem_needs_iff {o : Operation} {c : Components}
    {shared : List (Slot Parameter)} :
    .definition registry r ∈ o.needs c shared ↔
      registry = .parameters ∧ .reference r ∈ shared ++ o.parameters ∨
      registry = .responses ∧ (∃ status, o.success? = some (status, .reference r)) ∨
      registry = .requestBodies ∧ o.success?.isSome = true ∧
        o.requestBody = some (.reference r) := by
  have hparameters : .definition registry r ∈ parametersNeeds (shared ++ o.parameters) ↔
      registry = .parameters ∧ .reference r ∈ shared ++ o.parameters := by
    simp only [parametersNeeds, Set.mem_ofPred_eq,
      Slot.definition_mem_usedNeeds_iff fun p : Parameter => optionalNeeds_namesOnly p.schema]
    constructor
    · rintro ⟨slot, hslot, hr, rfl⟩
      exact ⟨hr, hslot⟩
    · rintro ⟨hr, hslot⟩
      exact ⟨_, hslot, hr, rfl⟩
  have hresponse : ∀ slot, .definition registry r ∈ responseSlotNeeds c slot ↔
      registry = .responses ∧ slot = .reference r := by
    intro slot
    -- The contents of the response that was found only name types.
    refine Iff.trans (or_iff_left ?_) Slot.definition_mem_lookedUpNeeds_iff
    rintro ⟨response, _, h⟩
    exact response.needs_namesOnly _ _ h
  have hbody : .definition registry r ∈ optionalBodyNeeds o.requestBody ↔
      registry = .requestBodies ∧ o.requestBody = some (.reference r) := by
    simp only [optionalBodyNeeds, Set.mem_ofPred_eq,
      Slot.definition_mem_usedNeeds_iff RequestBody.needs_namesOnly]
    constructor
    · rintro ⟨slot, hslot, hr, rfl⟩
      exact ⟨hr, hslot⟩
    · rintro ⟨hr, hslot⟩
      exact ⟨_, hslot, hr, rfl⟩
  simp only [Operation.needs, Set.mem_union, Set.mem_ofPred_eq, hparameters, hresponse, hbody]
  refine or_congr_right ?_
  constructor
  -- Response and body are both asked for behind the successful status.
  · rintro ⟨status, slot, hs, ⟨hr, rfl⟩ | ⟨hr, hb⟩⟩
    · exact Or.inl ⟨hr, status, hs⟩
    · exact Or.inr ⟨hr, by rw [hs]; rfl, hb⟩
  · rintro (⟨hr, status, hs⟩ | ⟨hr, hs, hb⟩)
    · exact ⟨status, _, hs, Or.inl ⟨hr, rfl⟩⟩
    · rcases Option.isSome_iff_exists.mp hs with ⟨⟨status, slot⟩, hs⟩
      exact ⟨status, slot, hs, Or.inr ⟨hr, hb⟩⟩

/-- For the kind of a parameter the parameter is looked up, and for that of a path
    parameter its schema. -/
theorem definition_mem_kindNeeds_iff {c : Components} {slot : Slot Parameter} :
    .definition registry r ∈ kindNeeds c slot ↔
      registry = .parameters ∧ slot = .reference r ∨
      registry = .schemas ∧ ∃ p, slot.Stands c.parameter p ∧ p.location = .path ∧
        p.schema = some (.reference r) := by
  refine or_congr Slot.definition_mem_lookedUpNeeds_iff ?_
  constructor
  · rintro ⟨p, r', hp, hl, hs, h⟩
    obtain ⟨rfl, rfl⟩ := Need.definition.inj h
    exact ⟨rfl, p, hp, hl, hs⟩
  · rintro ⟨rfl, p, hp, hl, hs⟩
    exact ⟨p, r, hp, hl, hs, rfl⟩

/-- Definitions are looked up in the places that are listed, and in no others. -/
theorem definition_mem_needs_iff {document : Document} :
    .definition registry r ∈ document.needs ↔ document.LooksUp registry r := by
  constructor
  -- A need of the document comes from the components, from an operation, or from the kinds of a
  -- path.
  · rintro (h | ⟨⟨template, item⟩, he, ⟨⟨method, o⟩, ho, hd, h⟩ | ⟨hremains, slot, hslot, h⟩⟩)
    · exact absurd h (document.components.needs_namesOnly registry r)
    · have hdescribes : document.Describes item o := ⟨template, method, he, ho, hd⟩
      rcases Operation.definition_mem_needs_iff.mp h with
        ⟨rfl, hp⟩ | ⟨rfl, hs⟩ | ⟨rfl, hs, hb⟩
      · exact Or.inl ⟨item, o, hdescribes, hp⟩
      · exact ⟨item, o, hdescribes, hs⟩
      · exact ⟨item, o, hdescribes, hs, hb⟩
    · have hplaces : document.Places item := ⟨⟨template, he⟩, hremains⟩
      rcases definition_mem_kindNeeds_iff.mp h with ⟨rfl, rfl⟩ | ⟨rfl, hp⟩
      · exact Or.inr ⟨item, hplaces, hslot⟩
      · exact ⟨item, hplaces, slot, hslot, hp⟩
  · -- Every place of the list belongs to an operation, or to the kinds of a path.
    have hoperation : ∀ item o, document.Describes item o →
        .definition registry r ∈ o.needs document.components item.parameters →
        .definition registry r ∈ document.needs := by
      rintro item o ⟨template, method, he, ho, hd⟩ h
      exact Or.inr ⟨(template, item), he, Or.inl ⟨(method, o), ho, hd, h⟩⟩
    have hkind : ∀ item, document.Places item → ∀ slot ∈ item.allParameters,
        .definition registry r ∈ kindNeeds document.components slot →
        .definition registry r ∈ document.needs := by
      rintro item ⟨⟨template, he⟩, hremains⟩ slot hslot h
      exact Or.inr ⟨(template, item), he, Or.inr ⟨hremains, slot, hslot, h⟩⟩
    intro h
    cases registry with
    | schemas =>
        rcases h with ⟨item, hplaces, slot, hslot, hp⟩
        exact hkind item hplaces slot hslot (definition_mem_kindNeeds_iff.mpr (Or.inr ⟨rfl, hp⟩))
    | parameters =>
        rcases h with ⟨item, o, hdescribes, hp⟩ | ⟨item, hplaces, hslot⟩
        · exact hoperation item o hdescribes
            (Operation.definition_mem_needs_iff.mpr (Or.inl ⟨rfl, hp⟩))
        · exact hkind item hplaces _ hslot
            (definition_mem_kindNeeds_iff.mpr (Or.inl ⟨rfl, rfl⟩))
    | requestBodies =>
        rcases h with ⟨item, o, hdescribes, hs, hb⟩
        exact hoperation item o hdescribes
          (Operation.definition_mem_needs_iff.mpr (Or.inr (Or.inr ⟨rfl, hs, hb⟩)))
    | responses =>
        rcases h with ⟨item, o, hdescribes, hs⟩
        exact hoperation item o hdescribes
          (Operation.definition_mem_needs_iff.mpr (Or.inr (Or.inl ⟨rfl, hs⟩)))
    | headers => exact h.elim

end Definitions

end RouteTypes
