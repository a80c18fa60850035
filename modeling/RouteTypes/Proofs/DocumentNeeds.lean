import RouteTypes.Proofs.Needs
import RouteTypes.Proofs.OutputPaths

/-!
# What a Document Needs

All references of a document that are looked at, and when a document is accepted.

The needs of schemas are carried upwards, along the functions that type the parts of a
document. Three kinds of place differ in what they ask. A place whose type is only named
asks for an entry: schemas, response headers, entries that stand for others. A place
whose definition is used as well, a parameter or a request body of an operation, asks
for both. A response is only looked up, and then its own contents count. Besides, the
directory of a path that keeps an operation is named after the kinds of its parameters,
so their schemas are looked up too.

A document is accepted when its names are distinct and all its needs are met
(`compile_succeeds_iff`), and an error is the fault of a name or of a need
(`compile_fails`).

## Main definitions

* `Slot.namedNeeds`, `Slot.usedNeeds`, `Slot.lookedUpNeeds`: What a place asks of the
  reference in it.
* `Slot.Stands`: The definition in a slot, or the one its reference leads to.
* `Components.needs`, `Operation.needs`, `PathItem.needs`: The needs of the parts.
* `Document.needs`: The needs of a document.

## Theorems

* `typeComponents_checks`, `typePaths_checks`: Typing looks at the needs of the parts.
* `compile_met`, `compile_fails`: What success and failure say about the needs.
* `compile_succeeds_iff`: When a document is accepted.
-/

namespace RouteTypes

namespace Slot

variable {α : Type}

/-- A place whose type is named: the reference needs an entry, a definition what is in
    it. -/
def namedNeeds (registry : Registry) (inline : α → Set Need) : Slot α → Set Need
  | reference r => {.name registry r}
  | .inline value => inline value

/-- A place whose type is named and whose definition is used as well. -/
def usedNeeds (registry : Registry) (inline : α → Set Need) : Slot α → Set Need
  | reference r => {.definition registry r, .name registry r}
  | .inline value => inline value

/-- A place whose definition is looked up. -/
def lookedUpNeeds (registry : Registry) : Slot α → Set Need
  | reference r => {.definition registry r}
  | .inline _ => ∅

/-- The definition stands in the slot, or the reference there leads to it. -/
def Stands (find : String → Except CompileError α) (value : α) : Slot α → Prop
  | reference r => find r = .ok value
  | .inline v => v = value

end Slot

/-- The needs of a schema that may be missing. -/
def optionalNeeds (slot : Option (Slot Schema)) : Set Need :=
  {m | ∃ s, slot = some s ∧ m ∈ s.needs}

/-- The needs of a body: those of the entry that gives its type. -/
def Content.needs (content : Content) : Set Need :=
  optionalNeeds (content.chosen.bind (·.schema))

/-- The needs of a request body in place: those of its form entry, if it has one. -/
def RequestBody.needs (body : RequestBody) : Set Need :=
  match body.content.form with
  | some (_, media) => optionalNeeds media.schema
  | none => body.content.needs

/-- The needs of entries whose types are named. -/
def entriesNeeds {α : Type} (registry : Registry) (inline : α → Set Need)
    (entries : OrderedMap String (Slot α)) : Set Need :=
  {m | ∃ e ∈ entries.entries, m ∈ e.2.namedNeeds registry inline}

/-- The needs of the entries of a registry. -/
def Components.registryNeeds (c : Components) : Registry → Set Need
  | .schemas => entriesNeeds .schemas Schema.needs c.schemas
  | .parameters => entriesNeeds .parameters (fun p => optionalNeeds p.schema) c.parameters
  | .requestBodies => entriesNeeds .requestBodies (fun b => b.content.needs) c.requestBodies
  | .responses => entriesNeeds .responses (fun r => r.content.needs) c.responses
  | .headers => entriesNeeds .headers (fun h => optionalNeeds h.schema) c.headers

/-- The needs of the components: those of the entries of all registries. -/
def Components.needs (c : Components) : Set Need :=
  {m | ∃ registry, m ∈ c.registryNeeds registry}

/-- The needs of a response: those of its content and of its headers. -/
def Response.needs (response : Response) : Set Need :=
  response.content.needs ∪
    entriesNeeds .headers (fun h => optionalNeeds h.schema) response.headers

/-- The needs of a response slot: those of the response it leads to, besides its own. -/
def responseSlotNeeds (c : Components) (slot : Slot Response) : Set Need :=
  slot.lookedUpNeeds .responses ∪ {m | ∃ r, slot.Stands c.response r ∧ m ∈ r.needs}

/-- The needs of some parameters. -/
def parametersNeeds (parameters : List (Slot Parameter)) : Set Need :=
  {m | ∃ slot ∈ parameters, m ∈ slot.usedNeeds .parameters fun p => optionalNeeds p.schema}

/-- The needs of a request body that may be missing. -/
def optionalBodyNeeds (slot : Option (Slot RequestBody)) : Set Need :=
  {m | ∃ s, slot = some s ∧ m ∈ s.usedNeeds .requestBodies RequestBody.needs}

/-- The needs of an operation. Without a successful response only the parameters are
    looked at. -/
def Operation.needs (c : Components) (shared : List (Slot Parameter)) (o : Operation) :
    Set Need :=
  parametersNeeds (shared ++ o.parameters) ∪
    {m | ∃ status slot, o.success? = some (status, slot) ∧
      m ∈ responseSlotNeeds c slot ∪ optionalBodyNeeds o.requestBody}

/-- The needs of a parameter whose kind may name a directory: that of a path parameter
    is the kind of its schema. -/
def kindNeeds (c : Components) (slot : Slot Parameter) : Set Need :=
  slot.lookedUpNeeds .parameters ∪
    {m | ∃ p r, slot.Stands c.parameter p ∧ p.location = .path ∧
      p.schema = some (.reference r) ∧ m = .definition .schemas r}

/-- An operation of the path remains: it is not deprecated and has a successful
    response. -/
def PathItem.Remains (item : PathItem) : Prop :=
  ∃ e ∈ item.operations.entries, e.2.deprecated = false ∧ e.2.success?.isSome = true

/-- The needs of a path: those of its operations that are not deprecated, and those of
    the kinds of its parameters if it gets a directory. -/
def PathItem.needs (c : Components) (item : PathItem) : Set Need :=
  {m | ∃ e ∈ item.operations.entries, e.2.deprecated = false ∧
      m ∈ e.2.needs c item.parameters} ∪
    {m | item.Remains ∧ ∃ slot ∈ item.allParameters, m ∈ kindNeeds c slot}

/-- The needs of a document. -/
def Document.needs (document : Document) : Set Need :=
  document.components.needs ∪
    {m | ∃ e ∈ document.paths.entries, m ∈ e.2.needs document.components}

/-- An entry that is a reference needs the entry it refers to. -/
theorem Components.mem_needs_of_reference {c : Components} {registry : Registry} {key r : String}
    (h : c.slot? registry key = some (.reference r)) : .name registry r ∈ c.needs := by
  have hentries : ∀ {α : Type} (inline : α → Set Need) (entries : OrderedMap String (Slot α)),
      (entries.get? key).map Slot.outline = some (.reference r) →
      .name registry r ∈ entriesNeeds registry inline entries := by
    intro α inline entries hentry
    -- Every registry is a map of slots, and the reference is found under its key.
    exact ⟨_, OrderedMap.mem_of_get? (Slot.get?_of_outline hentry), rfl⟩
  refine ⟨registry, ?_⟩
  cases registry with
  | schemas => exact hentries _ _ h
  | parameters => exact hentries _ _ h
  | requestBodies => exact hentries _ _ h
  | responses => exact hentries _ _ h
  | headers => exact hentries _ _ h

section Values

variable {setting : Setting} {direction : Direction}

/-- A schema that may be missing needs what it needs when it is there. -/
theorem typeOptional_checks (slot : Option (Slot Schema)) :
    Checks setting.components (typeOptional setting direction slot) (optionalNeeds slot) := by
  cases slot with
  | none => exact (Checks.pure none).congr fun m => by simp [optionalNeeds]
  | some slot => exact (typeSlot_checks slot).congr fun m => by simp [optionalNeeds]

theorem typeContent_checks (content : Content) :
    Checks setting.components (typeContent setting direction content) content.needs :=
  typeOptional_checks _

/-- A request body needs its form entry, or what its content needs. -/
theorem typeRequestBody_checks (body : RequestBody) :
    Checks setting.components (typeRequestBody setting body) body.needs := by
  unfold typeRequestBody RequestBody.needs
  cases body.content.form with
  | none => exact typeContent_checks body.content
  | some f => exact typeOptional_checks f.2.schema

/-- An entry needs what its definition needs, or the entry it refers to. -/
theorem typeEntry_checks {α : Type} {registry : Registry} {inline : α → Typing (Option TypeNode)}
    {needs : α → Set Need} (h : ∀ a, Checks setting.components (inline a) (needs a))
    (slot : Slot α) :
    Checks setting.components (typeEntry setting inline slot)
      (slot.namedNeeds registry needs) := by
  cases slot with
  | reference r => exact (typeRef_checks setting registry r).bindPure fun _ _ => Checks.pure _
  | inline value => exact h value

/-- A declaration is made from a typed value, with nothing more looked at. -/
theorem declare_checks (c : Components) (registry : Registry) (key : String)
    (value : Option TypeNode) : Checks c (declare registry key value) ∅ := by
  cases value with
  | none => exact (Checks.report _).pureBind fun _ _ => Checks.pure none
  | some value => exact Checks.pure _

/-- A registry needs what its entries need, one after the other. -/
theorem typeRegistry_checks {α : Type} {registry : Registry}
    {inline : α → Typing (Option TypeNode)} {needs : α → Set Need}
    (h : ∀ a, Checks setting.components (inline a) (needs a))
    (entries : OrderedMap String (Slot α)) :
    Checks setting.components (typeRegistry setting registry inline entries)
      (entriesNeeds registry needs entries) := by
  refine Checks.bindPure ?_ fun types _ => Checks.pure _
  refine Checks.mapM fun e _ => ?_
  exact (typeEntry_checks h e.2).bindPure fun value _ => declare_checks _ registry e.1 value

/-- Declaring the components looks at their needs. -/
theorem typeComponents_checks (setting : Setting) :
    Checks setting.components (typeComponents setting) setting.components.needs := by
  have hparameter : ∀ p : Parameter,
      Checks setting.components (typeParameter setting p) (optionalNeeds p.schema) :=
    fun p => (typeOptional_checks p.schema).bindPure fun _ _ => Checks.pure _
  have hbody : ∀ b : RequestBody,
      Checks setting.components (typeBody setting b) b.content.needs :=
    fun b => (typeContent_checks b.content).bindPure fun _ _ => Checks.pure _
  have hresponse : ∀ r : Response,
      Checks setting.components (typeResponse setting r) r.content.needs :=
    fun r => (typeContent_checks r.content).bindPure fun _ _ => Checks.pure _
  have hheader : ∀ r : Header,
      Checks setting.components (typeHeader setting r) (optionalNeeds r.schema) :=
    fun r => (typeOptional_checks r.schema).bindPure fun _ _ => Checks.pure _
  -- The registries are typed one after the other, and each adds its needs.
  have hall : Checks setting.components (typeComponents setting)
      (setting.components.registryNeeds .schemas ∪
        (setting.components.registryNeeds .parameters ∪
        (setting.components.registryNeeds .requestBodies ∪
        (setting.components.registryNeeds .responses ∪
          setting.components.registryNeeds .headers)))) := by
    refine (typeRegistry_checks typeSchema_checks _).andThen fun _ _ => ?_
    refine (typeRegistry_checks hparameter _).andThen fun _ _ => ?_
    refine (typeRegistry_checks hbody _).andThen fun _ _ => ?_
    refine (typeRegistry_checks hresponse _).andThen fun _ _ => ?_
    exact (typeRegistry_checks hheader _).bindPure fun _ _ => Checks.pure _
  refine hall.congr fun m => ⟨?_, ?_⟩
  · rintro (h | h | h | h | h)
    · exact ⟨.schemas, h⟩
    · exact ⟨.parameters, h⟩
    · exact ⟨.requestBodies, h⟩
    · exact ⟨.responses, h⟩
    · exact ⟨.headers, h⟩
  · rintro ⟨registry, h⟩
    cases registry with
    | schemas => exact Or.inl h
    | parameters => exact Or.inr (Or.inl h)
    | requestBodies => exact Or.inr (Or.inr (Or.inl h))
    | responses => exact Or.inr (Or.inr (Or.inr (Or.inl h)))
    | headers => exact Or.inr (Or.inr (Or.inr (Or.inr h)))

end Values

section Operations

variable {setting : Setting}

/-- A declared parameter is looked up for its location and then named. -/
theorem declareParameter_checks (slot : Slot Parameter) :
    Checks setting.components (declareParameter setting slot)
      (slot.usedNeeds .parameters fun p => optionalNeeds p.schema) := by
  cases slot with
  | reference r =>
      have hdefinition : Checks setting.components
          (.ofExcept (setting.components.parameter r) : Typing Parameter)
          {.definition .parameters r} := Checks.ofExcept rfl
      exact hdefinition.andThen fun _ _ =>
        (typeRef_checks setting .parameters r).bindPure fun _ _ => Checks.pure _
  | inline p => exact (typeOptional_checks p.schema).bindPure fun _ _ => Checks.pure _

theorem declareParameters_checks (parameters : List (Slot Parameter)) :
    Checks setting.components (declareParameters setting parameters)
      (parametersNeeds parameters) :=
  (Checks.mapM fun slot _ => declareParameter_checks slot).bindPure fun _ _ => Checks.pure _

/-- A response is looked up when it is a reference. -/
theorem resolveResponse_checks (slot : Slot Response) :
    Checks setting.components (resolveResponse setting slot) (slot.lookedUpNeeds .responses) := by
  cases slot with
  | reference r => exact Checks.ofExcept rfl
  | inline response => exact Checks.pure response

theorem resolveResponse_yields {slot : Slot Response} {response : Response} :
    (resolveResponse setting slot).Yields response ↔
      slot.Stands setting.components.response response := by
  cases slot with
  | reference r => exact Logged.yields_ofExcept _ _
  | inline r => exact Logged.yields_pure r response

/-- The headers of a response need what the entries of a registry of headers need. -/
theorem responseHeaders_checks (response : Response) :
    Checks setting.components (responseHeaders setting response)
      (entriesNeeds .headers (fun h => optionalNeeds h.schema) response.headers) := by
  refine Checks.bindPure ?_ fun headers _ => Checks.pure _
  refine Checks.mapM fun e _ => ?_
  rcases e with ⟨name, r | header⟩
  · exact (typeRef_checks setting .headers r).bindPure fun _ _ => Checks.pure _
  · exact (typeOptional_checks header.schema).bindPure fun _ _ => Checks.pure _

/-- A response is looked up first, and then the needs of what was found count. -/
theorem responseEntries_checks (status : Nat) (slot : Slot Response) :
    Checks setting.components (responseEntries setting status slot)
      (responseSlotNeeds setting.components slot) := by
  have hafter : ∀ response : Response, Checks setting.components
      (do
        let body ← typeContent setting .response response.content
        let headers ← responseHeaders setting response
        let statusEntry := Property.field "status" true none { shape := .status status }
        let bodyEntry := body.map fun v => Property.field "resBody" true response.description v
        pure (statusEntry :: bodyEntry.toList ++ headersEntry headers))
      response.needs := fun response =>
    (typeContent_checks response.content).andThen fun _ _ =>
      (responseHeaders_checks response).bindPure fun _ _ => Checks.pure _
  have hslot : Checks setting.components (resolveResponse setting slot)
      (slot.lookedUpNeeds .responses) := resolveResponse_checks slot
  -- What is needed afterwards depends on the response that was found.
  have hall := hslot.bind fun response _ => hafter response
  simp only [resolveResponse_yields] at hall
  exact hall

/-- A request body is used when it is there: looked up for its format, and named. -/
theorem optionalRequestEntries_checks (slot : Option (Slot RequestBody)) :
    Checks setting.components (optionalRequestEntries setting slot) (optionalBodyNeeds slot) := by
  cases slot with
  | none => exact (Checks.pure []).congr fun m => by simp [optionalBodyNeeds]
  | some slot =>
      have hslot : Checks setting.components (resolveRequestBody setting slot)
          (slot.usedNeeds .requestBodies RequestBody.needs) := by
        cases slot with
        | reference r =>
            have hdefinition : Checks setting.components
                (.ofExcept (setting.components.requestBody r) : Typing RequestBody)
                {.definition .requestBodies r} := Checks.ofExcept rfl
            -- The body is followed for its format, and then its type is named.
            exact hdefinition.andThen fun _ _ =>
              (typeRef_checks setting .requestBodies r).bindPure fun _ _ => Checks.pure _
        | inline body => exact (typeRequestBody_checks body).bindPure fun _ _ => Checks.pure _
      have hentries : Checks setting.components (requestEntries setting slot)
          (slot.usedNeeds .requestBodies RequestBody.needs) :=
        hslot.bindPure fun _ _ => Checks.pure _
      exact hentries.congr fun m => by simp [optionalBodyNeeds]

/-- An operation needs its parameters. The rest is needed only behind a successful status. -/
theorem typeOperation_checks (item : PathItem) (method : Method) (operation : Operation) :
    Checks setting.components (typeOperation setting item method operation)
      (operation.needs setting.components item.parameters) := by
  refine (declareParameters_checks _).andThen fun declared _ => ?_
  cases hs : operation.success? with
  | none => exact (Checks.pure none).congr fun m => by simp
  | some success =>
      rcases success with ⟨status, slot⟩
      have hentries : Checks setting.components
          (do
            let response ← responseEntries setting status slot
            let request ← optionalRequestEntries setting operation.requestBody
            pure (some {
              method
              description := operation.description
              entries := parameterEntries declared ++ response ++ request : TypedOperation }))
          (responseSlotNeeds setting.components slot ∪ optionalBodyNeeds operation.requestBody) :=
        (responseEntries_checks status slot).andThen fun _ _ =>
          (optionalRequestEntries_checks operation.requestBody).bindPure fun _ _ => Checks.pure _
      exact hentries.congr fun m => by simp

end Operations

section Paths

variable {setting : Setting}

theorem resolveParameter_yields {slot : Slot Parameter} {p : Parameter} :
    (resolveParameter setting slot).Yields p ↔ slot.Stands setting.components.parameter p := by
  cases slot with
  | reference r => exact Logged.yields_ofExcept _ _
  | inline q => exact Logged.yields_pure q p

/-- A parameter is looked up when it is a reference. -/
theorem resolveParameter_checks (slot : Slot Parameter) :
    Checks setting.components (resolveParameter setting slot)
      (slot.lookedUpNeeds .parameters) := by
  cases slot with
  | reference r => exact Checks.ofExcept rfl
  | inline p => exact Checks.pure p

/-- The kind of a schema needs its definition when it is a reference. -/
theorem schemaKind_checks (slot : Option (Slot Schema)) :
    Checks setting.components (schemaKind setting slot)
      {m | ∃ r, slot = some (.reference r) ∧ m = .definition .schemas r} := by
  cases slot with
  | none => exact (Checks.pure none).congr fun m => by simp
  | some slot =>
      cases slot with
      | inline schema => exact (Checks.pure schema.kind).congr fun m => by simp
      | reference r =>
          have hdefinition : Checks setting.components
              (.ofExcept (setting.components.schema r) : Typing Schema)
              {.definition .schemas r} := Checks.ofExcept rfl
          exact (hdefinition.bindPure fun schema _ => Checks.pure schema.kind).congr
            fun m => by simp

/-- The kind of a parameter needs the parameter, and the schema of one that is sent in the
    path. -/
theorem pathParameter_checks (slot : Slot Parameter) :
    Checks setting.components (pathParameter setting slot)
      (kindNeeds setting.components slot) := by
  have hkind : ∀ p : Parameter, Checks setting.components
      (if p.location = .path then do
          let kind ← schemaKind setting p.schema
          pure (some (p.name, kind))
        else pure none)
      {m | ∃ r, p.location = .path ∧ p.schema = some (.reference r) ∧
        m = .definition .schemas r} := by
    intro p
    -- Parameters sent elsewhere name no directory, so their schemas are left alone.
    by_cases hp : p.location = .path
    · rw [if_pos hp]
      refine ((schemaKind_checks p.schema).bindPure fun kind _ => Checks.pure _).congr ?_
      simp [hp]
    · rw [if_neg hp]
      exact (Checks.pure none).congr fun m => by simp [hp]
  have hslot : Checks setting.components (resolveParameter setting slot)
      (slot.lookedUpNeeds .parameters) := resolveParameter_checks slot
  -- What is needed after the parameter was found depends on it.
  have hall := hslot.bind fun p _ => hkind p
  refine hall.congr fun m => ?_
  simp only [resolveParameter_yields, kindNeeds, Set.mem_union, Set.mem_ofPred_eq,
    exists_and_left]

theorem pathParameters_checks (item : PathItem) :
    Checks setting.components (pathParameters setting item)
      {m | ∃ slot ∈ item.allParameters, m ∈ kindNeeds setting.components slot} :=
  (Checks.mapM fun slot _ => pathParameter_checks slot).bindPure fun _ _ => Checks.pure _

/-- A deprecated operation needs nothing, any other one what it needs by itself. -/
theorem typePathOperation_checks (template : String) (item : PathItem) (method : Method)
    (operation : Operation) :
    Checks setting.components (typePathOperation setting template item method operation)
      {m | operation.deprecated = false ∧
        m ∈ operation.needs setting.components item.parameters} := by
  unfold typePathOperation
  by_cases hd : operation.deprecated = true
  · rw [if_pos hd]
    have hskip : Checks setting.components
        (do
          Logged.report (.operationSkipped template method)
          pure (none : Option TypedOperation)) ∅ :=
      (Checks.report _).pureBind fun _ _ => Checks.pure none
    exact hskip.congr fun m => by simp [hd]
  · rw [if_neg hd]
    have hoperation : Checks setting.components (typeOperation setting item method operation)
        (operation.needs setting.components item.parameters) :=
      typeOperation_checks item method operation
    refine Checks.congr (hoperation.bindPure fun typed _ => ?_) fun m => by simp [hd]
    -- An operation that is dropped afterwards was typed all the same.
    cases typed with
    | some o => exact Checks.pure (some o)
    | none => exact (Checks.report _).pureBind fun _ _ => Checks.pure none

/-- Something is kept of the operations of a path when one of them remains. -/
theorem remains_iff {template : String} {item : PathItem} {results : List (Option TypedOperation)}
    (h : (item.operations.entries.mapM fun e =>
      typePathOperation setting template item e.1 e.2).Yields results) :
    item.Remains ↔ ¬ ((results.filterMap id).isEmpty = true) := by
  rw [List.isEmpty_iff]
  constructor
  · rintro ⟨e, he, hd, hs⟩ hnil
    rcases Logged.exists_of_mem h he with ⟨r, hr, hyields⟩
    rcases typePathOperation_kept hyields hd hs with ⟨o, ho, _⟩
    -- The operation is among those that are kept.
    have hkept : o ∈ results.filterMap id := List.mem_filterMap.mpr ⟨r, hr, ho⟩
    rw [hnil] at hkept
    exact absurd hkept List.not_mem_nil
  · intro hne
    rcases List.exists_mem_of_ne_nil _ hne with ⟨o, ho⟩
    rcases Logged.exists_of_mem_filterMap h ho with ⟨e, he, hyields⟩
    rcases typePathOperation_yields hyields with ⟨hd, htyped⟩
    rcases typeOperation_yields htyped with ⟨_, _, _, _, _, _, hs, _⟩
    exact ⟨e, he, hd, by rw [hs]; rfl⟩

/-- A path needs its operations, and the kinds of its parameters if some operation remains. -/
theorem typePath_checks (template : String) (item : PathItem) :
    Checks setting.components (typePath setting template item)
      (item.needs setting.components) := by
  have hoperations : Checks setting.components
      (item.operations.entries.mapM fun e => typePathOperation setting template item e.1 e.2)
      {m | ∃ e ∈ item.operations.entries, e.2.deprecated = false ∧
        m ∈ e.2.needs setting.components item.parameters} :=
    Checks.mapM fun e _ => typePathOperation_checks template item e.1 e.2
  refine hoperations.andThen fun results hresults => ?_
  have hremains := remains_iff hresults
  -- Only a path that keeps an operation gets a directory.
  by_cases hempty : (results.filterMap id).isEmpty = true
  · have hnot : ¬ item.Remains := fun hr => hremains.mp hr hempty
    have homitted : Checks setting.components
        (do
          Logged.report (.pathOmitted template)
          pure (none : Option TypedPath)) ∅ :=
      (Checks.report _).pureBind fun _ _ => Checks.pure none
    -- Without a directory nothing is looked up for one.
    rw [if_pos hempty]
    exact homitted.congr fun m => by simp [hnot]
  · have hyes := hremains.mpr hempty
    rw [if_neg hempty]
    refine ((pathParameters_checks item).bindPure fun declared _ => Checks.pure _).congr ?_
    simp [hyes]

/-- Typing the paths looks at their needs. -/
theorem typePaths_checks (setting : Setting) (paths : OrderedMap String PathItem) :
    Checks setting.components (typePaths setting paths)
      {m | ∃ e ∈ paths.entries, m ∈ e.2.needs setting.components} :=
  (Checks.mapM fun e _ => typePath_checks e.1 e.2).bindPure fun _ _ => Checks.pure _

end Paths

section Documents

variable {document : Document} {options : Options}

/-- After the check of the names only the needs of the document count. -/
theorem compile_eq (document : Document) (options : Options) :
    ∃ rest : Typing Compilation, Checks document.components rest document.needs ∧
      document.compile options
        = .ofExcept (checkNames document.components) >>= fun _ => rest := by
  let setting := document.setting options
  -- The rest of a compilation is written out, so that the needs can be read off its steps.
  refine ⟨do
    let types ← typeComponents setting
    let paths ← typePaths setting document.paths
    Logged.report (.documentTyped types.length paths.length)
    let api : Api := { baseUrl := document.baseUrl, space := options.space, types, paths }
    api.render, ?_, ?_⟩
  · -- Reporting and rendering look at no references.
    refine (typeComponents_checks setting).andThen fun types _ => ?_
    refine (typePaths_checks setting document.paths).bindPure fun paths _ => ?_
    refine (Checks.report _).pureBind fun _ _ => ?_
    exact (Checks.report _).pureBind fun _ _ => Checks.pure _
  · unfold Document.compile Document.toApi
    simp only [bind_assoc, pure_bind]
    rfl

/-- In a document that is accepted the names are distinct and all needs are met. -/
theorem compile_met {c : Compilation} (h : (document.compile options).Yields c) :
    (document.components.entryKeys.map entryName).Nodup ∧
      ∀ m ∈ document.needs, document.components.fault? m = none := by
  rcases compile_eq document options with ⟨rest, hrest, heq⟩
  rw [heq, Logged.yields_bind] at h
  rcases h with ⟨_, hnames, h⟩
  exact ⟨(checkNames_eq_ok_iff _).mp hnames, hrest.met c h⟩

/-- The error of a document that is refused is that of its names or of one of its needs. -/
theorem compile_fails {e : CompileError} (h : (document.compile options).Fails e) :
    checkNames document.components = .error e ∨
      (document.components.entryKeys.map entryName).Nodup ∧
        ∃ m ∈ document.needs, document.components.fault? m = some e := by
  rcases compile_eq document options with ⟨rest, hrest, heq⟩
  rw [heq, Logged.fails_bind] at h
  rcases h with h | ⟨_, hnames, h⟩
  · exact Or.inl h
  · exact Or.inr ⟨(checkNames_eq_ok_iff _).mp hnames, hrest.fault e h⟩

/-- A document is accepted when its names are distinct and all its needs are met. -/
theorem compile_succeeds_iff :
    (∃ c, (document.compile options).Yields c) ↔
      (document.components.entryKeys.map entryName).Nodup ∧
        ∀ m ∈ document.needs, document.components.fault? m = none := by
  constructor
  · rintro ⟨c, h⟩
    exact compile_met h
  · rintro ⟨hnames, hmet⟩
    -- With the names distinct only the needs are left, and they are met.
    rcases compile_eq document options with ⟨rest, hrest, heq⟩
    rcases hrest.exists_yields hmet with ⟨c, hc⟩
    refine ⟨c, ?_⟩
    rw [heq, Logged.yields_bind]
    exact ⟨(), (checkNames_eq_ok_iff _).mpr hnames, hc⟩

/-- A document is refused when two names are the same or a need is not met. -/
theorem compile_fails_iff :
    (∃ e, (document.compile options).Fails e) ↔
      ¬ (document.components.entryKeys.map entryName).Nodup ∨
        ∃ m, m ∈ document.needs ∧ document.components.fault? m ≠ none := by
  have hends : (∃ e, (document.compile options).Fails e) ↔
      ¬ ∃ c, (document.compile options).Yields c := by
    constructor
    · rintro ⟨e, he⟩ ⟨c, hc⟩
      exact hc.not_fails e he
    · intro h
      exact (Logged.yields_or_fails _).resolve_left h
  -- A compilation ends in one of two ways, so this is the negation of the last theorem.
  rw [hends, compile_succeeds_iff, not_and_or]
  refine or_congr_right ?_
  simp only [not_forall, exists_prop, ne_eq]

end Documents

end RouteTypes
