import RouteTypes.Compile
import RouteTypes.Proofs.DocumentCorrespondence
import RouteTypes.Proofs.DocumentSteps

/-!
# Typing Corresponding Documents

Documents that are alike are typed alike.

Two settings are compared, whose components differ in related schemas and whose options
may differ too. What is asked of them is gathered in `Setting.Translates`: related schemas
are typed alike up to a relabeling, and describe values of the same kind, which names the
directories of paths. Everything above schemas then follows without another look at what
the relation is. Each step of typing a document is compared with the same step for the
other document, from the values of contents up to the whole (`toApi_mapsTo`), and errors
are the same throughout.

The steps themselves need less. For them it is enough that references lead to related
definitions and that schemas are typed alike, where certain errors of the first setting may
be excused (`Setting.Transfers`). With none of them excused this follows from the above.

## Main definitions

* `Setting.Translates`: What is asked of related schemas in two settings.
* `Setting.Transfers`: What the steps of typing need.

## Theorems

* `Setting.translates_of_corresponds`: Corresponding schemas are what is asked for.
* `Setting.Translates.transfers`: What is asked is enough for the steps.
* `typeComponents_carries`, `typeOperation_carries`, `typePath_carries`: The steps.
* `toApi_mapsTo`: Documents that are alike are typed alike.
* `toApi_matches`, `compile_outcome_eq`: With the labels they have, typed and compiled into
  the same.
-/

namespace RouteTypes

/-- In the second setting related schemas have the types that they have in the first, but
    for the labels, and describe values of the same kind. -/
structure Setting.Translates (R : Schema → Schema → Prop) (ρ : Relabeling)
    (setting setting' : Setting) : Prop where
  components : setting.components.Alike R setting'.components
  kind : ∀ s s', R s s' → s.kind = s'.kind
  space : ρ.space setting.options.space = setting'.options.space
  references : ∀ r, Logged.MapsTo ρ.reference (setting.typeRef r) (setting'.typeRef r)
  slots : ∀ (direction : Direction) (slot slot' : Slot Schema), slot.Alike R slot' →
    Logged.MapsTo (Option.map (·.relabel ρ)) (typeSlot setting direction slot)
      (typeSlot setting' direction slot')

/-- Schemas that correspond are what is asked for, when the relabeling fits the callers and
    leaves binary content alone. -/
theorem Setting.translates_of_corresponds {R : Schema → Schema → Prop} {ρ : Relabeling}
    {setting setting' : Setting} (hR : ∀ s s', R s s' → s.Corresponds R s')
    (hcomponents : setting.components.Alike R setting'.components)
    (hfits : ρ.Fits setting.options setting'.options)
    (hbinary : ∀ kind, ρ.binary kind = kind) : setting.Translates R ρ setting' := by
  have hrefs := fun r => typeRef_mapsTo hcomponents.contains_eq hfits.space r
  exact {
    components := hcomponents
    kind := fun s s' h => (hR s s' h).kind
    space := hfits.space
    references := hrefs
    slots := fun direction _ _ h => typeSlot_carries hrefs hR hfits (hbinary _) h }

/-- What the types of a document depend on beyond its own parts: in the second setting
    related schemas are typed as in the first, but for the labels, and references lead to
    related definitions. Where the first setting gives up the second may go on. -/
structure Setting.Transfers (excused : CompileError → Prop) (R : Schema → Schema → Prop)
    (ρ : Relabeling) (setting setting' : Setting) : Prop where
  kind : ∀ s s', R s s' → s.kind = s'.kind
  references : ∀ r, Logged.Carries excused ρ.reference (setting.typeRef r) (setting'.typeRef r)
  slots : ∀ (direction : Direction) (slot slot' : Slot Schema), slot.Alike R slot' →
    Logged.Carries excused (Option.map (·.relabel ρ)) (typeSlot setting direction slot)
      (typeSlot setting' direction slot')
  schema : ∀ r, Logged.Reduces R excused (.ofExcept (setting.components.schema r) : Typing Schema)
    (.ofExcept (setting'.components.schema r))
  parameter : ∀ r, Logged.Reduces (Parameter.Alike R) excused
    (.ofExcept (setting.components.parameter r) : Typing Parameter)
    (.ofExcept (setting'.components.parameter r))
  requestBody : ∀ r, Logged.Reduces (RequestBody.Alike R) excused
    (.ofExcept (setting.components.requestBody r) : Typing RequestBody)
    (.ofExcept (setting'.components.requestBody r))
  response : ∀ r, Logged.Reduces (Response.Alike R) excused
    (.ofExcept (setting.components.response r) : Typing Response)
    (.ofExcept (setting'.components.response r))

/-- References lead to related definitions when the components are alike. -/
theorem Setting.Translates.transfers {R : Schema → Schema → Prop} {ρ : Relabeling}
    {setting setting' : Setting} (h : setting.Translates R ρ setting') :
    Setting.Transfers (fun _ => False) R ρ setting setting' where
  kind := h.kind
  references := h.references
  slots := h.slots
  schema := follow_matches h.components.schemas .schemas
  parameter := follow_matches h.components.parameters .parameters
  requestBody := follow_matches h.components.requestBodies .requestBodies
  response := follow_matches h.components.responses .responses

/-- What is kept of results. -/
theorem filterMap_id_map {α β : Type} (f : α → β) (xs : List (Option α)) :
    (xs.map (Option.map f)).filterMap id = (xs.filterMap id).map f := by
  have hid : ∀ a : Option α, id (a.map f) = (id a).map f := fun _ => rfl
  exact filterMap_map_of hid xs

/-- A repeated step of which the results without a value are dropped. -/
theorem kept_carries {α β γ δ : Type} {f : γ → δ} {k : α → Typing (Option γ)}
    {k' : β → Typing (Option δ)} {xs : List α} {ys : List β}
    (h : List.Forall₂ (fun x y => Logged.Carries excused (Option.map f) (k x) (k' y)) xs ys) :
    Logged.Carries excused (List.map f) (xs.mapM k >>= fun rs => pure (rs.filterMap id))
      (ys.mapM k' >>= fun rs => pure (rs.filterMap id)) := by
  have hresults : Logged.Carries excused (List.map (Option.map f)) (xs.mapM k) (ys.mapM k') :=
    Logged.Carries.mapM h
  exact hresults.bind fun rs => .pure (filterMap_id_map f rs).symm

section Contents

variable {R : Schema → Schema → Prop} {content content' : Content}

/-- From contents that are alike the same entry is chosen, with related schemas. -/
theorem Content.chosen_alike (h : content.Alike (MediaType.Alike R) content') :
    Option.Rel (MediaType.Alike R) content.chosen content'.chosen := by
  -- The test is about keys, so it passes for entries in the same place.
  have hfound := rel_find? (p := fun e => e.1.startsWith "application/")
    (q := fun e => e.1.startsWith "application/")
    (fun e e' (he : SameKey (MediaType.Alike R) e e') => by rw [he.key_eq]) h
  -- Without such an entry the first one is chosen, whatever it is.
  have hfirst := rel_head? h
  unfold Content.chosen
  generalize content.entries.find? _ = found at hfound ⊢
  generalize content'.entries.find? _ = found' at hfound ⊢
  cases hfound with
  | some he => exact .some he.value
  | none =>
      generalize content.entries.head? = first at hfirst ⊢
      generalize content'.entries.head? = first' at hfirst ⊢
      cases hfirst with
      | none => exact .none
      | some he => exact .some he.value

/-- An entry with a schema has one in both contents. -/
theorem Content.withSchema_alike (h : content.Alike (MediaType.Alike R) content')
    (mediaType : String) :
    Option.Rel (MediaType.Alike R) (content.withSchema mediaType)
      (content'.withSchema mediaType) := by
  have hmedia := h.get? mediaType
  unfold Content.withSchema
  generalize content.get? mediaType = media at hmedia ⊢
  generalize content'.get? mediaType = media' at hmedia ⊢
  cases hmedia with
  | none => exact .none
  | some hmedia =>
      rw [Option.filter_some, Option.filter_some, isSome_eq_of_rel hmedia.schema]
      split
      · exact .some hmedia
      · exact .none

/-- The same form encoding is found, with related entries. -/
theorem Content.form_alike (h : content.Alike (MediaType.Alike R) content') :
    Option.Rel (SameKey (MediaType.Alike R)) content.form content'.form := by
  have hmultipart := withSchema_alike h "multipart/form-data"
  have hencoded := withSchema_alike h "application/x-www-form-urlencoded"
  unfold Content.form
  generalize content.withSchema "multipart/form-data" = media at hmultipart ⊢
  generalize content'.withSchema "multipart/form-data" = media' at hmultipart ⊢
  cases hmultipart with
  | some hmedia => exact .some (.mk _ hmedia)
  | none =>
      dsimp only
      generalize content.withSchema _ = media at hencoded ⊢
      generalize content'.withSchema _ = media' at hencoded ⊢
      cases hencoded with
      | none => exact .none
      | some hmedia => exact .some (.mk _ hmedia)

end Contents

section Values

variable {excused : CompileError → Prop} {R : Schema → Schema → Prop} {ρ : Relabeling}
  {setting setting' : Setting}
  (h : Setting.Transfers excused R ρ setting setting') {direction : Direction}
include h

/-- A schema that may be missing is typed alike. -/
theorem typeOptional_carries {slot slot' : Option (Slot Schema)}
    (hslot : Option.Rel (Slot.Alike R) slot slot') :
    Logged.Carries excused (Option.map (·.relabel ρ)) (typeOptional setting direction slot)
      (typeOptional setting' direction slot') := by
  cases hslot with
  | none => exact .pure rfl
  | some hslot => exact h.slots direction _ _ hslot

theorem typeMedia_carries {media media' : Option MediaType}
    (hmedia : Option.Rel (MediaType.Alike R) media media') :
    Logged.Carries excused (Option.map (·.relabel ρ)) (typeMedia setting direction media)
      (typeMedia setting' direction media') := by
  cases hmedia with
  | none => exact .pure rfl
  | some hmedia => exact typeOptional_carries h hmedia.schema

theorem typeContent_carries {content content' : Content}
    (hcontent : content.Alike (MediaType.Alike R) content') :
    Logged.Carries excused (Option.map (·.relabel ρ)) (typeContent setting direction content)
      (typeContent setting' direction content') :=
  typeMedia_carries h (Content.chosen_alike hcontent)

end Values

/-- A value with the same description around it. -/
theorem described_relabel (ρ : Relabeling) {description description' : Option String}
    (hd : description = description') (value : Option TypeNode) :
    (value.map (describe description)).map (·.relabel ρ)
      = (value.map (·.relabel ρ)).map (describe description') := by
  rw [← hd, Option.map_map, Option.map_map]
  exact congrArg (fun f => value.map f) (funext fun v => describe_relabel ρ description v)

/-- Values that are the same but for their labels are declared alike, or left out alike. -/
theorem declare_carries (ρ : Relabeling) (registry : Registry) (key : String)
    (value : Option TypeNode) :
    Logged.Carries excused (Option.map (·.relabel ρ)) (declare registry key value)
      (declare registry key (value.map (·.relabel ρ))) := by
  cases value with
  | none => exact (Logged.Reduces.report _ _).bind fun _ _ _ _ _ => .pure rfl
  | some v =>
      refine .pure ?_
      rw [Option.map_some, NamedType.relabel, TypeNode.description_relabel]

section Declarations

variable {excused : CompileError → Prop} {R : Schema → Schema → Prop} {ρ : Relabeling}
  {setting setting' : Setting}
  (h : Setting.Transfers excused R ρ setting setting')
include h

/-- Parameters that are alike are typed alike. -/
theorem typeParameter_carries {p p' : Parameter} (hp : p.Alike R p') :
    Logged.Carries excused (Option.map (·.relabel ρ)) (typeParameter setting p)
      (typeParameter setting' p') := by
  -- The object is built from the keywords of the parameter, which are the same in both.
  refine (typeOptional_carries h hp.schema).bind fun value => .pure ?_
  rw [← hp.name, ← hp.required, ← hp.description]
  cases value with
  | none => rfl
  | some v =>
      simp only [Option.map_some, TypeNode.relabel_mk, Shape.relabel_object, List.map_singleton,
        Property.relabel_field]

theorem typeBody_carries {b b' : RequestBody} (hb : b.Alike R b') :
    Logged.Carries excused (Option.map (·.relabel ρ)) (typeBody setting b) (typeBody setting' b') :=
  (typeContent_carries h hb.content).bind fun value =>
    .pure (described_relabel ρ hb.description value)

theorem typeResponse_carries {r r' : Response} (hr : r.Alike R r') :
    Logged.Carries excused (Option.map (·.relabel ρ)) (typeResponse setting r)
      (typeResponse setting' r') :=
  (typeContent_carries h hr.content).bind fun value =>
    .pure (described_relabel ρ hr.description value)

theorem typeHeader_carries {r r' : Header} (hr : r.Alike R r') :
    Logged.Carries excused (Option.map (·.relabel ρ)) (typeHeader setting r)
      (typeHeader setting' r') :=
  (typeOptional_carries h hr.schema).bind fun value =>
    .pure (described_relabel ρ hr.description value)

/-- Entries are typed alike when definitions of their kind are: the references are the same.
    -/
theorem typeEntry_carries {α : Type} {Q : α → α → Prop}
    {inline inline' : α → Typing (Option TypeNode)}
    (hinline : ∀ a a', Q a a' →
      Logged.Carries excused (Option.map (·.relabel ρ)) (inline a) (inline' a'))
    {slot slot' : Slot α} (hslot : slot.Alike Q slot') :
    Logged.Carries excused (Option.map (·.relabel ρ)) (typeEntry setting inline slot)
      (typeEntry setting' inline' slot') := by
  cases hslot with
  | reference pointer => exact (h.references pointer).bind fun _ => .pure rfl
  | inline ha => exact hinline _ _ ha

/-- A registry is typed alike, entry by entry. -/
theorem typeRegistry_carries {α : Type} {Q : α → α → Prop} (registry : Registry)
    {inline inline' : α → Typing (Option TypeNode)}
    (hinline : ∀ a a', Q a a' →
      Logged.Carries excused (Option.map (·.relabel ρ)) (inline a) (inline' a'))
    {entries entries' : OrderedMap String (Slot α)} (he : entries.Alike (Slot.Alike Q) entries') :
    Logged.Carries excused (List.map (·.relabel ρ)) (typeRegistry setting registry inline entries)
      (typeRegistry setting' registry inline' entries') := by
  refine kept_carries (he.imp fun e e' hentry => ?_)
  rcases hentry with ⟨key, hslot⟩
  exact Logged.Carries.bind (typeEntry_carries h hinline hslot) (declare_carries ρ registry key)

/-- The declarations of components that are alike are the same, but for the labels. -/
theorem typeComponents_carries (hc : setting.components.Alike R setting'.components) :
    Logged.Carries excused (List.map (·.relabel ρ)) (typeComponents setting)
      (typeComponents setting') := by
  have hschemas := typeRegistry_carries h .schemas
    (fun s s' hs => h.slots .request (.inline s) (.inline s') (.inline hs)) hc.schemas
  have hparameters := typeRegistry_carries h .parameters
    (fun _ _ hp => typeParameter_carries h hp) hc.parameters
  have hbodies := typeRegistry_carries h .requestBodies
    (fun _ _ hb => typeBody_carries h hb) hc.requestBodies
  have hresponses := typeRegistry_carries h .responses
    (fun _ _ hr => typeResponse_carries h hr) hc.responses
  have hheaders := typeRegistry_carries h .headers
    (fun _ _ hr => typeHeader_carries h hr) hc.headers
  -- The registries are typed in this order, and the declarations are put together.
  refine hschemas.bind fun schemas => hparameters.bind fun parameters =>
    hbodies.bind fun bodies => hresponses.bind fun responses =>
      hheaders.bind fun headers => .pure ?_
  simp only [List.map_append]

end Declarations

section Operations

variable {excused : CompileError → Prop} {R : Schema → Schema → Prop} {ρ : Relabeling}
  {setting setting' : Setting}

/-- The same response counts as the successful one. -/
theorem Operation.success?_alike {o o' : Operation} (ho : o.Alike R o') :
    Option.Rel (SameKey (Slot.Alike (Response.Alike R))) o.success? o'.success? := by
  refine rel_findSome? (fun e e' he => ?_) ho.responses
  rcases he with ⟨code, hslot⟩
  dsimp only
  cases successStatus code with
  | none => exact .none
  | some status => exact .some (.mk status hslot)

variable (h : Setting.Transfers excused R ρ setting setting')
include h

/-- A declared parameter has the same keywords in both, and an entry that is the same but for
    its labels. -/
theorem declareParameter_carries {slot slot' : Slot Parameter}
    (hslot : slot.Alike (Parameter.Alike R) slot') :
    Logged.Carries excused (Option.map (·.relabel ρ)) (declareParameter setting slot)
      (declareParameter setting' slot') := by
  cases hslot with
  | reference pointer =>
      refine (h.parameter pointer).bind
        fun p p' _ _ hp => (h.references pointer).bind fun target => .pure ?_
      -- The definition is looked up for its keywords only, and the type is named.
      rw [← hp.location, ← hp.required, ← hp.description]
      rfl
  | @inline p p' hp =>
      refine (typeOptional_carries h hp.schema).bind fun value => .pure ?_
      rw [← hp.name, ← hp.location, ← hp.required, ← hp.description]
      cases value with
      | none => rfl
      | some v =>
          simp only [Option.map_some, DeclaredParameter.relabel, ParameterEntry.relabel,
            Property.relabel_field]

theorem declareParameters_carries {slots slots' : List (Slot Parameter)}
    (hslots : List.Forall₂ (Slot.Alike (Parameter.Alike R)) slots slots') :
    Logged.Carries excused (List.map (·.relabel ρ)) (declareParameters setting slots)
      (declareParameters setting' slots') :=
  kept_carries (hslots.imp fun _ _ hslot => declareParameter_carries h hslot)

/-- What is looked up for a response is alike. -/
theorem resolveResponse_alike {slot slot' : Slot Response}
    (hslot : slot.Alike (Response.Alike R) slot') :
    Logged.Reduces (Response.Alike R) excused (resolveResponse setting slot)
      (resolveResponse setting' slot') := by
  cases hslot with
  | reference pointer => exact h.response pointer
  | inline hr => exact .pure hr

/-- A response header is typed alike. -/
theorem responseHeader_carries (name : String) {slot slot' : Slot Header}
    (hslot : slot.Alike (Header.Alike R) slot') :
    Logged.Carries excused (Option.map (·.relabel ρ)) (responseHeader setting name slot)
      (responseHeader setting' name slot') := by
  cases hslot with
  | reference pointer =>
      exact (h.references pointer).bind fun target =>
        .pure (congrArg some (Property.relabel_field ρ name true none target.node))
  | inline hheader =>
      refine (typeOptional_carries h hheader.schema).bind fun value => .pure ?_
      rw [← hheader.required, ← hheader.description]
      exact optionalField_relabel ρ _ _ _ value

theorem responseHeaders_carries {r r' : Response} (hr : r.Alike R r') :
    Logged.Carries excused (List.map (·.relabel ρ)) (responseHeaders setting r)
      (responseHeaders setting' r') := by
  refine kept_carries (hr.headers.imp fun e e' he => ?_)
  rcases he with ⟨name, hslot⟩
  exact responseHeader_carries h name hslot

/-- The entries for a response are the same, but for the labels. -/
theorem responseEntries_carries (status : Nat) {slot slot' : Slot Response}
    (hslot : slot.Alike (Response.Alike R) slot') :
    Logged.Carries excused (List.map (·.relabel ρ)) (responseEntries setting status slot)
      (responseEntries setting' status slot') := by
  refine (resolveResponse_alike h hslot).bind fun r r' _ _ hr => ?_
  refine (typeContent_carries h hr.content).bind fun body => ?_
  refine (responseHeaders_carries h hr).bind fun headers => .pure ?_
  have hbody := optionalField_relabel ρ "resBody" true r.description body
  -- The status is no label, and the body and the headers follow it.
  rw [← hr.description, ← headersEntry_relabel, List.cons_append, List.cons_append,
    List.map_cons, List.map_append, ← Option.toList_map, hbody, Property.relabel_field]
  rfl

/-- A request body is typed alike, from its form entry or from its content. -/
theorem typeRequestBody_carries {b b' : RequestBody} (hb : b.Alike R b') :
    Logged.Carries excused (Option.map (·.relabel ρ)) (typeRequestBody setting b)
      (typeRequestBody setting' b') := by
  have hform := Content.form_alike hb.content
  unfold typeRequestBody
  generalize b.content.form = form at hform ⊢
  generalize b'.content.form = form' at hform ⊢
  cases hform with
  | none => exact typeContent_carries h hb.content
  | some hmedia =>
      rcases hmedia with ⟨format, hmedia⟩
      exact typeMedia_carries h (.some hmedia)

/-- The request body that is found, and its type. -/
theorem resolveRequestBody_alike {slot slot' : Slot RequestBody}
    (hslot : slot.Alike (RequestBody.Alike R) slot') :
    Logged.Reduces (fun r r' => r.1.Alike R r'.1 ∧ r.2.map (·.relabel ρ) = r'.2) excused
      (resolveRequestBody setting slot) (resolveRequestBody setting' slot') := by
  cases hslot with
  | reference pointer =>
      refine (h.requestBody pointer).bind
        fun b b' _ _ hb => Logged.Reduces.bind (h.references pointer)
          fun target target' _ _ htarget => .pure ⟨hb, ?_⟩
      rw [← htarget]
      rfl
  | inline hb =>
      exact Logged.Reduces.bind (typeRequestBody_carries h hb)
        fun value value' _ _ hvalue => .pure ⟨hb, hvalue⟩

/-- The entries for a request body are the same, but for the labels. -/
theorem requestEntries_carries {slot slot' : Slot RequestBody}
    (hslot : slot.Alike (RequestBody.Alike R) slot') :
    Logged.Carries excused (List.map (·.relabel ρ)) (requestEntries setting slot)
      (requestEntries setting' slot') := by
  refine (resolveRequestBody_alike h hslot).bind fun r r' _ _ hr => ?_
  rcases r with ⟨b, value⟩
  rcases r' with ⟨b', value'⟩
  rcases hr with ⟨hb, rfl⟩
  have hform := Content.form_alike hb.content
  refine .pure ?_
  have hvalue := optionalField_relabel ρ "reqBody" (b.required.getD true) b.description value
  rw [← hb.required, ← hb.description, List.map_append, ← Option.toList_map,
    ← Option.toList_map, hvalue, List.append_left_inj]
  generalize b.content.form = form at hform ⊢
  generalize b'.content.form = form' at hform ⊢
  cases hform with
  | none => rfl
  | some hmedia =>
      rcases hmedia with ⟨format, _⟩
      exact congrArg (fun q => [q]) (Property.relabel_field ρ "reqFormat" true none _)

theorem optionalRequestEntries_carries {slot slot' : Option (Slot RequestBody)}
    (hslot : Option.Rel (Slot.Alike (RequestBody.Alike R)) slot slot') :
    Logged.Carries excused (List.map (·.relabel ρ)) (optionalRequestEntries setting slot)
      (optionalRequestEntries setting' slot') := by
  cases hslot with
  | none => exact .pure rfl
  | some hslot => exact requestEntries_carries h hslot

/-- Operations that are alike are typed alike. -/
theorem typeOperation_carries {item item' : PathItem} (hitem : item.Alike R item')
    (method : Method) {o o' : Operation} (ho : o.Alike R o') :
    Logged.Carries excused (Option.map (·.relabel ρ)) (typeOperation setting item method o)
      (typeOperation setting' item' method o') := by
  -- The parameters come first, whether or not a response is successful.
  have hparameters := List.rel_append hitem.parameters ho.parameters
  refine (declareParameters_carries h hparameters).bind fun declared => ?_
  have hsuccess := Operation.success?_alike ho
  generalize o.success? = success at hsuccess ⊢
  generalize o'.success? = success' at hsuccess ⊢
  cases hsuccess with
  | none => exact .pure rfl
  | some hresponse =>
      rcases hresponse with ⟨status, hslot⟩
      refine (responseEntries_carries h status hslot).bind fun response => ?_
      refine (optionalRequestEntries_carries h ho.requestBody).bind fun request => .pure ?_
      rw [← ho.description, parameterEntries_relabel, ← List.map_append, ← List.map_append]
      rfl

end Operations

section Paths

variable {excused : CompileError → Prop} {R : Schema → Schema → Prop} {ρ : Relabeling}
  {setting setting' : Setting}
  (h : Setting.Transfers excused R ρ setting setting')
include h

/-- What is looked up for a parameter is alike. -/
theorem resolveParameter_alike {slot slot' : Slot Parameter}
    (hslot : slot.Alike (Parameter.Alike R) slot') :
    Logged.Reduces (Parameter.Alike R) excused (resolveParameter setting slot)
      (resolveParameter setting' slot') := by
  cases hslot with
  | reference pointer => exact h.parameter pointer
  | inline hp => exact .pure hp

/-- Related schemas are of the same kind, references followed. -/
theorem schemaKind_alike {slot slot' : Option (Slot Schema)}
    (hslot : Option.Rel (Slot.Alike R) slot slot') :
    Logged.Reduces Eq excused (schemaKind setting slot) (schemaKind setting' slot') := by
  cases hslot with
  | none => exact .pure rfl
  | some hslot =>
      cases hslot with
      | reference pointer =>
          exact (h.schema pointer).bind
            fun s s' _ _ hs => .pure (h.kind s s' hs)
      | inline hs => exact .pure (h.kind _ _ hs)

/-- A path parameter has the same name and kind in both. -/
theorem pathParameter_alike {slot slot' : Slot Parameter}
    (hslot : slot.Alike (Parameter.Alike R) slot') :
    Logged.Reduces Eq excused (pathParameter setting slot) (pathParameter setting' slot') := by
  refine (resolveParameter_alike h hslot).bind fun p p' _ _ hp => ?_
  rw [← hp.location, ← hp.name]
  split
  · exact (schemaKind_alike h hp.schema).bind fun kind kind' _ _ hkind =>
      .pure (congrArg (fun kind => some (p.name, kind)) hkind)
  · exact .pure rfl

/-- The path parameters of two path items, with the kinds that name directories. -/
theorem pathParameters_alike {item item' : PathItem} (hitem : item.Alike R item') :
    Logged.Reduces Eq excused (pathParameters setting item) (pathParameters setting' item') := by
  -- The parameters of all operations count, one operation after the other.
  have hoperations : List.Forall₂ (Slot.Alike (Parameter.Alike R))
      (item.operations.values.flatMap (·.parameters))
      (item'.operations.values.flatMap (·.parameters)) :=
    List.rel_flatMap hitem.operations.values fun _ _ ho => ho.parameters
  have hall := List.rel_append hitem.parameters hoperations
  have hdeclared := Logged.Reduces.mapM_forall₂ (hall.imp fun _ _ => pathParameter_alike h)
  refine hdeclared.bind fun declared declared' _ _ heq => .pure ?_
  rw [List.forall₂_eq_eq_eq] at heq
  rw [heq]

/-- An operation of a path is typed alike, skipped in both, or dropped in both. -/
theorem typePathOperation_carries (template : String) {item item' : PathItem}
    (hitem : item.Alike R item') (method : Method) {o o' : Operation} (ho : o.Alike R o') :
    Logged.Carries excused (Option.map (·.relabel ρ))
      (typePathOperation setting template item method o)
      (typePathOperation setting' template item' method o') := by
  unfold typePathOperation
  rw [← ho.deprecated]
  split
  · exact (Logged.Reduces.report _ _).bind fun _ _ _ _ _ => .pure rfl
  · refine (typeOperation_carries h hitem method ho).bind fun typed => ?_
    cases typed with
    | some o => exact .pure rfl
    | none => exact (Logged.Reduces.report _ _).bind fun _ _ _ _ _ => .pure rfl

/-- Paths that are alike are typed alike, and put in the same place. -/
theorem typePath_carries (template : String) {item item' : PathItem}
    (hitem : item.Alike R item') :
    Logged.Carries excused (Option.map (·.relabel ρ)) (typePath setting template item)
      (typePath setting' template item') := by
  refine Logged.Carries.bind (f := List.map (Option.map (·.relabel ρ))) ?_ fun results => ?_
  · refine Logged.Carries.mapM (hitem.operations.imp fun e e' he => ?_)
    rcases he with ⟨method, ho⟩
    exact typePathOperation_carries h template hitem method ho
  · -- As many operations are left in both, so the paths remain or are left out together.
    rw [filterMap_id_map]
    dsimp only
    rw [List.isEmpty_map]
    split
    · exact (Logged.Reduces.report _ _).bind fun _ _ _ _ _ => .pure rfl
    · refine (pathParameters_alike h hitem).bind fun declared declared' _ _ heq => .pure ?_
      rw [heq]
      rfl

/-- Paths under the same templates are typed alike. -/
theorem typePaths_carries {paths paths' : OrderedMap String PathItem}
    (hpaths : paths.Alike (PathItem.Alike R) paths') :
    Logged.Carries excused (List.map (·.relabel ρ)) (typePaths setting paths)
      (typePaths setting' paths') := by
  refine kept_carries (hpaths.imp fun e e' he => ?_)
  rcases he with ⟨template, hitem⟩
  exact typePath_carries h template hitem

end Paths

/-- Documents that are alike are typed alike, or refused with the same error. -/
theorem toApi_mapsTo {R : Schema → Schema → Prop} {ρ : Relabeling} {document document' : Document}
    {options options' : Options} (hdocument : document.Alike R document')
    (h : (document.setting options).Translates R ρ (document'.setting options')) :
    Logged.MapsTo (·.relabel ρ) (document.toApi options) (document'.toApi options') := by
  -- The names that must be distinct are made from keys, and the base address from servers.
  have hnames : checkNames document.components = checkNames document'.components := by
    unfold checkNames
    rw [hdocument.components.entryKeys_eq]
  have hbase : document.baseUrl = document'.baseUrl := by
    unfold Document.baseUrl
    rw [hdocument.servers]
  unfold Document.toApi
  dsimp only
  rw [hnames, hbase]
  -- The names of both are checked with one result, and everything else is compared.
  refine (Logged.Reduces.refl _).bind fun _ _ _ _ _ => ?_
  refine (typeComponents_carries h.transfers h.components).bind fun types => ?_
  refine (typePaths_carries h.transfers hdocument.paths).bind fun paths => ?_
  refine (Logged.Reduces.report _ _).bind fun _ _ _ _ _ => .pure ?_
  have hspace : ρ.space options.space = options'.space := h.space
  rw [← hspace]
  rfl

/-- When no label has to be changed, the types are the same. -/
theorem toApi_matches {R : Schema → Schema → Prop} {document document' : Document}
    {options : Options} (hdocument : document.Alike R document')
    (h : (document.setting options).Translates R {} (document'.setting options)) :
    Logged.Matches Eq (document.toApi options) (document'.toApi options) := by
  refine (toApi_mapsTo hdocument h).mono (fun api api' _ _ heq => ?_) fun _ he => he
  exact (Api.relabel_id api).symm.trans heq

/-- Then so are the texts, or the error that both documents are refused with. -/
theorem compile_outcome_eq {R : Schema → Schema → Prop} {document document' : Document}
    {options : Options} (hdocument : document.Alike R document')
    (h : (document.setting options).Translates R {} (document'.setting options)) :
    (document.compile options).outcome = (document'.compile options).outcome := by
  refine Logged.Reduces.outcome_eq ((toApi_matches hdocument h).bind fun api api' _ _ heq => ?_)
  exact heq ▸ .refl _

end RouteTypes
