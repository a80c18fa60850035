import RouteTypes.Proofs.Lookups
import RouteTypes.Proofs.Origins
import RouteTypes.Proofs.SchemaKeys

/-!
# Object Keys

When every object of a typed document has each of its keys once.

The objects of schemas have, and so has the object for the headers of a response, because
headers come from a map. The entries of an operation have names of their own in a fixed
order, and the operations of a path stand under their methods. Only one object is put
together from two lists: the inline parameters of one location are those of the path, then
those of the operation, and nothing is done about a name that stands in both. So all keys
are distinct exactly when the names of these parameters are (`toApi_keysDistinct_iff`),
although an operation is free to declare again what its path has declared.

## Main definitions

* `Api.KeysDistinct`: All objects of a typed document, the operations among them.
* `Slot.parameterName?`: What an inline parameter adds to the object of its location.
* `Document.ParametersDistinct`: No operation has two parameters with one name.
* `TypedOperation.entryOrder`: The names of the entries of an operation.

## Theorems

* `declareParameters_names`: The keys of the object for the parameters of a location.
* `parameterEntries_keysDistinct_iff`: When merged parameters have distinct keys.
* `typeOperation_order`: The entries of an operation come in that order.
* `typeOperation_names`, `typePath_methods`: The keys of an operation and of a path.
* `toApi_keysDistinct_iff`: When all keys of a typed document are distinct.
-/

namespace RouteTypes

/-- The keys of the operation, the methods of the path and the keys of all objects in a
    document are distinct. -/
structure Api.KeysDistinct (api : Api) : Prop where
  nodes : ∀ n ∈ api.nodes, n.shape.KeysDistinct
  operations : ∀ p ∈ api.paths, ∀ o ∈ p.operations, (o.entries.map (·.name)).Nodup
  methods : ∀ p ∈ api.paths, (p.operations.map (·.property.name)).Nodup

/-- The name of an inline parameter that is sent at a location and has a type. -/
def Slot.parameterName? (location : Location) : Slot Parameter → Option String
  | .reference _ => none
  | .inline p =>
    if p.location = location ∧ p.schema.any Slot.hasType = true then some p.name else none

/-- The inline parameters of the operation that are sent at one place have distinct
    names, those of its path included. -/
def PathItem.ParametersDistinct (item : PathItem) (operation : Operation) : Prop :=
  ∀ location ∈ [Location.header, .query],
    ((item.parameters ++ operation.parameters).filterMap
      (Slot.parameterName? location)).Nodup

/-- So do those of every operation that is typed. -/
def Document.ParametersDistinct (document : Document) : Prop :=
  ∀ item operation, document.Describes item operation → operation.success?.isSome = true →
    item.ParametersDistinct operation

section Operations

variable {setting : Setting}

/-- What an inline parameter adds to the object of a location is named as it says. -/
theorem declareParameter_names {slot : Slot Parameter} {r : Option DeclaredParameter}
    (h : (declareParameter setting slot).Yields r) (location : Location) :
    ((r.toList.filter (·.location = location)).filterMap (·.entry.field?)).map (·.name)
      = (slot.parameterName? location).toList.map PropertyName.field := by
  cases slot with
  | reference pointer =>
      simp only [declareParameter, Logged.yields_bind, Logged.yields_pure] at h
      rcases h with ⟨parameter, _, target, _, rfl⟩
      by_cases hlocation : parameter.location = location
      -- A parameter elsewhere is a member of its own and adds no key.
      · simp [hlocation, ParameterEntry.field?, Slot.parameterName?]
      · simp [hlocation, Slot.parameterName?]
  | inline parameter =>
      simp only [declareParameter, Logged.yields_bind, Logged.yields_pure] at h
      rcases h with ⟨value, hvalue, rfl⟩
      have hname : (Slot.inline parameter).parameterName? location
          = if parameter.location = location ∧ value.isSome = true then some parameter.name
            else none := by
        rw [typeOptional_isSome hvalue]
        rfl
      rw [hname]
      cases value with
      | none => simp
      | some v =>
          by_cases hlocation : parameter.location = location
          · simp [hlocation, ParameterEntry.field?, Property.field]
          · simp [hlocation]

/-- The keys of the object for the parameters of a location are their names, in order. -/
theorem declareParameters_names {slots : List (Slot Parameter)} {ds : List DeclaredParameter}
    (h : (declareParameters setting slots).Yields ds) (location : Location) :
    ((ds.filter (·.location = location)).filterMap (·.entry.field?)).map (·.name)
      = (slots.filterMap (Slot.parameterName? location)).map PropertyName.field := by
  simp only [declareParameters, Logged.yields_bind, Logged.yields_pure, Logged.yields_mapM] at h
  rcases h with ⟨results, hresults, rfl⟩
  induction hresults with
  | nil => rfl
  | @cons slot r slots results hslot _ ih =>
      -- Of each parameter something or nothing is kept, so the lists are put together from short
      -- ones.
      have hfirst : (r :: results).filterMap id = r.toList ++ results.filterMap id := by
        cases r <;> rfl
      have hname : (slot :: slots).filterMap (Slot.parameterName? location)
          = (slot.parameterName? location).toList
            ++ slots.filterMap (Slot.parameterName? location) := by
        rw [List.filterMap_cons]
        cases slot.parameterName? location <;> rfl
      rw [hfirst, hname, List.filter_append, List.filterMap_append, List.map_append,
        List.map_append, declareParameter_names hslot, ih]

/-- All objects in what a parameter adds to the merged property of its location have
    distinct keys. -/
def DeclaredParameter.KeysDistinct (d : DeclaredParameter) : Prop :=
  (∀ v, d.entry.wrapper? = some v → v.KeysDistinct) ∧
    ∀ q, d.entry.field? = some q → q.KeysDistinct

/-- What a parameter is declared with has distinct keys. -/
theorem declareParameter_keysDistinct {slot : Slot Parameter} (hslot : slot.All Parameter.Keyed)
    {d : DeclaredParameter} (h : (declareParameter setting slot).Yields (some d)) :
    d.KeysDistinct := by
  refine declareParameter_holds h (fun pointer target description _ _ => ?_) ?_
  · exact TypeNode.keysDistinct_reference rfl
  · rintro parameter value rfl hvalue
    exact Property.keysDistinct_field (typeOptional_keysDistinct hslot hvalue)

/-- So has what all parameters of a list are declared with. -/
theorem declareParameters_keysDistinct {slots : List (Slot Parameter)}
    (hslots : ∀ slot ∈ slots, slot.All Parameter.Keyed) {ds : List DeclaredParameter}
    (h : (declareParameters setting slots).Yields ds) : ∀ d ∈ ds, d.KeysDistinct := by
  intro d hd
  rcases exists_of_mem_declareParameters h hd with ⟨slot, hslot, hyields⟩
  exact declareParameter_keysDistinct (hslots slot hslot) hyields

/-- Parameters are merged into one object, so its keys are all that counts. -/
theorem mergedValues_keysDistinct_iff {here : List DeclaredParameter}
    (h : ∀ d ∈ here, d.KeysDistinct) :
    (∀ v ∈ mergedValues here, v.KeysDistinct) ↔
      ((here.filterMap (·.entry.field?)).map (·.name)).Nodup := by
  unfold mergedValues
  dsimp only
  constructor
  · intro hall
    by_cases hempty : (here.filterMap (·.entry.field?)).isEmpty = true
    · rw [List.isEmpty_iff.mp hempty]
      exact List.nodup_nil
    · rw [if_neg hempty] at hall
      -- The object comes last among the merged values, and its keys are the names of its fields.
      have hobject := hall _ (List.mem_append_right _ List.mem_cons_self)
      exact ((TypeNode.keysDistinct_iff _).mp hobject).1
  · intro hnames v hv
    rcases List.mem_append.mp hv with hv | hv
    · rcases List.mem_filterMap.mp hv with ⟨d, hd, hentry⟩
      exact (h d hd).1 v hentry
    · split at hv
      · exact absurd hv List.not_mem_nil
      · rw [List.mem_singleton.mp hv]
        refine TypeNode.keysDistinct_object rfl hnames fun q hq => ?_
        rcases List.mem_filterMap.mp hq with ⟨d, hd, hentry⟩
        exact (h d hd).2 q hentry

/-- The values for a location have distinct keys when its names are distinct. -/
theorem mergeParameters_keysDistinct_iff {ds : List DeclaredParameter}
    (h : ∀ d ∈ ds, d.KeysDistinct) (location : Location) :
    (∀ group, mergeParameters ds location = some group → ∀ v ∈ group.values, v.KeysDistinct) ↔
      (((ds.filter (·.location = location)).filterMap (·.entry.field?)).map (·.name)).Nodup := by
  rw [← mergedValues_keysDistinct_iff fun d hd => h d (List.mem_of_mem_filter hd)]
  constructor
  · intro hgroup
    cases hmerged : mergeParameters ds location with
    | none =>
        -- Without parameters at the location nothing is merged.
        have hnil : ds.filter (·.location = location) = [] := by
          unfold mergeParameters at hmerged
          dsimp only at hmerged
          split at hmerged
          · next hempty => exact List.isEmpty_iff.mp hempty
          · exact absurd hmerged (by simp only [reduceCtorEq, not_false_eq_true])
        rw [hnil]
        exact fun v hv => absurd hv List.not_mem_nil
    | some group => exact mergeParameters_values hmerged ▸ hgroup group hmerged
  · intro hvalues group hmerged
    rw [mergeParameters_values hmerged]
    exact hvalues

/-- The objects for parameters have distinct keys when the names at each of the two
    locations are distinct. -/
theorem parameterEntries_keysDistinct_iff {ds : List DeclaredParameter}
    (h : ∀ d ∈ ds, d.KeysDistinct) :
    (∀ q ∈ parameterEntries ds, q.KeysDistinct) ↔
      ∀ location ∈ [Location.header, .query],
        (((ds.filter (·.location = location)).filterMap (·.entry.field?)).map (·.name)).Nodup := by
  simp only [← mergeParameters_keysDistinct_iff h, List.forall_mem_cons]
  unfold parameterEntries
  simp only [List.forall_mem_append, Option.mem_toList, Option.map_eq_some_iff,
    Property.KeysDistinct, forall_exists_index, and_imp, forall_apply_eq_imp_iff₂,
    List.not_mem_nil, false_implies, implies_true, and_true]
  rfl

/-- Where a reference is followed to has what all entries of the registry have. -/
theorem follow_all {α : Type} {P : α → Prop} {registry : Registry}
    {entries : OrderedMap String (Slot α)} (hentries : entries.All (·.All P)) {reference : String}
    {value : α} (h : follow registry entries reference = .ok value) : P value := by
  -- Along the links that are left, each of which leads to another entry.
  have hsteps : ∀ n r, followSteps registry entries reference n r = .ok value → P value := by
    intro n
    induction n with
    | zero =>
        intro r hr
        exact absurd hr (by simp only [followSteps, reduceCtorEq, not_false_eq_true])
    | succ n ih =>
        intro r hr
        unfold followSteps at hr
        split at hr
        · exact absurd hr (by simp only [reduceCtorEq, not_false_eq_true])
        · next key _ =>
            split at hr
            · exact absurd hr (by simp only [reduceCtorEq, not_false_eq_true])
            · next found hget =>
                obtain rfl := Except.ok.inj hr
                exact hentries (key, .inline found) (OrderedMap.mem_of_get? hget)
            · exact ih _ hr
  exact hsteps _ _ h

/-- The response that an operation takes is one of the document. -/
theorem resolveResponse_keyed (hkeyed : setting.components.Keyed) {slot : Slot Response}
    (hslot : slot.All Response.Keyed) {r : Response}
    (h : (resolveResponse setting slot).Yields r) : r.Keyed := by
  cases slot with
  | reference pointer => exact follow_all hkeyed.responses ((Logged.yields_ofExcept _ _).mp h)
  | inline response =>
      obtain rfl := (Logged.yields_pure _ _).mp h
      exact hslot

/-- What a header is typed into has distinct keys. -/
theorem responseHeader_keysDistinct {name : String} {slot : Slot Header}
    (hslot : slot.All Header.Keyed) {q : Property}
    (h : (responseHeader setting name slot).Yields (some q)) : q.KeysDistinct := by
  rcases responseHeader_yields h with
    ⟨pointer, target, rfl, _, rfl⟩ | ⟨header, value, rfl, hvalue, rfl⟩
  · exact Property.keysDistinct_field (TypeNode.keysDistinct_reference rfl)
  · exact Property.keysDistinct_field (typeOptional_keysDistinct hslot hvalue)

/-- A header is typed under its name. -/
theorem responseHeader_name {name : String} {slot : Slot Header} {r : Option Property}
    (h : (responseHeader setting name slot).Yields r) :
    (r.toList.map (·.name)).Sublist [PropertyName.field name] := by
  cases slot with
  | reference pointer =>
      simp only [responseHeader, Logged.yields_bind, Logged.yields_pure] at h
      rcases h with ⟨target, _, rfl⟩
      exact List.Sublist.refl _
  | inline header =>
      simp only [responseHeader, Logged.yields_bind, Logged.yields_pure] at h
      rcases h with ⟨value, _, rfl⟩
      exact names_optional (by exact fun _ => rfl) value

/-- What is kept of a repeated step is named after the elements, in their order. -/
theorem names_of_mapM {α β κ : Type} {f : α → Typing (Option β)} {xs : List α}
    {results : List (Option β)} (h : (xs.mapM f).Yields results) (name : β → κ) (key : α → κ)
    (hname : ∀ x r, (f x).Yields r → (r.toList.map name).Sublist [key x]) :
    ((results.filterMap id).map name).Sublist (xs.map key) := by
  rw [Logged.yields_mapM] at h
  induction h with
  | nil => exact List.nil_sublist _
  | @cons x r xs results hx _ ih =>
      have hfirst : (r :: results).filterMap id = r.toList ++ results.filterMap id := by
        cases r <;> rfl
      rw [hfirst, List.map_append, List.map_cons]
      exact (hname x r hx).append ih

/-- The entry for the headers is an object with the names of the headers as keys, which are
    those of a map. -/
theorem headersEntry_keysDistinct {response : Response} (hr : response.Keyed)
    {qs : List Property} (h : (responseHeaders setting response).Yields qs) :
    ∀ q ∈ headersEntry qs, q.KeysDistinct := by
  simp only [responseHeaders, Logged.yields_bind, Logged.yields_pure] at h
  rcases h with ⟨results, hresults, rfl⟩
  have hkeys := nodup_fields response.headers.nodup
  rw [List.map_map] at hkeys
  have hnames := names_of_mapM hresults (·.name) (fun e => PropertyName.field e.1)
    fun _ _ he => responseHeader_name he
  intro q hq
  unfold headersEntry at hq
  split at hq
  · exact absurd hq List.not_mem_nil
  · rw [List.mem_singleton.mp hq]
    refine Property.keysDistinct_field (TypeNode.keysDistinct_object rfl
      (hnames.nodup hkeys) fun header hheader => ?_)
    rcases Logged.exists_of_mem_filterMap hresults hheader with ⟨e, he, hyields⟩
    exact responseHeader_keysDistinct (hr.headers e he) hyields

/-- The entries of a response have distinct keys. -/
theorem responseEntries_keysDistinct (hkeyed : setting.components.Keyed) {status : Nat}
    {slot : Slot Response} (hslot : slot.All Response.Keyed) {qs : List Property}
    (h : (responseEntries setting status slot).Yields qs) : ∀ q ∈ qs, q.KeysDistinct := by
  intro q hq
  rcases exists_of_mem_responseEntries h hq with
    ⟨response, hresponse, rfl | ⟨value, hvalue, rfl⟩ | ⟨headers, hheaders, hq⟩⟩
  · exact Property.keysDistinct_field (TypeNode.keysDistinct_word rfl trivial)
  · have hr := resolveResponse_keyed hkeyed hslot hresponse
    exact Property.keysDistinct_field
      (typeOptional_keysDistinct (Content.chosen_keyed hr.content) hvalue)
  · exact headersEntry_keysDistinct (resolveResponse_keyed hkeyed hslot hresponse) hheaders q hq

/-- What a request body is typed into has distinct keys. -/
theorem resolveRequestBody_keysDistinct {slot : Slot RequestBody}
    (hslot : slot.All RequestBody.Keyed) {body : RequestBody} {n : TypeNode}
    (h : (resolveRequestBody setting slot).Yields (body, some n)) : n.KeysDistinct := by
  rcases resolveRequestBody_yields h with
    ⟨pointer, target, rfl, _, rfl⟩ | ⟨rfl, ⟨f, hform, hvalue⟩ | ⟨_, hvalue⟩⟩
  · exact TypeNode.keysDistinct_reference rfl
  -- The form entry is one of the entries, so its schema says the same about itself.
  · exact typeOptional_keysDistinct (Content.form_keyed hslot hform) hvalue
  · exact typeOptional_keysDistinct (Content.chosen_keyed hslot) hvalue

/-- The entries of a request have distinct keys. -/
theorem optionalRequestEntries_keysDistinct {slot : Option (Slot RequestBody)}
    (hslot : ∀ s ∈ slot, s.All RequestBody.Keyed) {qs : List Property}
    (h : (optionalRequestEntries setting slot).Yields qs) : ∀ q ∈ qs, q.KeysDistinct := by
  intro q hq
  rcases exists_of_mem_optionalRequestEntries h hq with
    ⟨s, body, value, rfl, hbody, ⟨format, rfl⟩ | ⟨n, rfl, rfl⟩⟩
  · exact Property.keysDistinct_field (TypeNode.keysDistinct_word rfl trivial)
  · exact Property.keysDistinct_field (resolveRequestBody_keysDistinct (hslot s rfl) hbody)

/-- The entries for a request come in a fixed order. -/
theorem optionalRequestEntries_names {slot : Option (Slot RequestBody)} {qs : List Property}
    (h : (optionalRequestEntries setting slot).Yields qs) :
    (qs.map (·.name)).Sublist [.field "reqFormat", .field "reqBody"] := by
  cases slot with
  | none =>
      rw [optionalRequestEntries, Logged.yields_pure] at h
      rw [← h]
      exact List.nil_sublist _
  | some slot =>
      simp only [optionalRequestEntries, requestEntries, Logged.yields_bind,
        Logged.yields_pure] at h
      rcases h with ⟨⟨body, value⟩, _, rfl⟩
      have hformat : ((body.content.form.map fun f =>
          Property.field "reqFormat" true none { shape := .format f.1 }).toList.map
            (·.name)).Sublist [.field "reqFormat"] :=
        names_optional (by exact fun _ => rfl) _
      have hbody : ((value.map fun v =>
          Property.field "reqBody" (body.required.getD true) body.description v).toList.map
            (·.name)).Sublist [.field "reqBody"] :=
        names_optional (by exact fun _ => rfl) _
      rw [List.map_append]
      exact hformat.append hbody

/-- All objects in the entries of an operation have distinct keys when its parameters have
    distinct names. -/
theorem typeOperation_keysDistinct_iff (hkeyed : setting.components.Keyed) {item : PathItem}
    (hitem : ∀ slot ∈ item.parameters, slot.All Parameter.Keyed) {method : Method}
    {operation : Operation} (hoperation : operation.Keyed) {o : TypedOperation}
    (h : (typeOperation setting item method operation).Yields (some o)) :
    (∀ q ∈ o.entries, q.KeysDistinct) ↔ item.ParametersDistinct operation := by
  rcases typeOperation_yields h with
    ⟨declared, status, slot, response, request, hdeclared, hsuccess, hresponse, hrequest, rfl⟩
  have hparameters : ∀ s ∈ item.parameters ++ operation.parameters, s.All Parameter.Keyed :=
    List.forall_mem_append.mpr ⟨hitem, hoperation.parameters⟩
  -- The response was found among those of the operation.
  have hslot : slot.All Response.Keyed := by
    rcases List.exists_of_findSome?_eq_some hsuccess with ⟨e, he, hstatus⟩
    rcases Option.map_eq_some_iff.mp hstatus with ⟨_, _, hpair⟩
    rw [← (Prod.mk.inj hpair).2]
    exact hoperation.responses e he
  have hresponses := responseEntries_keysDistinct hkeyed hslot hresponse
  have hrequests := optionalRequestEntries_keysDistinct hoperation.requestBody hrequest
  have hmerged := parameterEntries_keysDistinct_iff
    (declareParameters_keysDistinct hparameters hdeclared)
  -- The keys for parameters are their names, and names are written as fields.
  simp only [declareParameters_names hdeclared, List.nodup_map_iff
    fun _ _ => PropertyName.field.inj] at hmerged
  dsimp only
  rw [PathItem.ParametersDistinct, ← hmerged]
  constructor
  -- The entries for parameters are the first of the three kinds.
  · exact fun hall q hq => hall q (List.mem_append_left _ (List.mem_append_left _ hq))
  · intro hall q hq
    rcases List.mem_append.mp hq with hq | hq
    · rcases List.mem_append.mp hq with hq | hq
      · exact hall q hq
      · exact hresponses q hq
    · exact hrequests q hq

/-- The names of the entries of an operation, in the order in which they come. -/
def TypedOperation.entryOrder : List PropertyName :=
  [.field "reqHeaders", .field "query", .field "status", .field "resBody",
    .field "resHeaders", .field "reqFormat", .field "reqBody"]

/-- The entries of an operation come in that order. -/
theorem typeOperation_order {item : PathItem} {method : Method} {operation : Operation}
    {o : TypedOperation} (h : (typeOperation setting item method operation).Yields (some o)) :
    (o.entries.map (·.name)).Sublist TypedOperation.entryOrder := by
  rcases typeOperation_yields h with
    ⟨declared, status, slot, response, request, _, _, hresponse, hrequest, rfl⟩
  have hnames := ((parameterEntries_names declared).append
    (responseEntries_names hresponse)).append (optionalRequestEntries_names hrequest)
  rw [← List.map_append, ← List.map_append] at hnames
  exact hnames

/-- The entries of an operation have names of their own. -/
theorem typeOperation_names {item : PathItem} {method : Method} {operation : Operation}
    {o : TypedOperation} (h : (typeOperation setting item method operation).Yields (some o)) :
    (o.entries.map (·.name)).Nodup :=
  (typeOperation_order h).nodup (by decide)

end Operations

section Documents

/-- An operation is typed under its method. -/
theorem typePathOperation_method {setting : Setting} {template : String} {item : PathItem}
    {e : Method × Operation} {r : Option TypedOperation}
    (h : (typePathOperation setting template item e.1 e.2).Yields r) :
    (r.toList.map (·.property.name)).Sublist [PropertyName.field e.1.key] := by
  cases r with
  | none => exact List.nil_sublist _
  | some o =>
      have hmethod : o.method = e.1 := typeOperation_method (typePathOperation_yields h).2
      rw [← hmethod]
      exact List.Sublist.refl _

theorem Method.key_injective : Function.Injective Method.key := by
  intro m m' h
  cases m <;> cases m' <;> first | rfl | exact absurd h (by decide)

/-- The operations of a path have their methods as keys, each once. -/
theorem typePath_methods {setting : Setting} {template : String} {item : PathItem}
    {p : TypedPath} (h : (typePath setting template item).Yields (some p)) :
    (p.operations.map (·.property.name)).Nodup := by
  simp only [typePath, Logged.yields_bind] at h
  rcases h with ⟨results, hresults, h⟩
  split at h
  -- A path without operations is reported and not kept.
  · simp only [Logged.yields_bind, Logged.yields_report, Logged.yields_pure, reduceCtorEq,
      and_false, exists_const] at h
  · simp only [Logged.yields_bind, Logged.yields_pure, Option.some.injEq] at h
    rcases h with ⟨declared, _, rfl⟩
    have hnames := names_of_mapM hresults (·.property.name)
      (fun e => PropertyName.field e.1.key) fun _ _ he => typePathOperation_method he
    have hmethods := nodup_fields (item.operations.nodup.map Method.key_injective)
    rw [List.map_map, List.map_map] at hmethods
    exact hnames.nodup hmethods

variable {document : Document} {options : Options} {api : Api}

/-- The objects of the declarations have distinct keys. -/
theorem toApi_types_keysDistinct (hkeyed : document.Keyed)
    (h : (document.toApi options).Yields api) : ∀ t ∈ api.types, t.value.KeysDistinct := by
  intro t ht
  rcases exists_of_mem_types (toApi_yields h).2.1 ht with ⟨e, _, value, hvalue, rfl⟩
  exact typeEntryAt_keysDistinct hkeyed.components hvalue

/-- The objects of the operations have distinct keys when those of their entries have. -/
theorem nodes_keysDistinct_iff (hkeyed : document.Keyed)
    (h : (document.toApi options).Yields api) :
    (∀ n ∈ api.nodes, n.shape.KeysDistinct) ↔
      ∀ p ∈ api.paths, ∀ o ∈ p.operations, ∀ q ∈ o.entries, q.KeysDistinct := by
  have htypes := toApi_types_keysDistinct hkeyed h
  constructor
  · intro hall p hp o ho q hq v hv m hm
    exact hall m (Api.mem_nodes.mpr (Or.inr ⟨p, hp, o, ho, q, hq, v, hv, hm⟩))
  · intro hall n hn
    rcases Api.mem_nodes.mp hn with ⟨t, ht, hn⟩ | ⟨p, hp, o, ho, q, hq, v, hv, hn⟩
    · exact htypes t ht n hn
    · exact hall p hp o ho q hq v hv n hn

/-- All objects of a typed document have distinct keys exactly when no operation that is
    typed has two inline parameters with a type, one name and one location among its own
    and those of its path. -/
theorem toApi_keysDistinct_iff (hkeyed : document.Keyed) (h : (document.toApi options).Yields api) :
    api.KeysDistinct ↔ document.ParametersDistinct := by
  constructor
  · rintro ⟨hnodes, _, _⟩ item operation ⟨template, method, hitem, hop, hd⟩ hsuccess
    have hitemKeyed := hkeyed.paths (template, item) hitem
    rcases toApi_kept h hitem hop hd hsuccess with ⟨p, hp, _, o, ho, hyields⟩
    exact (typeOperation_keysDistinct_iff hkeyed.components hitemKeyed.parameters
      (hitemKeyed.operations (method, operation) hop) hyields).mp
      ((nodes_keysDistinct_iff hkeyed h).mp hnodes p hp o ho)
  · intro hparameters
    have hpaths := typePaths_yields (toApi_yields h).2.2.1
    refine { nodes := (nodes_keysDistinct_iff hkeyed h).mpr ?_, operations := ?_, methods := ?_ }
    -- Each operation of the result comes from one of the document that is typed.
    · intro p hp o ho
      rcases hpaths p hp with ⟨⟨template, item⟩, hitem, hpath⟩
      rcases typePath_yields hpath with ⟨_, _, _, _, _, hoperations⟩
      rcases hoperations o ho with ⟨⟨method, operation⟩, hop, hd, hyields⟩
      have hitemKeyed := hkeyed.paths (template, item) hitem
      have hsuccess : operation.success?.isSome = true := by
        rcases typeOperation_yields hyields with ⟨_, _, _, _, _, _, hsuccess, _⟩
        rw [hsuccess]
        rfl
      exact (typeOperation_keysDistinct_iff hkeyed.components hitemKeyed.parameters
        (hitemKeyed.operations (method, operation) hop) hyields).mpr
        (hparameters item operation ⟨template, method, hitem, hop, hd⟩ hsuccess)
    · intro p hp o ho
      rcases hpaths p hp with ⟨e, _, hpath⟩
      rcases typePath_yields hpath with ⟨_, _, _, _, _, hoperations⟩
      rcases hoperations o ho with ⟨_, _, _, hyields⟩
      exact typeOperation_names hyields
    · intro p hp
      rcases hpaths p hp with ⟨e, _, hpath⟩
      exact typePath_methods hpath

end Documents

/-- A query parameter of a kind. -/
def queryParameter (name type : String) : Slot Parameter :=
  .inline { name, location := .query, schema := some (.inline { type := some (.single type) }) }

/-- A document with one path. It has a query parameter `id`, and its operation has another
    one. -/
def sharedDocument (name : String) : Document where
  paths :=
    { entries := [("/pets", {
        parameters := [queryParameter "id" "string"]
        operations :=
          { entries := [(.get, { answeredOperation with
              parameters := [queryParameter name "number"] })]
            nodup := List.pairwise_singleton _ _ } })]
      nodup := List.pairwise_singleton _ _ }

theorem queryParameter_keyed (name type : String) :
    (queryParameter name type).All Parameter.Keyed := by
  intro slot hslot
  obtain rfl := Option.some.inj hslot
  exact .of List.nodup_nil fun _ ht => absurd ht List.not_mem_nil

/-- No object in that document has a key twice. -/
theorem sharedDocument_keyed (name : String) : (sharedDocument name).Keyed where
  paths := by
    intro e he
    obtain rfl := List.mem_singleton.mp he
    refine { parameters := fun slot hslot => ?_, operations := fun op hop => ?_ }
    · rw [List.mem_singleton.mp hslot]
      exact queryParameter_keyed "id" "string"
    · obtain rfl := List.mem_singleton.mp hop
      refine {
        parameters := fun slot hslot => ?_
        requestBody := fun slot hslot => absurd hslot (Option.not_mem_none slot)
        responses := fun r hr => ?_ }
      · rw [List.mem_singleton.mp hslot]
        exact queryParameter_keyed name "number"
      -- The response is empty, so its maps are.
      · obtain rfl := List.mem_singleton.mp hr
        exact { content := OrderedMap.all_empty, headers := OrderedMap.all_empty }
  components := {
    schemas := OrderedMap.all_empty
    parameters := OrderedMap.all_empty
    requestBodies := OrderedMap.all_empty
    responses := OrderedMap.all_empty
    headers := OrderedMap.all_empty }

/-- The object for the parameters of that operation. -/
def sharedQuery (name : String) : TypeNode :=
  { shape := .object [
      .field "id" false none { shape := .primitive .string },
      .field name false none { shape := .primitive .number }] }

/-- What that document is typed into. -/
def sharedApi (name : String) : Api where
  baseUrl := ""
  space := "Types"
  types := []
  paths := [{
    template := "/pets"
    segments := ["pets", "index"]
    operations := [{
      method := .get
      entries := [
        { name := .field "query", values := [sharedQuery name] },
        .field "status" true none { shape := .status 200 }] }] }]

theorem keysDistinct_limit :
    (sharedDocument "limit").Keyed ∧
      ((sharedDocument "limit").toApi {}).Yields (sharedApi "limit") ∧
      (sharedApi "limit").KeysDistinct := by
  have h : ((sharedDocument "limit").toApi {}).Yields (sharedApi "limit") := rfl
  refine ⟨sharedDocument_keyed "limit", h,
    (toApi_keysDistinct_iff (sharedDocument_keyed "limit") h).mpr ?_⟩
  rintro item operation ⟨template, method, hitem, hop, _⟩ _
  obtain rfl := (Prod.mk.inj (List.mem_singleton.mp hitem)).2
  obtain rfl := (Prod.mk.inj (List.mem_singleton.mp hop)).2
  unfold PathItem.ParametersDistinct
  decide

/-- A parameter that the operation declares again stands twice in one object. -/
theorem redeclared_parameter_twice :
    (sharedDocument "id").Keyed ∧ ((sharedDocument "id").toApi {}).Yields (sharedApi "id") ∧
      sharedQuery "id" ∈ (sharedApi "id").nodes ∧ ¬ (sharedQuery "id").shape.KeysDistinct := by
  refine ⟨sharedDocument_keyed "id", rfl, ?_, ?_⟩
  · exact List.mem_cons_self
  · unfold Shape.KeysDistinct sharedQuery
    decide

end RouteTypes
