import RouteTypes.Proofs.Declarations

/-!
# The Steps of a Typed Document

What a document that was typed went through.

A success of `toApi` is taken apart once (`toApi_yields`), and so are those of the steps
below it, down to the single operation. An operation that is not deprecated and has a
successful response stays, with its entries in a fixed order, and whatever stands in the
result comes from one of the items of the document.

## Main definitions

* `Document.setting`: What the types of a document depend on.

## Theorems

* `typeOperation_yields`: The steps of an operation that remains.
* `parameterEntries_names`, `responseEntries_names`: The names of its entries.
* `declareParameter_holds`, `responseHeader_yields`, `resolveRequestBody_yields`: What a
  parameter, a header and a request body come to.
* `exists_of_mem_responseEntries`, `exists_of_mem_optionalRequestEntries`: What the entries of a
  response and of a request are made from.
* `typePathOperation_yields_iff`: What an operation of a path comes to.
* `typePath_yields`, `typePaths_yields`: The paths of a document, each from its item.
* `toApi_yields`: The steps of a document that was typed.
* `toApi_kept`: Which operations are there.
-/

namespace RouteTypes

section Operations

variable {setting : Setting}

/-- An entry that may be missing has one name when it is there. -/
theorem names_optional {β : Type} {entry : β → Property} {name : PropertyName}
    (h : ∀ b, (entry b).name = name) (o : Option β) :
    ((o.map entry).toList.map (·.name)).Sublist [name] := by
  cases o with
  | none => exact List.nil_sublist _
  | some b =>
      change [(entry b).name].Sublist [name]
      rw [h b]

/-- What holds of the references that parameters are written as, and of the fields that are
    made of their types, holds of what a parameter is declared with. -/
theorem declareParameter_holds {P : TypeNode → Prop} {Q : Property → Prop}
    {slot : Slot Parameter} {d : DeclaredParameter}
    (h : (declareParameter setting slot).Yields (some d))
    (hreference : ∀ pointer target description, slot = .reference pointer →
      (setting.typeRef pointer).Yields target → P { target.node with description })
    (hinline : ∀ parameter value, slot = .inline parameter →
      (typeOptional setting .request parameter.schema).Yields (some value) →
      Q (.field parameter.name (parameter.required.getD false) parameter.description value)) :
    (∀ v, d.entry.wrapper? = some v → P v) ∧ ∀ q, d.entry.field? = some q → Q q := by
  cases slot with
  | reference pointer =>
      simp only [declareParameter, Logged.yields_bind, Logged.yields_pure, Option.some.injEq] at h
      rcases h with ⟨parameter, _, target, htarget, rfl⟩
      refine ⟨fun v hv => ?_, fun q hq => ?_⟩
      · obtain rfl := Option.some.inj hv
        exact hreference pointer target parameter.description rfl htarget
      -- A wrapper is no field. In the other case a field is no wrapper.
      · exact absurd hq (by simp only [ParameterEntry.field?, reduceCtorEq, not_false_eq_true])
  | inline parameter =>
      simp only [declareParameter, Logged.yields_bind, Logged.yields_pure] at h
      rcases h with ⟨value, hvalue, hmap⟩
      rcases Option.map_eq_some_iff.mp hmap with ⟨v, rfl, rfl⟩
      refine ⟨fun w hw => ?_, fun q hq => ?_⟩
      · exact absurd hw (by simp only [ParameterEntry.wrapper?, reduceCtorEq, not_false_eq_true])
      · obtain rfl := Option.some.inj hq
        exact hinline parameter v rfl hvalue

/-- What is declared for an operation comes from one of its parameters. -/
theorem exists_of_mem_declareParameters {slots : List (Slot Parameter)}
    {ds : List DeclaredParameter} (h : (declareParameters setting slots).Yields ds)
    {d : DeclaredParameter} (hd : d ∈ ds) :
    ∃ slot ∈ slots, (declareParameter setting slot).Yields (some d) := by
  simp only [declareParameters, Logged.yields_bind, Logged.yields_pure] at h
  rcases h with ⟨results, hresults, rfl⟩
  exact Logged.exists_of_mem_filterMap hresults hd

/-- A header becomes a field: for its reference, or for its own type. -/
theorem responseHeader_yields {name : String} {slot : Slot Header} {q : Property}
    (h : (responseHeader setting name slot).Yields (some q)) :
    (∃ pointer target, slot = .reference pointer ∧ (setting.typeRef pointer).Yields target ∧
      q = .field name true none target.node) ∨
    ∃ header value, slot = .inline header ∧
      (typeOptional setting .response header.schema).Yields (some value) ∧
      q = .field name (header.required.getD true) header.description value := by
  cases slot with
  | reference pointer =>
      simp only [responseHeader, Logged.yields_bind, Logged.yields_pure, Option.some.injEq] at h
      rcases h with ⟨target, htarget, rfl⟩
      exact Or.inl ⟨pointer, target, rfl, htarget, rfl⟩
  | inline header =>
      simp only [responseHeader, Logged.yields_bind, Logged.yields_pure] at h
      rcases h with ⟨value, hvalue, hmap⟩
      rcases Option.map_eq_some_iff.mp hmap with ⟨v, rfl, rfl⟩
      exact Or.inr ⟨header, v, rfl, hvalue, rfl⟩

/-- What is typed for the headers of a response comes from one of them. -/
theorem exists_of_mem_responseHeaders {response : Response} {qs : List Property}
    (h : (responseHeaders setting response).Yields qs) {q : Property} (hq : q ∈ qs) :
    ∃ e ∈ response.headers.entries, (responseHeader setting e.1 e.2).Yields (some q) := by
  simp only [responseHeaders, Logged.yields_bind, Logged.yields_pure] at h
  rcases h with ⟨results, hresults, rfl⟩
  exact Logged.exists_of_mem_filterMap hresults hq

/-- The entries for a response are made from the response that is found: its status, its body
    and its headers. -/
theorem exists_of_mem_responseEntries {status : Nat} {slot : Slot Response} {qs : List Property}
    (h : (responseEntries setting status slot).Yields qs) {q : Property} (hq : q ∈ qs) :
    ∃ response, (resolveResponse setting slot).Yields response ∧
      (q = .field "status" true none { shape := .status status } ∨
        (∃ value, (typeContent setting .response response.content).Yields (some value) ∧
          q = .field "resBody" true response.description value) ∨
        ∃ headers, (responseHeaders setting response).Yields headers ∧
          q ∈ headersEntry headers) := by
  simp only [responseEntries, Logged.yields_bind, Logged.yields_pure] at h
  rcases h with ⟨response, hresponse, body, hbody, headers, hheaders, rfl⟩
  refine ⟨response, hresponse, ?_⟩
  rcases List.mem_cons.mp hq with rfl | hq
  · exact Or.inl rfl
  · rcases List.mem_append.mp hq with hq | hq
    · rcases exists_of_mem_toList_map hq with ⟨v, rfl, rfl⟩
      exact Or.inr (Or.inl ⟨v, hbody, rfl⟩)
    · exact Or.inr (Or.inr ⟨headers, hheaders, hq⟩)

/-- The type of a request body is its reference, or the type of an entry: the one for its form
    or, without a form, the chosen one. -/
theorem resolveRequestBody_yields {slot : Slot RequestBody} {body : RequestBody} {n : TypeNode}
    (h : (resolveRequestBody setting slot).Yields (body, some n)) :
    (∃ pointer target, slot = .reference pointer ∧ (setting.typeRef pointer).Yields target ∧
      n = target.node) ∨
    slot = .inline body ∧
      ((∃ f, body.content.form = some f ∧
          (typeOptional setting .request f.2.schema).Yields (some n)) ∨
        body.content.form = none ∧
          (typeContent setting .request body.content).Yields (some n)) := by
  cases slot with
  -- The type is the reference itself. The definition was looked up for its format only.
  | reference pointer =>
      simp only [resolveRequestBody, Logged.yields_bind, Logged.yields_pure, Prod.mk.injEq,
        Option.some.injEq] at h
      rcases h with ⟨_, _, target, htarget, _, rfl⟩
      exact Or.inl ⟨pointer, target, rfl, htarget, rfl⟩
  | inline inner =>
      simp only [resolveRequestBody, Logged.yields_bind, Logged.yields_pure, Prod.mk.injEq] at h
      rcases h with ⟨value, hvalue, rfl, rfl⟩
      refine Or.inr ⟨rfl, ?_⟩
      unfold typeRequestBody at hvalue
      cases hform : inner.content.form with
      | none =>
          rw [hform] at hvalue
          exact Or.inr ⟨rfl, hvalue⟩
      | some f =>
          rw [hform] at hvalue
          exact Or.inl ⟨f, rfl, hvalue⟩

/-- The entries for a request are made from the body that is found: its form and its type. -/
theorem exists_of_mem_optionalRequestEntries {slot : Option (Slot RequestBody)}
    {qs : List Property} (h : (optionalRequestEntries setting slot).Yields qs) {q : Property}
    (hq : q ∈ qs) :
    ∃ s body value, slot = some s ∧ (resolveRequestBody setting s).Yields (body, value) ∧
      ((∃ format, q = .field "reqFormat" true none { shape := .format format }) ∨
        ∃ n, value = some n ∧
          q = .field "reqBody" (body.required.getD true) body.description n) := by
  cases slot with
  | none =>
      rw [optionalRequestEntries, Logged.yields_pure] at h
      rw [← h] at hq
      exact absurd hq List.not_mem_nil
  | some s =>
      simp only [optionalRequestEntries, requestEntries, Logged.yields_bind,
        Logged.yields_pure] at h
      rcases h with ⟨⟨body, value⟩, hbody, rfl⟩
      refine ⟨s, body, value, rfl, hbody, ?_⟩
      rcases List.mem_append.mp hq with hq | hq
      · rcases exists_of_mem_toList_map hq with ⟨f, _, rfl⟩
        exact Or.inl ⟨f.1, rfl⟩
      · rcases exists_of_mem_toList_map hq with ⟨n, rfl, rfl⟩
        exact Or.inr ⟨n, rfl, rfl⟩

/-- The entries for parameters come in a fixed order. -/
theorem parameterEntries_names (ds : List DeclaredParameter) :
    ((parameterEntries ds).map (·.name)).Sublist [.field "reqHeaders", .field "query"] := by
  have hheaders : (((mergeParameters ds .header).map
      fun g => g.property "reqHeaders" false).toList.map (·.name)).Sublist
        [.field "reqHeaders"] :=
    names_optional (by exact fun _ => rfl) _
  have hquery : (((mergeParameters ds .query).map
      fun g => g.property "query" g.required).toList.map (·.name)).Sublist
        [.field "query"] :=
    names_optional (by exact fun _ => rfl) _
  unfold parameterEntries
  rw [List.map_append]
  exact hheaders.append hquery

/-- So do the entries for a response. -/
theorem responseEntries_names {status : Nat} {slot : Slot Response} {qs : List Property}
    (h : (responseEntries setting status slot).Yields qs) :
    (qs.map (·.name)).Sublist [.field "status", .field "resBody", .field "resHeaders"] := by
  simp only [responseEntries, Logged.yields_bind, Logged.yields_pure] at h
  rcases h with ⟨response, _, body, _, headers, _, rfl⟩
  -- The headers are left out when there are none, and the body when it has no type.
  have hheaders : ((headersEntry headers).map (·.name)).Sublist [.field "resHeaders"] := by
    unfold headersEntry
    split
    · exact List.nil_sublist _
    · exact List.Sublist.refl _
  have hbody : ((body.map fun v =>
      Property.field "resBody" true response.description v).toList.map (·.name)).Sublist
        [.field "resBody"] :=
    names_optional (by exact fun _ => rfl) _
  -- The status is always there, and stands first.
  rw [List.cons_append, List.map_cons, List.map_append]
  exact (hbody.append hheaders).cons_cons _

/-- The steps of an operation. Without a successful response nothing remains of it. -/
theorem typeOperation_yields_iff {item : PathItem} {method : Method} {operation : Operation}
    {r : Option TypedOperation} :
    (typeOperation setting item method operation).Yields r ↔
      ∃ declared,
        (declareParameters setting (item.parameters ++ operation.parameters)).Yields declared ∧
        (operation.success? = none ∧ r = none ∨
          ∃ status slot response request, operation.success? = some (status, slot) ∧
            (responseEntries setting status slot).Yields response ∧
            (optionalRequestEntries setting operation.requestBody).Yields request ∧
            r = some { method, description := operation.description,
                       entries := parameterEntries declared ++ response ++ request }) := by
  simp only [typeOperation, Logged.yields_bind]
  refine exists_congr fun declared => and_congr_right fun _ => ?_
  -- With the declared parameters fixed, the successful response decides how to go on.
  cases hsuccess : operation.success? with
  | none =>
      simp only [Logged.yields_pure, true_and, reduceCtorEq, false_and, exists_false, or_false]
      exact eq_comm
  | some success =>
      rcases success with ⟨status, slot⟩
      simp only [Logged.yields_bind, Logged.yields_pure, reduceCtorEq, false_and, false_or,
        Option.some.injEq, Prod.mk.injEq]
      constructor
      · rintro ⟨response, hresponse, request, hrequest, rfl⟩
        exact ⟨status, slot, response, request, ⟨rfl, rfl⟩, hresponse, hrequest, rfl⟩
      · rintro ⟨_, _, response, request, ⟨rfl, rfl⟩, hresponse, hrequest, rfl⟩
        exact ⟨response, hresponse, request, hrequest, rfl⟩

/-- The steps of an operation that remains. -/
theorem typeOperation_yields {item : PathItem} {method : Method} {operation : Operation}
    {o : TypedOperation} (h : (typeOperation setting item method operation).Yields (some o)) :
    ∃ declared status slot response request,
      (declareParameters setting (item.parameters ++ operation.parameters)).Yields declared ∧
      operation.success? = some (status, slot) ∧
      (responseEntries setting status slot).Yields response ∧
      (optionalRequestEntries setting operation.requestBody).Yields request ∧
      o = { method, description := operation.description,
            entries := parameterEntries declared ++ response ++ request } := by
  rcases typeOperation_yields_iff.mp h with
    ⟨declared, hdeclared, ⟨_, hr⟩ | ⟨status, slot, response, request, hsuccess, hs⟩⟩
  · exact absurd hr (by simp only [reduceCtorEq, not_false_eq_true])
  · rw [Option.some.injEq] at hs
    exact ⟨declared, status, slot, response, request, hdeclared, hsuccess, hs⟩

/-- An operation is typed under its method. -/
theorem typeOperation_method {item : PathItem} {method : Method} {operation : Operation}
    {o : TypedOperation} (h : (typeOperation setting item method operation).Yields (some o)) :
    o.method = method := by
  rcases typeOperation_yields h with ⟨_, _, _, _, _, _, _, _, _, ho⟩
  rw [ho]

end Operations

section Documents

/-- What the types of a document depend on. -/
def Document.setting (document : Document) (options : Options) : Setting :=
  { components := document.components, options }

/-- The steps of a document that was typed. -/
theorem toApi_yields {document : Document} {options : Options} {api : Api}
    (h : (document.toApi options).Yields api) :
    checkNames document.components = .ok () ∧
      (typeComponents (document.setting options)).Yields api.types ∧
      (typePaths (document.setting options) document.paths).Yields api.paths ∧
      api.baseUrl = document.baseUrl ∧ api.space = options.space := by
  simp only [Document.toApi, Logged.yields_bind, Logged.yields_ofExcept, Logged.yields_pure,
    Logged.yields_report, true_and, exists_const] at h
  rcases h with ⟨⟨⟩, hnames, types, htypes, paths, hpaths, rfl⟩
  exact ⟨hnames, htypes, hpaths, rfl, rfl⟩

variable {setting : Setting}

/-- What an operation of a path comes to: nothing when it is deprecated. -/
theorem typePathOperation_yields_iff {template : String} {item : PathItem} {method : Method}
    {operation : Operation} {r : Option TypedOperation} :
    (typePathOperation setting template item method operation).Yields r ↔
      if operation.deprecated then r = none
      else (typeOperation setting item method operation).Yields r := by
  unfold typePathOperation
  by_cases hd : operation.deprecated = true
  · simp only [hd, if_true, Logged.yields_bind, Logged.yields_report, Logged.yields_pure,
      true_and, exists_const]
    exact eq_comm
  · simp only [hd, Bool.false_eq_true, if_false, Logged.yields_bind]
    constructor
    · rintro ⟨typed, htyped, h⟩
      -- A report in between does not change what the operation comes to.
      cases typed with
      | none =>
          simp only [Logged.yields_bind, Logged.yields_report, Logged.yields_pure, true_and,
            exists_const] at h
          exact h ▸ htyped
      | some o =>
          rw [Logged.yields_pure] at h
          exact h ▸ htyped
    · intro h
      refine ⟨r, h, ?_⟩
      cases r with
      | none => simp only [Logged.yields_bind, Logged.yields_report, Logged.yields_pure, true_and,
          exists_const]
      | some o => exact (Logged.yields_pure _ _).mpr rfl

/-- An operation that remains is not deprecated, and typed. -/
theorem typePathOperation_yields {template : String} {item : PathItem} {method : Method}
    {operation : Operation} {o : TypedOperation}
    (h : (typePathOperation setting template item method operation).Yields (some o)) :
    operation.deprecated = false ∧
      (typeOperation setting item method operation).Yields (some o) := by
  rw [typePathOperation_yields_iff] at h
  by_cases hd : operation.deprecated = true
  · rw [if_pos hd] at h
    exact absurd h (by simp only [reduceCtorEq, not_false_eq_true])
  · rw [if_neg hd] at h
    exact ⟨Bool.eq_false_iff.mpr hd, h⟩

/-- An operation that is not deprecated and has a successful response is kept. -/
theorem typePathOperation_kept {template : String} {item : PathItem} {method : Method}
    {operation : Operation} {r : Option TypedOperation}
    (h : (typePathOperation setting template item method operation).Yields r)
    (hd : operation.deprecated = false) (hs : operation.success?.isSome = true) :
    ∃ o, r = some o ∧ (typeOperation setting item method operation).Yields (some o) := by
  rw [typePathOperation_yields_iff, if_neg (Bool.eq_false_iff.mp hd)] at h
  rcases typeOperation_yields_iff.mp h with ⟨_, _, ⟨hnone, _⟩ | ⟨_, _, _, _, _, _, _, hr⟩⟩
  · rw [hnone] at hs
    exact absurd hs (by decide)
  · exact ⟨_, hr, hr ▸ h⟩

/-- A path that remains has operations, and its directory follows its template. -/
theorem typePath_yields {template : String} {item : PathItem} {p : TypedPath}
    (h : (typePath setting template item).Yields (some p)) :
    ∃ declared, (pathParameters setting item).Yields declared ∧ p.template = template ∧
      p.segments = routeSegments template declared ∧ p.operations ≠ [] ∧
      ∀ o ∈ p.operations, ∃ e ∈ item.operations.entries, e.2.deprecated = false ∧
        (typeOperation setting item e.1 e.2).Yields (some o) := by
  simp only [typePath, Logged.yields_bind] at h
  rcases h with ⟨results, hresults, h⟩
  split at h
  -- No operation is left: the path is omitted and there is nothing to show.
  · simp only [Logged.yields_bind, Logged.yields_report, Logged.yields_pure, reduceCtorEq,
      and_false, exists_const] at h
  · next hne =>
      simp only [Logged.yields_bind, Logged.yields_pure, Option.some.injEq] at h
      rcases h with ⟨declared, hdeclared, rfl⟩
      refine ⟨declared, hdeclared, rfl, rfl, fun hnil => hne (List.isEmpty_iff.mpr hnil), ?_⟩
      intro o ho
      rcases Logged.exists_of_mem_filterMap hresults ho with ⟨e, he, hop⟩
      exact ⟨e, he, typePathOperation_yields hop⟩

/-- Every operation of a path was looked at, and is kept by the path when it remains. -/
theorem typePath_operation {template : String} {item : PathItem} {result : Option TypedPath}
    (h : (typePath setting template item).Yields result) {method : Method}
    {operation : Operation} (hop : (method, operation) ∈ item.operations.entries) :
    ∃ r, (typePathOperation setting template item method operation).Yields r ∧
      ∀ o, r = some o → ∃ p, result = some p ∧ o ∈ p.operations := by
  simp only [typePath, Logged.yields_bind] at h
  rcases h with ⟨results, hresults, h⟩
  rcases Logged.exists_of_mem hresults hop with ⟨r, hr, hyields⟩
  refine ⟨r, hyields, ?_⟩
  rintro o rfl
  have ho : o ∈ results.filterMap id := List.mem_filterMap.mpr ⟨some o, hr, rfl⟩
  -- The operation is kept, so the list of those that are is not empty.
  split at h
  · next hempty =>
      rw [List.isEmpty_iff.mp hempty] at ho
      exact absurd ho List.not_mem_nil
  · simp only [Logged.yields_bind, Logged.yields_pure] at h
    rcases h with ⟨declared, _, rfl⟩
    exact ⟨_, rfl, ho⟩

/-- The paths that remain come from path items of the document. -/
theorem typePaths_yields {paths : OrderedMap String PathItem} {ps : List TypedPath}
    (h : (typePaths setting paths).Yields ps) :
    ∀ p ∈ ps, ∃ e ∈ paths.entries, (typePath setting e.1 e.2).Yields (some p) := by
  simp only [typePaths, Logged.yields_bind, Logged.yields_pure] at h
  rcases h with ⟨results, hresults, rfl⟩
  exact fun p hp => Logged.exists_of_mem_filterMap hresults hp

variable {document : Document} {options : Options} {api : Api}

/-- Every operation of a typed document was looked at, and is there when it remains. -/
theorem toApi_operation (h : (document.toApi options).Yields api) {template : String}
    {item : PathItem} (hitem : (template, item) ∈ document.paths.entries) {method : Method}
    {operation : Operation} (hop : (method, operation) ∈ item.operations.entries) :
    ∃ r, (typePathOperation (document.setting options) template item method operation).Yields r ∧
      ∀ o, r = some o → ∃ p ∈ api.paths, p.template = template ∧ o ∈ p.operations := by
  have hpaths := (toApi_yields h).2.2.1
  simp only [typePaths, Logged.yields_bind, Logged.yields_pure] at hpaths
  rcases hpaths with ⟨results, hresults, hapi⟩
  rcases Logged.exists_of_mem hresults hitem with ⟨result, hmem, hpath⟩
  rcases typePath_operation hpath hop with ⟨r, hr, hkept⟩
  refine ⟨r, hr, fun o ho => ?_⟩
  rcases hkept o ho with ⟨p, rfl, hp⟩
  rcases typePath_yields hpath with ⟨_, _, htemplate, _⟩
  exact ⟨p, hapi ▸ List.mem_filterMap.mpr ⟨some p, hmem, rfl⟩, htemplate, hp⟩

/-- An operation that is not deprecated and has a successful response is there. -/
theorem toApi_kept (h : (document.toApi options).Yields api) {template : String}
    {item : PathItem} (hitem : (template, item) ∈ document.paths.entries) {method : Method}
    {operation : Operation} (hop : (method, operation) ∈ item.operations.entries)
    (hd : operation.deprecated = false) (hs : operation.success?.isSome = true) :
    ∃ p ∈ api.paths, p.template = template ∧ ∃ o ∈ p.operations,
      (typeOperation (document.setting options) item method operation).Yields (some o) := by
  rcases toApi_operation h hitem hop with ⟨r, hr, hkept⟩
  rcases typePathOperation_kept hr hd hs with ⟨o, ho, hyields⟩
  rcases hkept o ho with ⟨p, hp, htemplate, hmem⟩
  exact ⟨p, hp, htemplate, o, hmem, hyields⟩

end Documents

end RouteTypes
