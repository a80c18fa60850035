import RouteTypes.Proofs.DocumentTrees

/-!
# Request Bodies by Reference

Whether a request body means the same when it is referred to as when it is written in
place.

A body in place is typed by its form entry when it has one, and by the entry chosen for
any body otherwise. The declaration of the same body among the components does not look
for a form entry. Both ways end at one entry exactly when the entry chosen for any body
is the form entry, and that is a matter of the order of the entries alone
(`Content.FormLeads`). The form encoding is read off the body in both cases and never
differs.

## Main definitions

* `Content.chosenKey`: The media type of the entry chosen for any body.
* `Content.inPlaceKey`: The media type of the entry a body in place is typed by.
* `Content.FormLeads`: The form entry, if there is one, is the one chosen for any body.
* `Api.declared`: The declaration of an entry of the components.

## Theorems

* `typeContent_eq`, `typeRequestBody_eq`: A body is typed by the entry under its key.
* `Content.formLeads_iff`: What the order of the entries has to be.
* `operation_request_entries`: The entries for the body of an operation.
* `declared_requestBody`: What a body among the components is declared as.
* `referred_body_iff`: A referenced body and the same body in place.
-/

namespace RouteTypes

/-- The media type of a form encoding. -/
def BodyFormat.mediaType : BodyFormat → String
  | formData => "multipart/form-data"
  | urlEncoded => "application/x-www-form-urlencoded"

namespace Content

/-- The media type of the entry chosen for any body. -/
def chosenKey (content : Content) : Option String :=
  (content.keys.find? (·.startsWith "application/")).or content.keys.head?

/-- The media type of the entry that a body in place is typed by. -/
def inPlaceKey (content : Content) : Option String :=
  (content.form.map fun f => f.1.mediaType).or content.chosenKey

/-- The form entry, if there is one, is the entry chosen for any body. -/
def FormLeads (content : Content) : Prop :=
  ∀ f, content.form = some f → content.chosenKey = some f.1.mediaType

end Content

section Contents

/-- The first entry that passes a test on its key is the entry of its key. -/
theorem find?_key_eq {κ α : Type} [DecidableEq κ] (p : κ → Bool) (es : List (κ × α)) :
    (es.find? fun e => p e.1).map Prod.snd
      = ((es.map Prod.fst).find? p).bind fun k => OrderedMap.find? k es := by
  induction es with
  | nil => rfl
  | cons e es ih =>
      rcases e with ⟨k, v⟩
      rw [List.map_cons, List.find?_cons, List.find?_cons]
      cases hp : p k with
      | true =>
          dsimp only
          rw [Option.map_some, Option.bind_some, OrderedMap.find?, if_pos rfl]
      | false =>
          dsimp only
          rw [ih]
          cases hfind : (es.map Prod.fst).find? p with
          | none => rfl
          | some k' =>
              -- The key passes the test and the one in front does not.
              have hne : k ≠ k' := by
                intro hk
                rw [hk, List.find?_some hfind] at hp
                exact absurd hp (by simp only [reduceCtorEq, not_false_eq_true])
              rw [Option.bind_some, Option.bind_some, OrderedMap.find?, if_neg hne]

theorem head?_key_eq {κ α : Type} [DecidableEq κ] (es : List (κ × α)) :
    es.head?.map Prod.snd = (es.map Prod.fst).head?.bind fun k => OrderedMap.find? k es := by
  cases es with
  | nil => rfl
  | cons e es =>
      rw [List.map_cons, List.head?_cons, List.head?_cons, Option.map_some, Option.bind_some,
        OrderedMap.find?, if_pos rfl]

/-- The entry chosen for any body stands under the chosen key. -/
theorem Content.chosen_eq (content : Content) :
    content.chosen = content.chosenKey.bind content.get? := by
  have hfind := find?_key_eq (·.startsWith "application/") content.entries
  unfold Content.chosen Content.chosenKey OrderedMap.keys
  cases hf : content.entries.find? fun e => e.1.startsWith "application/" with
  | none =>
      -- Nothing is for an application, so the first entry is chosen.
      have hkeys : (content.entries.map Prod.fst).find? (·.startsWith "application/") = none := by
        rw [List.find?_eq_none] at hf ⊢
        intro k hk
        rcases List.mem_map.mp hk with ⟨e, he, rfl⟩
        exact hf e he
      rw [hkeys, Option.none_or]
      exact head?_key_eq content.entries
  | some e =>
      rw [hf, Option.map_some] at hfind
      cases hkeys : (content.entries.map Prod.fst).find? (·.startsWith "application/") with
      | none =>
          rw [hkeys, Option.bind_none] at hfind
          exact absurd hfind (by simp only [reduceCtorEq, not_false_eq_true])
      | some k =>
          rw [hkeys] at hfind
          rw [Option.some_or]
          exact hfind

/-- A form entry stands under the media type of its encoding. -/
theorem Content.get?_of_form {content : Content} {f : BodyFormat × MediaType}
    (h : content.form = some f) : content.get? f.1.mediaType = some f.2 := by
  unfold Content.form at h
  -- A form entry is looked up under its media type and kept only if it has a schema.
  split at h
  · next media hmedia =>
      rw [← Option.some.inj h]
      exact (Option.filter_eq_some_iff.mp hmedia).1
  · rcases Option.map_eq_some_iff.mp h with ⟨media, hmedia, rfl⟩
    exact (Option.filter_eq_some_iff.mp hmedia).1

variable {setting : Setting}

/-- Any body is typed by the entry under its chosen key. -/
theorem typeContent_eq (direction : Direction) (content : Content) :
    typeContent setting direction content
      = typeMedia setting direction (content.chosenKey.bind content.get?) := by
  rw [typeContent, content.chosen_eq]

/-- A body in place is typed by the entry under its key in place. -/
theorem typeRequestBody_eq (body : RequestBody) :
    typeRequestBody setting body
      = typeMedia setting .request (body.content.inPlaceKey.bind body.content.get?) := by
  unfold typeRequestBody Content.inPlaceKey
  cases hf : body.content.form with
  | none =>
      rw [Option.map_none, Option.none_or]
      exact typeContent_eq .request body.content
  | some f =>
      rw [Option.map_some, Option.some_or, Option.bind_some, Content.get?_of_form hf]

/-- Both keys are one exactly when the form entry leads. -/
theorem Content.formLeads_iff_keys (content : Content) :
    content.FormLeads ↔ content.inPlaceKey = content.chosenKey := by
  unfold Content.FormLeads Content.inPlaceKey
  cases content.form with
  | none =>
      rw [Option.map_none, Option.none_or]
      exact iff_of_true (fun f hf => absurd hf (by simp only [reduceCtorEq,
        not_false_eq_true])) rfl
  | some f =>
      rw [Option.map_some, Option.some_or]
      exact ⟨fun h => (h f rfl).symm, fun h g hg => Option.some.inj hg ▸ h.symm⟩

/-- A multipart form leads when it stands first and nothing is for an application. -/
theorem Content.chosenKey_formData_iff (content : Content) :
    content.chosenKey = some BodyFormat.formData.mediaType ↔
      content.keys.head? = some BodyFormat.formData.mediaType ∧
        ∀ k ∈ content.keys, ¬ (k.startsWith "application/" = true) := by
  unfold Content.chosenKey
  cases hf : content.keys.find? (·.startsWith "application/") with
  | none =>
      rw [Option.none_or]
      exact (and_iff_left (List.find?_eq_none.mp hf)).symm
  | some k =>
      -- The chosen key is for an application, and a multipart form is not.
      have hstarts := List.find?_some hf
      rw [Option.some_or, Option.some.injEq]
      refine iff_of_false (fun hk => ?_) fun h => h.2 k (List.mem_of_find?_eq_some hf) hstarts
      rw [hk] at hstarts
      exact absurd hstarts (by decide +kernel)

/-- A URL-encoded form leads when it is the first entry for an application. -/
theorem Content.chosenKey_urlEncoded_iff (content : Content) :
    content.chosenKey = some BodyFormat.urlEncoded.mediaType ↔
      content.keys.find? (·.startsWith "application/")
        = some BodyFormat.urlEncoded.mediaType := by
  unfold Content.chosenKey
  cases hf : content.keys.find? (·.startsWith "application/") with
  | none =>
      rw [Option.none_or]
      refine iff_of_false (fun hhead => ?_) (by simp only [reduceCtorEq, not_false_eq_true])
      -- The first key would have passed the test that no key passes.
      have hmem := List.mem_of_head? hhead
      exact List.find?_eq_none.mp hf _ hmem (by decide +kernel)
  | some k => rw [Option.some_or]

/-- The order that lets a form entry lead. -/
theorem Content.formLeads_iff (content : Content) :
    content.FormLeads ↔ ∀ f, content.form = some f →
      match f.1 with
      | .formData => content.keys.head? = some BodyFormat.formData.mediaType ∧
          ∀ k ∈ content.keys, ¬ (k.startsWith "application/" = true)
      | .urlEncoded => content.keys.find? (·.startsWith "application/")
          = some BodyFormat.urlEncoded.mediaType := by
  refine forall₂_congr fun f _ => ?_
  rcases f with ⟨format, media⟩
  cases format with
  | formData => exact content.chosenKey_formData_iff
  | urlEncoded => exact content.chosenKey_urlEncoded_iff

end Contents

section Entries

variable {setting : Setting}

/-- The entry for the form encoding of a body. -/
def formatEntry (body : RequestBody) : Option Property :=
  body.content.form.map fun f => Property.field "reqFormat" true none { shape := .format f.1 }

/-- The entry for a body with its type. -/
def bodyEntry (body : RequestBody) (value : Option TypeNode) : Option Property :=
  value.map fun v => Property.field "reqBody" (body.required.getD true) body.description v

/-- The same operation with its request body written in place. -/
def Operation.withBody (o : Operation) (body : RequestBody) : Operation :=
  { o with requestBody := some (.inline body) }

/-- A body comes to what is found for its encoding and its type. -/
theorem requestEntries_yields_iff {slot : Slot RequestBody} {qs : List Property} :
    (requestEntries setting slot).Yields qs ↔
      ∃ body value, (resolveRequestBody setting slot).Yields (body, value) ∧
        (formatEntry body).toList ++ (bodyEntry body value).toList = qs := by
  simp only [requestEntries, Logged.yields_bind, Logged.yields_pure, Prod.exists, formatEntry,
    bodyEntry]

/-- A name that is not among the names of some entries leads to none of them. -/
theorem find?_name_eq_none {qs : List Property} {names : List PropertyName}
    (h : (qs.map (·.name)).Sublist names) {name : PropertyName} (hname : name ∉ names) :
    qs.find? (·.name = name) = none := by
  rw [List.find?_eq_none]
  intro q hq
  rw [decide_eq_true_eq]
  intro heq
  have hmem := h.subset (List.mem_map_of_mem hq)
  rw [heq] at hmem
  exact hname hmem

/-- Names that no parameter or response has are looked up among the request entries. -/
theorem find?_requestEntries {name : String} (hname : name = "reqFormat" ∨ name = "reqBody")
    {declared : List DeclaredParameter} {status : Nat} {slot : Slot Response}
    {response : List Property} (hresponse : (responseEntries setting status slot).Yields response)
    (request : List Property) :
    (parameterEntries declared ++ response ++ request).find? (·.name = .field name)
      = request.find? (·.name = .field name) := by
  have hparameters : (parameterEntries declared).find? (·.name = .field name) = none := by
    refine find?_name_eq_none (parameterEntries_names declared) ?_
    rcases hname with rfl | rfl <;> decide
  have hanswers : response.find? (·.name = .field name) = none := by
    refine find?_name_eq_none (responseEntries_names hresponse) ?_
    rcases hname with rfl | rfl <;> decide
  rw [List.find?_append, List.find?_append, hparameters, hanswers, Option.none_or,
    Option.none_or]

theorem find?_formatEntry (body : RequestBody) (value : Option TypeNode) :
    ((formatEntry body).toList ++ (bodyEntry body value).toList).find?
      (·.name = .field "reqFormat") = formatEntry body := by
  unfold formatEntry bodyEntry
  cases body.content.form <;> cases value <;> rfl

theorem find?_bodyEntry (body : RequestBody) (value : Option TypeNode) :
    ((formatEntry body).toList ++ (bodyEntry body value).toList).find?
      (·.name = .field "reqBody") = bodyEntry body value := by
  unfold formatEntry bodyEntry
  cases body.content.form <;> cases value <;> rfl

/-- The entries for the body of an operation that remains. -/
theorem operation_request_entries {item : PathItem} {method : Method} {operation : Operation}
    {slot : Slot RequestBody} (hslot : operation.requestBody = some slot) {o : TypedOperation}
    (h : (typeOperation setting item method operation).Yields (some o)) :
    ∃ body value, (resolveRequestBody setting slot).Yields (body, value) ∧
      o.entry? "reqFormat" = formatEntry body ∧ o.entry? "reqBody" = bodyEntry body value := by
  rcases typeOperation_yields h with
    ⟨declared, status, answer, response, request, _, _, hresponse, hrequest, rfl⟩
  -- The entries for the body come last, and no entry before them has their names.
  rw [hslot] at hrequest
  rcases requestEntries_yields_iff.mp hrequest with ⟨body, value, hbody, rfl⟩
  refine ⟨body, value, hbody, ?_, ?_⟩
  · exact (find?_requestEntries (Or.inl rfl) hresponse _).trans (find?_formatEntry body value)
  · exact (find?_requestEntries (Or.inr rfl) hresponse _).trans (find?_bodyEntry body value)

/-- An operation that comes to something does so with another body in place, when that
    body has a type. -/
theorem typePathOperation_withBody {template : String} {item : PathItem} {method : Method}
    {operation : Operation} {named : Option TypedOperation}
    (h : (typePathOperation setting template item method operation).Yields named)
    {body : RequestBody} {v : Option TypeNode} (hv : (typeRequestBody setting body).Yields v) :
    ∃ inPlace, (typePathOperation setting template item method
        (operation.withBody body)).Yields inPlace ∧ inPlace.isSome = named.isSome := by
  rw [typePathOperation_yields_iff] at h
  simp only [typePathOperation_yields_iff]
  have hsame : (operation.withBody body).deprecated = operation.deprecated := rfl
  rw [hsame]
  by_cases hd : operation.deprecated = true
  · rw [if_pos hd] at h
    simp only [if_pos hd]
    exact ⟨none, rfl, h ▸ rfl⟩
  · rw [if_neg hd] at h
    simp only [if_neg hd]
    -- The parameters and the response do not depend on the body.
    rcases typeOperation_yields_iff.mp h with
      ⟨declared, hdeclared, ⟨hsuccess, rfl⟩ |
        ⟨status, slot, response, request, hsuccess, hresponse, _, rfl⟩⟩
    · exact ⟨none, typeOperation_yields_iff.mpr ⟨declared, hdeclared, Or.inl ⟨hsuccess, rfl⟩⟩, rfl⟩
    · have hinline : (optionalRequestEntries setting (some (.inline body))).Yields
          ((formatEntry body).toList ++ (bodyEntry body v).toList) := by
        refine requestEntries_yields_iff.mpr ⟨body, v, ?_, rfl⟩
        simp only [resolveRequestBody, Logged.yields_bind, Logged.yields_pure, Prod.mk.injEq,
          true_and, exists_eq_right]
        exact hv
      -- Only the entries for the body are others.
      have hall : (typeOperation setting item method (operation.withBody body)).Yields _ :=
        typeOperation_yields_iff.mpr ⟨declared, hdeclared, Or.inr
          ⟨status, slot, response, _, hsuccess, hresponse, hinline, rfl⟩⟩
      exact ⟨_, hall, rfl⟩

end Entries

section Declarations

/-- The declaration of an entry of the components. -/
def Api.declared (api : Api) (registry : Registry) (key : String) : Option NamedType :=
  api.types.find? fun t => t.registry = registry ∧ t.key = key

/-- Among the declarations of some entries that of one entry is found, if it is among
    them and has a type. -/
theorem find?_declaration {setting : Setting} (e : Registry × String)
    (entries : List (Registry × String)) :
    (entries.filterMap setting.declaration).find? (fun t => t.registry = e.1 ∧ t.key = e.2)
      = if e ∈ entries then setting.declaration e else none := by
  induction entries with
  | nil => rw [List.filterMap_nil, List.find?_nil, if_neg List.not_mem_nil]
  | cons e' entries ih =>
      by_cases he : e' = e
      · rw [he, if_pos List.mem_cons_self]
        cases ht : setting.declaration e with
        | none =>
            rw [List.filterMap_cons_none ht, ih, ht, ite_self]
        | some t =>
            rw [List.filterMap_cons_some ht]
            rcases Option.map_eq_some_iff.mp ht with ⟨value, _, rfl⟩
            rw [List.find?_cons_of_pos]
            exact decide_eq_true ⟨rfl, rfl⟩
      · -- The declaration of another entry is told apart by its registry and key.
        have hmem : e ∈ e' :: entries ↔ e ∈ entries :=
          ⟨fun h => (List.mem_cons.mp h).resolve_left (Ne.symm he), List.mem_cons_of_mem e'⟩
        rw [if_congr hmem rfl rfl, ← ih]
        cases ht : setting.declaration e' with
        | none => rw [List.filterMap_cons_none ht]
        | some t =>
            rw [List.filterMap_cons_some ht]
            rcases Option.map_eq_some_iff.mp ht with ⟨value, _, rfl⟩
            refine List.find?_cons_of_neg fun hc => he ?_
            rw [decide_eq_true_eq] at hc
            exact Prod.ext hc.1 hc.2

variable {document : Document} {options : Options} {api : Api}

/-- What a typed document declares for an entry. -/
theorem declared_eq (h : (document.toApi options).Yields api) {registry : Registry}
    {key : String} (hkey : key ∈ document.components.keys registry) :
    api.declared registry key = (document.setting options).declaration (registry, key) := by
  unfold Api.declared
  rw [typeComponents_yields (toApi_yields h).2.1]
  have hmem := (Components.mem_entryKeys document.components (registry, key)).mpr hkey
  exact (find?_declaration (registry, key) _).trans (if_pos hmem)

/-- A request body among the components is declared by the entry chosen for any body. -/
theorem declared_requestBody (h : (document.toApi options).Yields api) {key : String}
    {body : RequestBody}
    (hget : document.components.requestBodies.get? key = some (.inline body)) :
    ∃ w, (typeContent (document.setting options) .request body.content).Yields w ∧
      (api.declared .requestBodies key).map (·.value) = w.map (describe body.description) := by
  have hkey : key ∈ document.components.keys .requestBodies :=
    OrderedMap.contains_iff.mp (by rw [OrderedMap.contains, hget]; rfl)
  -- The document was typed, so the body was typed as an entry of its registry.
  rcases typeEntryAt_yields_of (toApi_yields h).2.1
    ((Components.mem_entryKeys _ (.requestBodies, key)).mpr hkey) with ⟨value, hvalue⟩
  have hbody : (typeBody (document.setting options) body).Yields value := by
    change (typeKey _ (typeBody (document.setting options)) document.components.requestBodies
      key).Yields value at hvalue
    unfold typeKey at hvalue
    rw [hget] at hvalue
    exact hvalue
  simp only [typeBody, Logged.yields_bind, Logged.yields_pure] at hbody
  rcases hbody with ⟨w, hw, rfl⟩
  refine ⟨w, hw, ?_⟩
  rw [declared_eq h hkey, Setting.declaration_of_yields hvalue]
  cases w with
  | none => rfl
  | some w => rfl

theorem shape_describe (description : Option String) (n : TypeNode) :
    (describe description n).shape = n.shape := by
  cases description <;> rfl

end Declarations

section References

variable {setting : Setting} {pointer key : String} {body : RequestBody}

/-- A reference to a body among the components leads to it at once. -/
theorem components_requestBody
    (hpointer : Pointer.parse pointer = .ok { registry := .requestBodies, key })
    (hget : setting.components.requestBodies.get? key = some (.inline body)) :
    setting.components.requestBody pointer = .ok body := by
  have hkey : definitionKey .requestBodies pointer = .ok key := by
    unfold definitionKey
    rw [hpointer]
    -- The definition stands right there, so one step is enough.
    rfl
  unfold Components.requestBody follow followSteps
  rw [hkey]
  dsimp only
  rw [hget]

/-- It is typed as a reference under the name of the body. -/
theorem typeRef_requestBody
    (hpointer : Pointer.parse pointer = .ok { registry := .requestBodies, key })
    (hget : setting.components.requestBodies.get? key = some (.inline body)) :
    (setting.typeRef pointer).Yields
      { space := setting.options.space, name := Text.typeName key } := by
  have hcontains : setting.components.contains .requestBodies key = true := by
    change setting.components.requestBodies.contains key = true
    rw [OrderedMap.contains, hget]
    rfl
  unfold Setting.typeRef Components.typeRef
  rw [Logged.yields_ofExcept, hpointer]
  dsimp only
  rw [if_pos hcontains]

/-- What a reference to a body among the components is resolved to. -/
theorem resolveRequestBody_reference
    (hpointer : Pointer.parse pointer = .ok { registry := .requestBodies, key })
    (hget : setting.components.requestBodies.get? key = some (.inline body))
    {resolved : RequestBody} {value : Option TypeNode}
    (h : (resolveRequestBody setting (.reference pointer)).Yields (resolved, value)) :
    resolved = body ∧ value = some (TypeRef.node
      { space := setting.options.space, name := Text.typeName key }) := by
  simp only [resolveRequestBody, Logged.yields_bind, Logged.yields_pure, Logged.yields_ofExcept,
    Prod.mk.injEq] at h
  rcases h with ⟨found, hfound, target, htarget, rfl, rfl⟩
  rw [components_requestBody hpointer hget, Except.ok.injEq] at hfound
  exact ⟨hfound.symm, by rw [htarget.unique (typeRef_requestBody hpointer hget)]⟩

/-- A body in place is typed by itself. -/
theorem resolveRequestBody_inline {resolved : RequestBody} {value : Option TypeNode}
    (h : (resolveRequestBody setting (.inline body)).Yields (resolved, value)) :
    resolved = body ∧ (typeRequestBody setting body).Yields value := by
  simp only [resolveRequestBody, Logged.yields_bind, Logged.yields_pure, Prod.mk.injEq] at h
  rcases h with ⟨value, hvalue, rfl, rfl⟩
  exact ⟨rfl, hvalue⟩

end References

section Documents

variable {document : Document} {options : Options} {api : Api}

/-- An operation whose body is a reference to one among the components, and the same
    operation with that body in place. The form encoding is the same. The declared type
    and the type in place come from one entry of the body when its form entry leads, and
    are of one shape otherwise only if both entries happen to be. -/
theorem referred_body_iff (h : (document.toApi options).Yields api) {template : String}
    {item : PathItem} (hitem : (template, item) ∈ document.paths.entries) {method : Method}
    {operation : Operation} (hop : (method, operation) ∈ item.operations.entries)
    {pointer key : String} {body : RequestBody}
    (hslot : operation.requestBody = some (.reference pointer))
    (hpointer : Pointer.parse pointer = .ok { registry := .requestBodies, key })
    (hget : document.components.requestBodies.get? key = some (.inline body)) :
    ∃ named, (typePathOperation (document.setting options) template item method
        operation).Yields named ∧
      (∀ o, named = some o → (∃ p ∈ api.paths, p.template = template ∧ o ∈ p.operations) ∧
        o.entry? "reqFormat" = formatEntry body ∧
        o.entry? "reqBody" = bodyEntry body (some (TypeRef.node
          { space := options.space, name := Text.typeName key }))) ∧
      ∀ v, (typeRequestBody (document.setting options) body).Yields v →
        ∃ inPlace, (typePathOperation (document.setting options) template item method
            (operation.withBody body)).Yields inPlace ∧ inPlace.isSome = named.isSome ∧
          (∀ o, inPlace = some o → o.entry? "reqFormat" = formatEntry body ∧
            o.entry? "reqBody" = bodyEntry body v) ∧
          (body.content.FormLeads →
            (api.declared .requestBodies key).map (·.value) = v.map (describe body.description)) ∧
          ((api.declared .requestBodies key).map (·.value.shape) = v.map (·.shape) ↔
            body.content.FormLeads ∨
              ∃ w, (typeContent (document.setting options) .request body.content).Yields w ∧
                w.map (·.shape) = v.map (·.shape)) := by
  rcases toApi_operation h hitem hop with ⟨named, hnamed, hkept⟩
  refine ⟨named, hnamed, ?_, fun v hv => ?_⟩
  · rintro o rfl
    rcases operation_request_entries hslot (typePathOperation_yields hnamed).2 with
      ⟨resolved, value, hresolved, hformat, hbody⟩
    rcases resolveRequestBody_reference hpointer hget hresolved with ⟨rfl, rfl⟩
    exact ⟨hkept o rfl, hformat, hbody⟩
  · rcases typePathOperation_withBody hnamed hv with ⟨inPlace, hinPlace, hsome⟩
    rcases declared_requestBody h hget with ⟨w, hw, hdeclared⟩
    -- When the form entry leads, the body in place is typed by the chosen entry too.
    have hleads : body.content.FormLeads → w = v := by
      intro hlead
      rw [typeRequestBody_eq, body.content.formLeads_iff_keys.mp hlead, ← typeContent_eq] at hv
      exact hw.unique hv
    -- The description of the body is no part of the shape.
    have hshape : (api.declared .requestBodies key).map (·.value.shape) = w.map (·.shape) := by
      have := congrArg (Option.map (·.shape)) hdeclared
      rw [Option.map_map, Option.map_map] at this
      refine this.trans (congrArg (Option.map · w) ?_)
      exact funext fun n => shape_describe body.description n
    refine ⟨inPlace, hinPlace, hsome, ?_, fun hlead => hleads hlead ▸ hdeclared, ?_⟩
    · rintro o rfl
      have hslot' : (operation.withBody body).requestBody = some (.inline body) := rfl
      rcases operation_request_entries hslot' (typePathOperation_yields hinPlace).2 with
        ⟨resolved, value, hresolved, hformat, hbody⟩
      rcases resolveRequestBody_inline hresolved with ⟨rfl, hvalue⟩
      exact ⟨hformat, hbody.trans (by rw [hvalue.unique hv])⟩
    · rw [hshape]
      constructor
      · exact fun heq => Or.inr ⟨w, hw, heq⟩
      · rintro (hlead | ⟨w', hw', heq⟩)
        -- Both came from the chosen entry, which has one type.
        · rw [hleads hlead]
        · rw [hw.unique hw']
          exact heq

end Documents

/-- An operation that is sent the body `Upload`. -/
def uploadOperation : Operation where
  requestBody := some (.reference "#/components/requestBodies/Upload")
  responses := { entries := [("200", .inline { description := some "ok" })] }

/-- A document with that operation and a body for it. -/
def uploadDocument (body : RequestBody) : Document where
  paths := { entries := [("/upload", { operations := { entries := [(.post, uploadOperation)] } })] }
  components :=
    { requestBodies :=
        { entries := [("Upload", .inline body)], nodup := List.pairwise_singleton _ _ } }

/-- What that document is typed into, by the type of the declaration. -/
def uploadApi (type : Primitive) : Api where
  baseUrl := ""
  space := "Types"
  types := [declarationOf .requestBodies "Upload" { shape := .primitive type }]
  paths := [{
    template := "/upload"
    segments := ["upload", "index"]
    operations := [{
      method := .post
      entries := [
        .field "status" true none { shape := .status 200 },
        .field "reqFormat" true none { shape := .format .formData },
        .field "reqBody" true none (TypeRef.node { space := "Types", name := "Upload" })] }] }]

/-- An entry for values of a type. -/
def mediaOf (type : String) : MediaType where
  schema := some (.inline { type := some (.single type) })

/-- The document is typed as soon as its body and its path are. -/
theorem uploadDocument_yields {body : RequestBody} (hplain : body.description = none)
    {type : Primitive}
    (hbody : (typeContent ((uploadDocument body).setting {}) .request body.content).Yields
      (some { shape := .primitive type }))
    (hpaths : (typePaths ((uploadDocument body).setting {}) (uploadDocument body).paths).Yields
      (uploadApi type).paths) :
    ((uploadDocument body).toApi {}).Yields (uploadApi type) := by
  have hdeclared : (typeRegistry ((uploadDocument body).setting {}) .requestBodies
      (typeBody ((uploadDocument body).setting {}))
      (uploadDocument body).components.requestBodies).Yields (uploadApi type).types := by
    simp only [typeRegistry, Logged.yields_bind, Logged.yields_mapM, Logged.yields_pure]
    refine ⟨[some (declarationOf .requestBodies "Upload" { shape := .primitive type })],
      List.Forall₂.cons ⟨some { shape := .primitive type }, ?_, rfl⟩ List.Forall₂.nil, rfl⟩
    simp only [typeEntry, typeBody, Logged.yields_bind, Logged.yields_pure]
    exact ⟨_, hbody, by rw [hplain]; rfl⟩
  simp only [Document.toApi, typeComponents, Logged.yields_bind, Logged.yields_ofExcept,
    Logged.yields_pure, Logged.yields_report, true_and, exists_const]
  exact ⟨(), rfl, _, ⟨[], rfl, [], rfl, _, hdeclared, [], rfl, [], rfl, rfl⟩, _, hpaths, rfl⟩

/-- A body with nothing but a form entry. -/
def formOnly : RequestBody where
  content := { entries := [("multipart/form-data", mediaOf "number")] }

theorem referred_body_form_only :
    ((uploadDocument formOnly).toApi {}).Yields (uploadApi .number) ∧
      formOnly.content.FormLeads ∧
      ((uploadApi .number).declared .requestBodies "Upload").map (·.value.shape)
        = some (.primitive .number) := by
  have hkey : formOnly.content.chosenKey = some "multipart/form-data" := by decide +kernel
  have hlead : formOnly.content.FormLeads := (Content.formLeads_iff_keys _).mpr hkey.symm
  have h : ((uploadDocument formOnly).toApi {}).Yields (uploadApi .number) := by
    refine uploadDocument_yields rfl ?_ rfl
    rw [typeContent_eq, hkey]
    rfl
  refine ⟨h, hlead, ?_⟩
  have hpointer : Pointer.parse "#/components/requestBodies/Upload"
      = .ok { registry := .requestBodies, key := "Upload" } := rfl
  rcases referred_body_iff h List.mem_cons_self List.mem_cons_self rfl hpointer rfl with
    ⟨named, _, _, hinPlace⟩
  rcases hinPlace (some { shape := .primitive .number }) rfl with ⟨_, _, _, _, _, hshape⟩
  exact hshape.mpr (Or.inl hlead)

/-- A body whose form entry stands behind one for an application. -/
def formSecond : RequestBody where
  content :=
    { entries := [("application/json", mediaOf "string"),
        ("multipart/form-data", mediaOf "number")] }

/-- Such a body is declared by its first entry and typed by its form entry in place. -/
theorem form_second_differs :
    ((uploadDocument formSecond).toApi {}).Yields (uploadApi .string) ∧
      ((uploadApi .string).declared .requestBodies "Upload").map (·.value.shape)
        = some (.primitive .string) ∧
      ∃ inPlace, (typePathOperation ((uploadDocument formSecond).setting {}) "/upload"
          { operations := { entries := [(.post, uploadOperation)] } } .post
          (uploadOperation.withBody formSecond)).Yields (some inPlace) ∧
        ∃ q, inPlace.entry? "reqBody" = some q ∧
          q.values.map (·.shape) = [.primitive .number] := by
  have hkey : formSecond.content.chosenKey = some "application/json" := by decide +kernel
  refine ⟨uploadDocument_yields rfl ?_ rfl, rfl, _, rfl, _, rfl, rfl⟩
  rw [typeContent_eq, hkey]
  rfl

end RouteTypes
