import RouteTypes.Proofs.DocumentSteps

/-!
# The Parts of a Typed Document

What a typed document is put together from.

All that typing knows of types are the types of slots: an inline schema is typed, a
reference is named. Around them it builds little. An entry of the components is declared
as the type of a slot, or, if it is a parameter, as an object with one field. An entry of
an operation has one of six forms, and only the merged wrappers of parameters can have
several values.

A fact about all trees of a document thus follows from the same fact about slots and one
argument for each form, and nothing has to be said again about the steps that typing
takes.

## Main definitions

* `Setting.Types`: The type of a slot, but for its description.
* `Setting.TypesField`: A property for such a type.
* `Setting.Declares`: What an entry of the components is declared as.
* `Setting.IsEntry`: The forms of an entry of an operation.

## Theorems

* `typeEntryAt_declares`, `typeOperation_isEntry`: Typing gives these forms only.
* `toApi_declares`, `toApi_isEntry`: So a typed document is made of them.
-/

namespace RouteTypes

/-- The object for inline parameters, if there are any. -/
def fieldsObject (fields : List Property) : List TypeNode :=
  if fields.isEmpty then [] else [{ shape := .object fields }]

/-- The object for inline parameters is there only when there are some. -/
theorem mem_fieldsObject {fields : List Property} {v : TypeNode} (h : v ∈ fieldsObject fields) :
    fields ≠ [] ∧ v = { shape := .object fields } := by
  unfold fieldsObject at h
  split at h
  · exact absurd h List.not_mem_nil
  · next hne => exact ⟨fun hnil => hne (List.isEmpty_iff.mpr hnil), List.mem_singleton.mp h⟩

namespace Setting

variable {setting : Setting}

/-- The node is the type of what stands in some slot, but for its description. -/
def Types (setting : Setting) (n : TypeNode) : Prop :=
  ∃ direction slot v description,
    (typeSlot setting direction slot).Yields (some v) ∧ n = { v with description }

/-- The property has a name and one value, which is the type of some slot. -/
def TypesField (setting : Setting) (q : Property) : Prop :=
  ∃ name required description v, q = .field name required description v ∧ setting.Types v

/-- The node is a reference to the wrapper of a parameter, with the description of that
    parameter. -/
def IsWrapper (setting : Setting) (n : TypeNode) : Prop :=
  ∃ pointer target description,
    (setting.typeRef pointer).Yields target ∧ n = { target.node with description }

/-- What an entry of the components is declared as: the type of a slot, or an object for
    a parameter. -/
inductive Declares (setting : Setting) : TypeNode → Prop where
  | value {n : TypeNode} (h : setting.Types n) : Declares setting n
  | parameter {q : Property} (h : setting.TypesField q) :
      Declares setting { shape := .object [q] }

/-- The forms of an entry of an operation. -/
inductive IsEntry (setting : Setting) : Property → Prop where
  | merged {name : String} {required : Bool} {wrappers : List TypeNode} {fields : List Property}
      (hname : name = "reqHeaders" ∨ name = "query")
      (hwrappers : ∀ v ∈ wrappers, setting.IsWrapper v)
      (hfields : ∀ q ∈ fields, setting.TypesField q)
      (hne : wrappers ++ fieldsObject fields ≠ [])
      (hoptional : name = "reqHeaders" → required = false) :
      IsEntry setting
        { name := .field name, required, values := wrappers ++ fieldsObject fields }
  | status (code : Nat) : IsEntry setting (.field "status" true none { shape := .status code })
  | responseBody {description : Option String} {v : TypeNode} (h : setting.Types v) :
      IsEntry setting (.field "resBody" true description v)
  | responseHeaders {fields : List Property} (hfields : ∀ q ∈ fields, setting.TypesField q)
      (hne : fields ≠ []) :
      IsEntry setting (.field "resHeaders" true none { shape := .object fields })
  | format (encoding : BodyFormat) :
      IsEntry setting (.field "reqFormat" true none { shape := .format encoding })
  | requestBody {required : Bool} {description : Option String} {v : TypeNode}
      (h : setting.Types v) : IsEntry setting (.field "reqBody" required description v)

/-- The type of a slot has its own description to begin with. -/
theorem types_of_slot {direction : Direction} {slot : Slot Schema} {v : TypeNode}
    (h : (typeSlot setting direction slot).Yields (some v)) : setting.Types v := by
  refine ⟨direction, slot, v, v.description, h, ?_⟩
  cases v
  rfl

theorem types_of_schema {direction : Direction} {s : Schema} {v : TypeNode}
    (h : (typeSchema setting direction s).Yields (some v)) : setting.Types v := by
  have hslot : (typeSlot setting direction (.inline s)).Yields (some v) := h
  exact types_of_slot hslot

theorem Types.describe {v : TypeNode} (h : setting.Types v) (description : Option String) :
    setting.Types (describe description v) := by
  cases description with
  | none => exact h
  | some text =>
      rcases h with ⟨direction, slot, w, _, hw, rfl⟩
      exact ⟨direction, slot, w, some text, hw, rfl⟩

/-- A wrapper is the type of a slot with a reference. -/
theorem IsWrapper.types {n : TypeNode} (h : setting.IsWrapper n) : setting.Types n := by
  rcases h with ⟨pointer, target, description, htarget, rfl⟩
  refine ⟨.request, .reference pointer, target.node, description, ?_, rfl⟩
  simp only [typeSlot, Logged.yields_bind, Logged.yields_pure]
  exact ⟨target, htarget, rfl⟩

theorem types_of_reference {pointer : String} {target : TypeRef}
    (h : (setting.typeRef pointer).Yields target) : setting.Types target.node :=
  IsWrapper.types ⟨pointer, target, none, h, rfl⟩

theorem typesField {name : String} {required : Bool} {description : Option String}
    {v : TypeNode} (h : setting.Types v) :
    setting.TypesField (.field name required description v) :=
  ⟨name, required, description, v, rfl, h⟩

end Setting

section Declarations

variable {setting : Setting} {direction : Direction} {n : TypeNode}

/-- The type of a schema that may be missing is the type of a slot when it is there. -/
theorem typeOptional_types {slot : Option (Slot Schema)}
    (h : (typeOptional setting direction slot).Yields (some n)) : setting.Types n := by
  cases slot with
  | none =>
      rw [typeOptional, Logged.yields_pure] at h
      exact absurd h (by simp only [reduceCtorEq, not_false_eq_true])
  | some slot => exact Setting.types_of_slot h

/-- A parameter is declared as an object with one field. -/
theorem typeParameter_declares {p : Parameter} (h : (typeParameter setting p).Yields (some n)) :
    setting.Declares n := by
  simp only [typeParameter, Logged.yields_bind, Logged.yields_pure] at h
  rcases h with ⟨value, hvalue, hmap⟩
  rcases Option.map_eq_some_iff.mp hmap with ⟨v, rfl, rfl⟩
  exact .parameter (Setting.typesField (typeOptional_types hvalue))

/-- A value that is only described differently is still the type of a slot. -/
theorem described_declares {x : Typing (Option TypeNode)} {description : Option String}
    (hx : ∀ v, x.Yields (some v) → setting.Types v)
    (h : (x >>= fun value => pure (value.map (describe description))).Yields (some n)) :
    setting.Declares n := by
  simp only [Logged.yields_bind, Logged.yields_pure] at h
  rcases h with ⟨value, hvalue, hmap⟩
  rcases Option.map_eq_some_iff.mp hmap with ⟨v, rfl, rfl⟩
  exact .value ((hx v hvalue).describe description)

/-- An entry is declared as a reference, or as its definition is. -/
theorem typeKey_declares {α : Type} {inline : α → Typing (Option TypeNode)}
    (hinline : ∀ a m, (inline a).Yields (some m) → setting.Declares m)
    {entries : OrderedMap String (Slot α)} {key : String}
    (h : (typeKey setting inline entries key).Yields (some n)) : setting.Declares n := by
  unfold typeKey at h
  split at h
  · next slot _ =>
      cases slot with
      | reference pointer =>
          simp only [typeEntry, Logged.yields_bind, Logged.yields_pure, Option.some.injEq] at h
          rcases h with ⟨target, htarget, rfl⟩
          exact .value (Setting.types_of_reference htarget)
      | inline value => exact hinline value n h
  · exact absurd ((Logged.yields_pure _ _).mp h) (by simp only [reduceCtorEq, not_false_eq_true])

/-- An entry of the components is declared in one of the two ways. -/
theorem typeEntryAt_declares {registry : Registry} {key : String}
    (h : (setting.typeEntryAt registry key).Yields (some n)) : setting.Declares n := by
  cases registry with
  | schemas =>
      exact typeKey_declares (fun _ _ hs => .value (Setting.types_of_schema hs)) h
  | parameters => exact typeKey_declares (fun _ _ => typeParameter_declares) h
  | requestBodies =>
      exact typeKey_declares (fun _ _ => described_declares fun _ => typeOptional_types) h
  | responses =>
      exact typeKey_declares (fun _ _ => described_declares fun _ => typeOptional_types) h
  | headers =>
      exact typeKey_declares (fun _ _ => described_declares fun _ => typeOptional_types) h

end Declarations

section Entries

variable {setting : Setting}

/-- What a parameter adds to the merged property of its location has one of two forms. -/
def DeclaredParameter.Formed (setting : Setting) (d : DeclaredParameter) : Prop :=
  (∀ v, d.entry.wrapper? = some v → setting.IsWrapper v) ∧
    ∀ q, d.entry.field? = some q → setting.TypesField q

/-- A parameter adds a wrapper or a field. -/
theorem ParameterEntry.field?_of_wrapper? {e : ParameterEntry} (h : e.wrapper? = none) :
    ∃ q, e.field? = some q := by
  cases e with
  | wrapper value => exact absurd h (by simp only [wrapper?, reduceCtorEq, not_false_eq_true])
  | field property => exact ⟨property, rfl⟩

/-- A parameter by reference gives a wrapper, one in its place a field. -/
theorem declareParameter_formed {slot : Slot Parameter} {d : DeclaredParameter}
    (h : (declareParameter setting slot).Yields (some d)) : d.Formed setting := by
  refine declareParameter_holds h (fun pointer target description _ htarget => ?_)
    fun parameter value _ hvalue => ?_
  · exact ⟨pointer, target, description, htarget, rfl⟩
  · exact Setting.typesField (typeOptional_types hvalue)

/-- All parameters of an operation have one of the two forms. -/
theorem declareParameters_formed {slots : List (Slot Parameter)} {ds : List DeclaredParameter}
    (h : (declareParameters setting slots).Yields ds) : ∀ d ∈ ds, d.Formed setting := by
  intro d hd
  rcases exists_of_mem_declareParameters h hd with ⟨slot, _, hslot⟩
  exact declareParameter_formed hslot

/-- The values that parameters are merged into. -/
def mergedValues (here : List DeclaredParameter) : List TypeNode :=
  let fields := here.filterMap (·.entry.field?)
  here.filterMap (·.entry.wrapper?) ++
    if fields.isEmpty then [] else [{ shape := .object fields }]

/-- Parameters are merged into some value, because each adds a wrapper or a field. -/
theorem mergedValues_ne_nil {here : List DeclaredParameter} {d : DeclaredParameter}
    (hd : d ∈ here) : mergedValues here ≠ [] := by
  intro hnil
  rcases List.append_eq_nil_iff.mp hnil with ⟨hwrappers, hfields⟩
  -- The parameter adds no wrapper, so it adds a field.
  have hw : d.entry.wrapper? = none := by
    rw [List.filterMap_eq_nil_iff] at hwrappers
    exact hwrappers d hd
  rcases ParameterEntry.field?_of_wrapper? hw with ⟨q, hq⟩
  have hmem : q ∈ here.filterMap (·.entry.field?) := List.mem_filterMap.mpr ⟨d, hd, hq⟩
  split at hfields
  · next hempty =>
      rw [List.isEmpty_iff.mp hempty] at hmem
      exact absurd hmem List.not_mem_nil
  · exact absurd hfields (by simp only [reduceCtorEq, not_false_eq_true])

/-- Parameters are merged into an entry of the first form. -/
theorem mergeParameters_isEntry {ds : List DeclaredParameter} (h : ∀ d ∈ ds, d.Formed setting)
    {location : Location} {group : ParameterGroup}
    (hg : mergeParameters ds location = some group) {name : String}
    (hname : name = "reqHeaders" ∨ name = "query") {required : Bool}
    (hoptional : name = "reqHeaders" → required = false) :
    setting.IsEntry (group.property name required) := by
  unfold mergeParameters at hg
  dsimp only at hg
  split at hg
  · exact absurd hg (by simp only [reduceCtorEq, not_false_eq_true])
  · next hne =>
      obtain rfl := Option.some.inj hg
      have hhere : ∀ d ∈ ds.filter (·.location = location), d.Formed setting :=
        fun d hd => h d (List.mem_of_mem_filter hd)
      -- There is a group only when some parameter has the location.
      have hnil : ds.filter (·.location = location) ≠ [] := fun hc => hne (hc ▸ rfl)
      rcases List.exists_mem_of_ne_nil _ hnil with ⟨d, hd⟩
      refine .merged hname (fun v hv => ?_) (fun q hq => ?_) (mergedValues_ne_nil hd)
        hoptional
      · rcases List.mem_filterMap.mp hv with ⟨d, hd, hentry⟩
        exact (hhere d hd).1 v hentry
      · rcases List.mem_filterMap.mp hq with ⟨d, hd, hentry⟩
        exact (hhere d hd).2 q hentry

/-- Both entries for parameters have the first form. That for headers is never required. -/
theorem parameterEntries_isEntry {ds : List DeclaredParameter}
    (h : ∀ d ∈ ds, d.Formed setting) : ∀ q ∈ parameterEntries ds, setting.IsEntry q := by
  intro q hq
  unfold parameterEntries at hq
  rcases List.mem_append.mp hq with hq | hq
  · rcases exists_of_mem_toList_map hq with ⟨group, hgroup, rfl⟩
    exact mergeParameters_isEntry h hgroup (Or.inl rfl) fun _ => rfl
  · rcases exists_of_mem_toList_map hq with ⟨group, hgroup, rfl⟩
    exact mergeParameters_isEntry h hgroup (Or.inr rfl) fun hquery => absurd hquery (by decide)

/-- A response header is a field with the type of a slot. -/
theorem responseHeader_typesField {name : String} {slot : Slot Header} {q : Property}
    (h : (responseHeader setting name slot).Yields (some q)) : setting.TypesField q := by
  rcases responseHeader_yields h with
    ⟨pointer, target, rfl, htarget, rfl⟩ | ⟨header, value, rfl, hvalue, rfl⟩
  · exact Setting.typesField (Setting.types_of_reference htarget)
  · exact Setting.typesField (typeOptional_types hvalue)

/-- All headers of a response are such fields. -/
theorem responseHeaders_typesField {response : Response} {qs : List Property}
    (h : (responseHeaders setting response).Yields qs) : ∀ q ∈ qs, setting.TypesField q := by
  intro q hq
  rcases exists_of_mem_responseHeaders h hq with ⟨e, _, he⟩
  exact responseHeader_typesField he

/-- They are put into one entry, and without headers there is none. -/
theorem headersEntry_isEntry {qs : List Property} (h : ∀ q ∈ qs, setting.TypesField q) :
    ∀ q ∈ headersEntry qs, setting.IsEntry q := by
  intro q hq
  unfold headersEntry at hq
  split at hq
  · exact absurd hq List.not_mem_nil
  · next hne =>
      rw [List.mem_singleton.mp hq]
      exact .responseHeaders h fun hnil => hne (List.isEmpty_iff.mpr hnil)

/-- The entries of a response are the status, a body and headers. -/
theorem responseEntries_isEntry {status : Nat} {slot : Slot Response} {qs : List Property}
    (h : (responseEntries setting status slot).Yields qs) : ∀ q ∈ qs, setting.IsEntry q := by
  intro q hq
  rcases exists_of_mem_responseEntries h hq with
    ⟨response, _, rfl | ⟨value, hvalue, rfl⟩ | ⟨headers, hheaders, hq⟩⟩
  · exact .status status
  · exact .responseBody (typeOptional_types hvalue)
  · exact headersEntry_isEntry (responseHeaders_typesField hheaders) q hq

/-- The value of a request body is a reference or the type of a content entry. -/
theorem resolveRequestBody_types {slot : Slot RequestBody} {body : RequestBody} {n : TypeNode}
    (h : (resolveRequestBody setting slot).Yields (body, some n)) : setting.Types n := by
  rcases resolveRequestBody_yields h with
    ⟨pointer, target, rfl, htarget, rfl⟩ | ⟨rfl, ⟨f, _, hvalue⟩ | ⟨_, hvalue⟩⟩
  · exact Setting.types_of_reference htarget
  · exact typeOptional_types hvalue
  · exact typeOptional_types hvalue

/-- The entries of a request are the format of its body and its value, if it has them. -/
theorem optionalRequestEntries_isEntry {slot : Option (Slot RequestBody)} {qs : List Property}
    (h : (optionalRequestEntries setting slot).Yields qs) : ∀ q ∈ qs, setting.IsEntry q := by
  intro q hq
  rcases exists_of_mem_optionalRequestEntries h hq with
    ⟨s, body, value, rfl, hbody, ⟨format, rfl⟩ | ⟨n, rfl, rfl⟩⟩
  · exact .format format
  · exact .requestBody (resolveRequestBody_types hbody)

/-- The entries of an operation have one of the forms. -/
theorem typeOperation_isEntry {item : PathItem} {method : Method} {operation : Operation}
    {o : TypedOperation} (h : (typeOperation setting item method operation).Yields (some o)) :
    ∀ q ∈ o.entries, setting.IsEntry q := by
  rcases typeOperation_yields h with
    ⟨declared, status, slot, response, request, hdeclared, _, hresponse, hrequest, rfl⟩
  intro q hq
  -- Parameters first, then the response, then the request.
  rcases List.mem_append.mp hq with hq | hq
  · rcases List.mem_append.mp hq with hq | hq
    · exact parameterEntries_isEntry (declareParameters_formed hdeclared) q hq
    · exact responseEntries_isEntry hresponse q hq
  · exact optionalRequestEntries_isEntry hrequest q hq

end Entries

section Documents

variable {document : Document} {options : Options} {api : Api}

/-- The declarations of a typed document have one of the two forms. -/
theorem toApi_declares (h : (document.toApi options).Yields api) :
    ∀ t ∈ api.types, (document.setting options).Declares t.value := by
  intro t ht
  rcases exists_of_mem_types (toApi_yields h).2.1 ht with ⟨e, _, value, hvalue, rfl⟩
  exact typeEntryAt_declares hvalue

/-- The entries of its operations have one of the six forms. -/
theorem toApi_isEntry (h : (document.toApi options).Yields api) :
    ∀ p ∈ api.paths, ∀ o ∈ p.operations, ∀ q ∈ o.entries,
      (document.setting options).IsEntry q := by
  intro p hp o ho
  rcases typePaths_yields (toApi_yields h).2.2.1 p hp with ⟨e, _, he⟩
  rcases typePath_yields he with ⟨_, _, _, _, _, hops⟩
  rcases hops o ho with ⟨_, _, _, hop⟩
  exact typeOperation_isEntry hop

end Documents

end RouteTypes
