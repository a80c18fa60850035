import RouteTypes.Proofs.Chains
import RouteTypes.Proofs.DocumentTrees
import RouteTypes.Proofs.ObjectKeys
import RouteTypes.Proofs.RequestBodies

/-!
# Merged Parameters

Which parameters an operation asks for, and where they are found in its entries.

The parameters of a path come before those of an operation, and both are sorted by the
place they are sent at. References are sorted too, by the parameter at the end of their
chain. Whatever is sent at a place and has a type is collected in the order of the document
(`Setting.Collects`). That is a statement about the document: it names the parameters one
by one and does not say how they are merged.

Merging splits such a list once more. References become wrappers, in order, and all other
parameters become fields of one object behind them. Nothing is merged for a place that no
collected parameter is sent at (`mergeParameters_eq`).
Paths and cookies have no entry, so their parameters could as well be missing from the
document.

## Main definitions

* `CollectedParameter`: A parameter with its type, or one referred to with its declaration.
* `Setting.Takes`: What a parameter of the document is collected as.
* `Setting.Collects`: The parameters that are sent at a place, in order.
* `Slot.Resolves`: A parameter that can be collected or left out without an error.
* `mergedParameterValues`: References first, then one object.
* `MergedAs`: An entry that consists of collected parameters.
* `ParametersMerged`: The entries for headers and for the query.

## Theorems

* `declareParameter_yields_some_iff`: Parameters are declared as they are collected.
* `exists_declareParameters`: Parameters that resolve can be declared.
* `Setting.Collects.unique`: A document leaves no choice in what is collected.
* `mergeParameters_eq`: What the parameters of a place are merged into.
* `parameterEntries_filter`: Parameters in paths and cookies have no entry.
* `parameters_merged`: The entries for the parameters of an operation.
-/

namespace RouteTypes

/-- A parameter that is ready to be merged: one that is referred to, with its declaration,
    or one that stands in place, with its type. -/
inductive CollectedParameter where
  | referred (parameter : Parameter) (target : TypeRef)
  | inPlace (parameter : Parameter) (type : TypeNode)

namespace CollectedParameter

/-- The parameter itself, at the end of its chain if it is referred to. -/
def parameter : CollectedParameter → Parameter
  | referred parameter _ | inPlace parameter _ => parameter

/-- Whether the parameter has to be given. It says so or it need not be. -/
def isRequired (p : CollectedParameter) : Bool :=
  p.parameter.required.getD false

/-- The reference that a parameter elsewhere becomes. -/
def wrapper? : CollectedParameter → Option TypeNode
  | referred parameter target =>
    some { shape := .reference target, description := parameter.description }
  | inPlace _ _ => none

/-- The field that a parameter in place becomes. -/
def field? : CollectedParameter → Option Property
  | referred _ _ => none
  | inPlace parameter type => some {
      name := .field parameter.name
      required := parameter.required.getD false
      description := parameter.description
      values := [type] }

end CollectedParameter

/-- What a parameter of the document is collected as. A reference names the declaration of
    its key and has the parameter at the end of its chain. A parameter in place has to have
    a schema with a type. -/
inductive Setting.Takes (setting : Setting) : Slot Parameter → CollectedParameter → Prop where
  | referred {pointer key : String} {parameter : Parameter}
      (hkey : Pointer.parse pointer = .ok { registry := .parameters, key })
      (hparameter : setting.components.parameter pointer = .ok parameter) :
      Takes setting (.reference pointer)
        (.referred parameter { space := setting.options.space, name := Text.typeName key })
  | inPlace {parameter : Parameter} {slot : Slot Schema} {type : TypeNode}
      (hschema : parameter.schema = some slot)
      (htype : (typeSlot setting .request slot).Yields (some type)) :
      Takes setting (.inline parameter) (.inPlace parameter type)

/-- The parameters that are sent at a place, in the order of the document. All others are
    passed over. -/
inductive Setting.Collects (setting : Setting) (location : Location) :
    List (Slot Parameter) → List CollectedParameter → Prop where
  | nil : Collects setting location [] []
  | take {slot : Slot Parameter} {slots : List (Slot Parameter)} {p : CollectedParameter}
      {ps : List CollectedParameter} (hslot : setting.Takes slot p)
      (hlocation : p.parameter.location = location) (h : Collects setting location slots ps) :
      Collects setting location (slot :: slots) (p :: ps)
  | pass {slot : Slot Parameter} {slots : List (Slot Parameter)} {ps : List CollectedParameter}
      (hslot : ∀ p, setting.Takes slot p → p.parameter.location ≠ location)
      (h : Collects setting location slots ps) : Collects setting location (slot :: slots) ps

/-- A reference leads to a parameter, and the schema of a parameter in place can be typed. -/
def Slot.Resolves (setting : Setting) : Slot Parameter → Prop
  | .reference pointer => ∃ parameter, setting.components.parameter pointer = .ok parameter
  | .inline parameter =>
    ∀ slot ∈ parameter.schema, ∃ type, (typeSlot setting .request slot).Yields type

/-- The place that a parameter is sent at. -/
def Slot.location? (c : Components) : Slot Parameter → Option Location
  | .reference pointer => (c.parameter pointer).toOption.map (·.location)
  | .inline parameter => some parameter.location

/-- The values that collected parameters are merged into: the references to those elsewhere
    and, if there are others, one object with a field for each of them. -/
def mergedParameterValues (ps : List CollectedParameter) : List TypeNode :=
  ps.filterMap (·.wrapper?) ++
    if ps.filterMap (·.field?) = [] then [] else [{ shape := .object (ps.filterMap (·.field?)) }]

/-- There is an entry exactly when there are collected parameters, and it has their
    values. -/
structure MergedAs (name : String) (ps : List CollectedParameter) (entry : Option Property) :
    Prop where
  eq_none_iff : entry = none ↔ ps = []
  name : ∀ q ∈ entry, q.name = .field name
  description : ∀ q ∈ entry, q.description = none
  values : ∀ q ∈ entry, q.values = mergedParameterValues ps

/-- The entries under the two names for parameters consist of those that are sent as headers
    and of those in the query. Headers never have to be given, and a query has to be when
    one of its parameters has. -/
structure ParametersMerged (headers query : List CollectedParameter)
    (found : String → Option Property) : Prop where
  headersMerged : MergedAs "reqHeaders" headers (found "reqHeaders")
  headersOptional : ∀ q ∈ found "reqHeaders", q.required = false
  queryMerged : MergedAs "query" query (found "query")
  queryRequired : ∀ q ∈ found "query", (q.required = true ↔ ∃ p ∈ query, p.isRequired = true)

section Declaring

variable {setting : Setting} {slot : Slot Parameter} {slots : List (Slot Parameter)}

/-- A collected parameter as it is declared. -/
def CollectedParameter.declared (p : CollectedParameter) : DeclaredParameter where
  location := p.parameter.location
  required := p.isRequired
  entry := match p with
    | referred parameter target =>
      .wrapper { shape := .reference target, description := parameter.description }
    | inPlace parameter type =>
      .field (.field parameter.name (parameter.required.getD false) parameter.description type)

/-- A reference that leads to a parameter names the declaration of its key. -/
theorem exists_typeRef_of_parameter {pointer : String} {parameter : Parameter}
    (h : setting.components.parameter pointer = .ok parameter) :
    ∃ key, Pointer.parse pointer = .ok { registry := .parameters, key } ∧
      (setting.typeRef pointer).Yields
        { space := setting.options.space, name := Text.typeName key } := by
  rcases follow_eq_ok_iff.mp h with ⟨keys, htrail⟩
  rcases htrail.exists_cons with ⟨key, rest, rfl, hkey⟩
  have hcontains : setting.components.contains .parameters key = true := by
    rw [Components.contains_iff]
    exact htrail.subset_keys List.mem_cons_self
  refine ⟨key, hkey, ?_⟩
  simp only [Setting.typeRef, Logged.yields_ofExcept, Components.typeRef, hkey, hcontains,
    if_true]

/-- A parameter is declared as it is collected, and nothing else is declared. -/
theorem declareParameter_yields_some_iff {d : DeclaredParameter} :
    (declareParameter setting slot).Yields (some d) ↔
      ∃ p, setting.Takes slot p ∧ d = p.declared := by
  cases slot with
  | reference pointer =>
      simp only [declareParameter, Logged.yields_bind, Logged.yields_ofExcept,
        Logged.yields_pure, Option.some.injEq]
      constructor
      · rintro ⟨parameter, hparameter, target, htarget, rfl⟩
        rcases exists_typeRef_of_parameter hparameter with ⟨key, hkey, hnamed⟩
        obtain rfl := htarget.unique hnamed
        exact ⟨_, .referred hkey hparameter, rfl⟩
      · rintro ⟨_, ⟨hkey, hparameter⟩, rfl⟩
        -- The key of a reference that leads somewhere is one of the components.
        rcases exists_typeRef_of_parameter hparameter with ⟨key, hkey', hnamed⟩
        rw [hkey, Except.ok.injEq, Pointer.mk.injEq] at hkey'
        obtain rfl := hkey'.2.1
        exact ⟨_, hparameter, _, hnamed, rfl⟩
  | inline parameter =>
      simp only [declareParameter, Logged.yields_bind, Logged.yields_pure,
        Option.map_eq_some_iff]
      constructor
      · rintro ⟨_, hvalue, type, rfl, rfl⟩
        cases hschema : parameter.schema with
        | none =>
            rw [hschema, typeOptional, Logged.yields_pure] at hvalue
            exact absurd hvalue (by simp only [reduceCtorEq, not_false_eq_true])
        | some schema =>
            rw [hschema] at hvalue
            exact ⟨_, .inPlace hschema hvalue, rfl⟩
      · rintro ⟨_, hp, rfl⟩
        cases hp with
        | inPlace hschema htype =>
            refine ⟨_, ?_, _, rfl, rfl⟩
            rw [hschema]
            exact htype

/-- What is declared first comes first, and nothing comes from a parameter without a type. -/
theorem declareParameters_cons {ds : List DeclaredParameter} :
    (declareParameters setting (slot :: slots)).Yields ds ↔
      ∃ r rest, (declareParameter setting slot).Yields r ∧
        (declareParameters setting slots).Yields rest ∧ ds = r.toList ++ rest := by
  simp only [declareParameters, Logged.yields_bind, Logged.yields_pure, List.mapM_cons]
  constructor
  · rintro ⟨_, ⟨r, hr, rs, hrs, rfl⟩, rfl⟩
    exact ⟨r, _, hr, ⟨rs, hrs, rfl⟩, by cases r <;> rfl⟩
  · rintro ⟨r, _, hr, ⟨rs, hrs, rfl⟩, rfl⟩
    exact ⟨_, ⟨r, hr, rs, hrs, rfl⟩, by cases r <;> rfl⟩

/-- The declared parameters of a place are the collected ones. -/
theorem Setting.Collects.filter_eq {location : Location} {ps : List CollectedParameter}
    (h : setting.Collects location slots ps) {ds : List DeclaredParameter}
    (hds : (declareParameters setting slots).Yields ds) :
    ds.filter (·.location = location) = ps.map (·.declared) := by
  -- Along the document: what is taken or passed over is what is declared or left out.
  induction h generalizing ds with
  | nil =>
      simp only [declareParameters, List.mapM_nil, Logged.yields_bind, Logged.yields_pure,
        exists_eq_left'] at hds
      rw [← hds]
      rfl
  | take hslot hlocation _ ih =>
      rcases declareParameters_cons.mp hds with ⟨r, rest, hr, hrest, rfl⟩
      obtain rfl := hr.unique (declareParameter_yields_some_iff.mpr ⟨_, hslot, rfl⟩)
      rw [Option.toList_some, List.singleton_append, List.map_cons, ← ih hrest]
      exact List.filter_cons_of_pos (decide_eq_true hlocation)
  | pass hslot _ ih =>
      rcases declareParameters_cons.mp hds with ⟨r, rest, hr, hrest, rfl⟩
      cases r with
      | none => exact ih hrest
      -- No parameter that the place takes comes from it, so what is declared is for another place.
      | some d =>
          rcases declareParameter_yields_some_iff.mp hr with ⟨p, hp, rfl⟩
          rw [Option.toList_some, List.singleton_append, ← ih hrest]
          exact List.filter_cons_of_neg fun heq => hslot p hp (of_decide_eq_true heq)

/-- Parameters that resolve can be declared. -/
theorem exists_declareParameters (h : ∀ slot ∈ slots, slot.Resolves setting) :
    ∃ ds, (declareParameters setting slots).Yields ds := by
  have hsteps : ∀ slot ∈ slots, ∃ r, (declareParameter setting slot).Yields r := by
    intro slot hslot
    have hresolves := h slot hslot
    cases slot with
    | reference pointer =>
        rcases hresolves with ⟨parameter, hparameter⟩
        rcases exists_typeRef_of_parameter hparameter with ⟨key, hkey, _⟩
        exact ⟨_, declareParameter_yields_some_iff.mpr ⟨_, .referred hkey hparameter, rfl⟩⟩
    | inline parameter =>
        have htype : ∃ type, (typeOptional setting .request parameter.schema).Yields type := by
          cases hschema : parameter.schema with
          -- A parameter without a schema resolves, and is typed into nothing.
          | none => exact ⟨none, rfl⟩
          | some schema => exact hresolves schema hschema
        rcases htype with ⟨type, htype⟩
        simp only [declareParameter, Logged.yields_bind, Logged.yields_pure]
        exact ⟨_, type, htype, rfl⟩
  rcases Logged.exists_yields_mapM hsteps with ⟨rs, hrs⟩
  simp only [declareParameters, Logged.yields_bind, Logged.yields_pure]
  exact ⟨_, rs, hrs, rfl⟩

/-- A parameter is collected as one thing only. -/
theorem Setting.Takes.unique {p p' : CollectedParameter} (h : setting.Takes slot p)
    (h' : setting.Takes slot p') : p = p' := by
  cases h with
  | referred hkey hparameter =>
      rcases h' with ⟨hkey', hparameter'⟩
      rw [hkey, Except.ok.injEq, Pointer.mk.injEq] at hkey'
      obtain rfl := hkey'.2.1
      obtain rfl := Except.ok.inj (hparameter.symm.trans hparameter')
      rfl
  | inPlace hschema htype =>
      cases h' with
      | inPlace hschema' htype' =>
          obtain rfl := Option.some.inj (hschema.symm.trans hschema')
          obtain rfl := Option.some.inj (htype.unique htype')
          rfl

/-- A document leaves no choice in what is collected. -/
theorem Setting.Collects.unique {location : Location} {ps ps' : List CollectedParameter}
    (h : setting.Collects location slots ps) (h' : setting.Collects location slots ps') :
    ps = ps' := by
  induction h generalizing ps' with
  | nil =>
      cases h'
      rfl
  | take hslot hlocation _ ih =>
      cases h' with
      | take hslot' _ h' => rw [hslot.unique hslot', ih h']
      | pass hslot' _ => exact absurd hlocation (hslot' _ hslot)
  | pass hslot _ ih =>
      cases h' with
      | take hslot' hlocation _ => exact absurd hlocation (hslot _ hslot')
      | pass _ h' => exact ih h'

/-- Parameters can be collected for every place. -/
theorem Setting.exists_collects (setting : Setting) (location : Location)
    (slots : List (Slot Parameter)) : ∃ ps, setting.Collects location slots ps := by
  induction slots with
  | nil => exact ⟨[], .nil⟩
  | cons slot slots ih =>
      rcases ih with ⟨ps, hps⟩
      -- Whether the place takes the parameter is not decided by a test, only told apart.
      by_cases h : ∃ p, setting.Takes slot p ∧ p.parameter.location = location
      · rcases h with ⟨p, hp, hlocation⟩
        exact ⟨p :: ps, .take hp hlocation hps⟩
      · exact ⟨ps, .pass (fun p hp hlocation => h ⟨p, hp, hlocation⟩) hps⟩

end Declaring

section Merging

variable {setting : Setting} {slots : List (Slot Parameter)} {location : Location}
  {ps : List CollectedParameter}

/-- The parameters of a place are merged into what its collected parameters say. -/
theorem mergeParameters_eq (h : setting.Collects location slots ps) {ds : List DeclaredParameter}
    (hds : (declareParameters setting slots).Yields ds) :
    mergeParameters ds location =
      if ps = [] then none
      else some { values := mergedParameterValues ps, required := ps.any (·.isRequired) } := by
  have hwrappers : (ps.map (·.declared)).filterMap (·.entry.wrapper?)
      = ps.filterMap (·.wrapper?) := by
    rw [List.filterMap_map]
    exact List.filterMap_congr fun p _ => by cases p <;> rfl
  have hfields : (ps.map (·.declared)).filterMap (·.entry.field?)
      = ps.filterMap (·.field?) := by
    rw [List.filterMap_map]
    exact List.filterMap_congr fun p _ => by cases p <;> rfl
  have hrequired : (ps.map (·.declared)).any (·.required) = ps.any (·.isRequired) := by
    rw [List.any_map]
    rfl
  unfold mergeParameters mergedParameterValues
  dsimp only
  rw [h.filter_eq hds, hwrappers, hfields, hrequired]
  simp only [List.isEmpty_iff, List.map_eq_nil_iff]

/-- The entry for a place consists of the parameters that are collected for it. -/
theorem mergedAs_property (h : setting.Collects location slots ps) {ds : List DeclaredParameter}
    (hds : (declareParameters setting slots).Yields ds) (name : String)
    (required : ParameterGroup → Bool) :
    MergedAs name ps
      ((mergeParameters ds location).map fun g => g.property name (required g)) := by
  rw [mergeParameters_eq h hds]
  -- Without parameters there is no entry, so the conditions on its fields hold of nothing.
  by_cases hps : ps = []
  · rw [if_pos hps, Option.map_none]
    exact {
      eq_none_iff := iff_of_true rfl hps
      name := nofun
      description := nofun
      values := nofun }
  · rw [if_neg hps, Option.map_some]
    exact {
      eq_none_iff := iff_of_false (Option.some_ne_none _) hps
      name := fun q hq => Option.mem_some.mp hq ▸ rfl
      description := fun q hq => Option.mem_some.mp hq ▸ rfl
      values := fun q hq => Option.mem_some.mp hq ▸ rfl }

theorem find?_reqHeaders (ds : List DeclaredParameter) :
    (parameterEntries ds).find? (·.name = .field "reqHeaders")
      = (mergeParameters ds .header).map fun g => g.property "reqHeaders" false := by
  unfold parameterEntries
  cases mergeParameters ds .header <;> cases mergeParameters ds .query <;> rfl

theorem find?_query (ds : List DeclaredParameter) :
    (parameterEntries ds).find? (·.name = .field "query")
      = (mergeParameters ds .query).map fun g => g.property "query" g.required := by
  unfold parameterEntries
  cases mergeParameters ds .header <;> cases mergeParameters ds .query <;> rfl

/-- The entries for declared parameters consist of the collected ones. -/
theorem parametersMerged_find? {headers query : List CollectedParameter}
    (hheaders : setting.Collects .header slots headers)
    (hquery : setting.Collects .query slots query) {ds : List DeclaredParameter}
    (hds : (declareParameters setting slots).Yields ds) :
    ParametersMerged headers query
      fun name => (parameterEntries ds).find? (·.name = .field name) where
  headersMerged := by
    rw [find?_reqHeaders]
    exact mergedAs_property hheaders hds "reqHeaders" fun _ => false
  headersOptional := by
    intro q hq
    rw [find?_reqHeaders] at hq
    rcases Option.map_eq_some_iff.mp hq with ⟨g, _, rfl⟩
    rfl
  queryMerged := by
    rw [find?_query]
    exact mergedAs_property hquery hds "query" (·.required)
  queryRequired := by
    intro q hq
    rw [find?_query, mergeParameters_eq hquery hds] at hq
    rcases Option.map_eq_some_iff.mp hq with ⟨g, hg, rfl⟩
    by_cases hempty : query = []
    · rw [if_pos hempty] at hg
      exact absurd hg (Option.some_ne_none g).symm
    · rw [if_neg hempty, Option.some.injEq] at hg
      rw [← hg]
      exact List.any_eq_true

end Merging

section Passing

variable {setting : Setting} {slots : List (Slot Parameter)} {location : Location}
  {ps : List CollectedParameter}

/-- Whether a parameter is sent as a header or in the query. -/
def Slot.isMerged (c : Components) (slot : Slot Parameter) : Bool :=
  slot.location? c = some .header ∨ slot.location? c = some .query

/-- A collected parameter has the place that its slot says. -/
theorem Setting.Takes.location?_eq {slot : Slot Parameter} {p : CollectedParameter}
    (h : setting.Takes slot p) : slot.location? setting.components = some p.parameter.location := by
  cases h with
  | referred _ hparameter =>
      simp only [Slot.location?, hparameter, Except.toOption, Option.map_some,
        CollectedParameter.parameter]
  | inPlace => rfl

/-- Parameters for other places can be removed. -/
theorem Setting.Collects.filter (h : setting.Collects location slots ps)
    {keep : Slot Parameter → Bool}
    (hkeep : ∀ slot, slot.location? setting.components = some location → keep slot = true) :
    setting.Collects location (slots.filter keep) ps := by
  induction h with
  | nil => exact .nil
  | @take slot slots p ps hslot hlocation _ ih =>
      have hkept : keep slot = true := hkeep slot (hlocation ▸ hslot.location?_eq)
      rw [List.filter_cons_of_pos hkept]
      exact .take hslot hlocation ih
  | @pass slot slots ps hslot _ ih =>
      -- A parameter that the place passes over may be kept or not.
      by_cases hkept : keep slot = true
      · rw [List.filter_cons_of_pos hkept]
        exact .pass hslot ih
      · rw [List.filter_cons_of_neg hkept]
        exact ih

/-- Without the parameters in paths and cookies the entries are the same. -/
theorem parameterEntries_filter {ds ds' : List DeclaredParameter}
    (hds : (declareParameters setting slots).Yields ds)
    (hds' : (declareParameters setting
      (slots.filter (·.isMerged setting.components))).Yields ds') :
    parameterEntries ds' = parameterEntries ds := by
  have hplace : ∀ location, location = .header ∨ location = .query →
      mergeParameters ds' location = mergeParameters ds location := by
    intro location hlocation
    rcases setting.exists_collects location slots with ⟨ps, hps⟩
    have hkeep : ∀ slot : Slot Parameter, slot.location? setting.components = some location →
        slot.isMerged setting.components = true := by
      intro slot hslot
      rw [Slot.isMerged, hslot, decide_eq_true_eq, Option.some.injEq, Option.some.injEq]
      exact hlocation
    -- The parameters of the place are kept, so both merge what is collected from all of them.
    rw [mergeParameters_eq hps hds, mergeParameters_eq (hps.filter hkeep) hds']
  rw [parameterEntries, parameterEntries, hplace .header (Or.inl rfl), hplace .query (Or.inr rfl)]

end Passing

section Operations

variable {setting : Setting} {item : PathItem} {method : Method} {operation : Operation}

/-- The entries of an operation for its parameters are those of the parameters alone. -/
theorem typeOperation_entry_eq {o : TypedOperation}
    (h : (typeOperation setting item method operation).Yields (some o))
    {ds : List DeclaredParameter}
    (hds : (declareParameters setting (item.parameters ++ operation.parameters)).Yields ds)
    {name : String} (hname : name = "reqHeaders" ∨ name = "query") :
    o.entry? name = (parameterEntries ds).find? (·.name = .field name) := by
  rcases typeOperation_yields h with
    ⟨declared, status, slot, response, request, hdeclared, _, hresponse, hrequest, rfl⟩
  obtain rfl := hdeclared.unique hds
  -- The other entries of an operation have names of their own.
  have hanswers : response.find? (·.name = .field name) = none := by
    refine find?_name_eq_none (responseEntries_names hresponse) ?_
    rcases hname with rfl | rfl <;> decide
  have hrequests : request.find? (·.name = .field name) = none := by
    refine find?_name_eq_none (optionalRequestEntries_names hrequest) ?_
    rcases hname with rfl | rfl <;> decide
  rw [TypedOperation.entry?, List.find?_append, List.find?_append, hanswers, hrequests,
    Option.or_none, Option.or_none]

/-- Merging neither loses nor doubles a parameter. When the parameters of a path and of an
    operation resolve, they can be declared, and the entries for them, here and in the typed
    operation, consist of what is collected for the headers and for the query. No other
    entry comes from them, and the parameters in paths and cookies make no difference. -/
theorem parameters_merged (setting : Setting) (item : PathItem) (operation : Operation)
    (h : ∀ slot ∈ item.parameters ++ operation.parameters, slot.Resolves setting) :
    ∃ declared headers query,
      (declareParameters setting (item.parameters ++ operation.parameters)).Yields declared ∧
      setting.Collects .header (item.parameters ++ operation.parameters) headers ∧
      setting.Collects .query (item.parameters ++ operation.parameters) query ∧
      ParametersMerged headers query
        (fun name => (parameterEntries declared).find? (·.name = .field name)) ∧
      ((parameterEntries declared).map (·.name)).Sublist [.field "reqHeaders", .field "query"] ∧
      (∃ others, (declareParameters setting ((item.parameters ++ operation.parameters).filter
          (·.isMerged setting.components))).Yields others ∧
        parameterEntries others = parameterEntries declared) ∧
      ∀ method o, (typeOperation setting item method operation).Yields (some o) →
        ParametersMerged headers query o.entry? := by
  rcases exists_declareParameters h with ⟨declared, hdeclared⟩
  rcases exists_declareParameters
    (fun slot hslot => h slot (List.mem_of_mem_filter hslot)) with ⟨others, hothers⟩
  rcases setting.exists_collects .header _ with ⟨headers, hheaders⟩
  rcases setting.exists_collects .query _ with ⟨query, hquery⟩
  have hmerged := parametersMerged_find? hheaders hquery hdeclared
  refine ⟨declared, headers, query, hdeclared, hheaders, hquery, hmerged,
    parameterEntries_names declared, ⟨others, hothers, parameterEntries_filter hdeclared hothers⟩,
    fun method o ho => ?_⟩
  have hentryHeaders := typeOperation_entry_eq ho hdeclared (Or.inl rfl)
  have hentryQuery := typeOperation_entry_eq ho hdeclared (Or.inr rfl)
  exact {
    headersMerged := hentryHeaders ▸ hmerged.headersMerged
    headersOptional := hentryHeaders ▸ hmerged.headersOptional
    queryMerged := hentryQuery ▸ hmerged.queryMerged
    queryRequired := hentryQuery ▸ hmerged.queryRequired }

/-- Parameters of all four kinds, some of them elsewhere and one without a type. -/
def searchSetting : Setting where
  options := {}
  components :=
    { parameters := { entries := [
        ("AppId", .inline
          { name := "x-app-id", location := .header, required := some true
            schema := some (.inline { type := some (.single "string") }) }),
        ("Filter", .inline { name := "filter", location := .query })] } }

/-- Parameters that a path shares. -/
def searchItem : PathItem where
  parameters := [
    .inline { name := "page", location := .query
              schema := some (.inline { type := some (.single "integer") }) },
    .reference "#/components/parameters/AppId"]

/-- Parameters of an operation, one of which has no schema. -/
def searchOperation : Operation where
  parameters := [
    .reference "#/components/parameters/Filter",
    .inline { name := "x-trace", location := .header },
    .inline { name := "q", location := .query, required := some true
              schema := some (.inline { type := some (.single "string") }) },
    .inline { name := "session", location := .cookie
              schema := some (.inline { type := some (.single "string") }) }]
  responses := { entries := [("206", .inline {})] }

theorem search_parameters_merged :
    (∀ slot ∈ searchItem.parameters ++ searchOperation.parameters,
        slot.Resolves searchSetting) ∧
      ∃ headers query o,
        (typeOperation searchSetting searchItem .get searchOperation).Yields (some o) ∧
        ParametersMerged headers query o.entry? ∧
        o.entries.map (fun q => (q.name, q.required, q.values.length)) =
          [(.field "reqHeaders", false, 1), (.field "query", true, 2),
            (.field "status", true, 1)] := by
  have hresolves : ∀ slot ∈ searchItem.parameters ++ searchOperation.parameters,
      slot.Resolves searchSetting := by
    simp only [searchItem, searchOperation, List.cons_append, List.nil_append, List.mem_cons,
      List.not_mem_nil, or_false, forall_eq_or_imp, forall_eq]
    exact ⟨fun _ hschema => Option.mem_some.mp hschema ▸ ⟨_, rfl⟩, ⟨_, rfl⟩, ⟨_, rfl⟩, nofun,
      fun _ hschema => Option.mem_some.mp hschema ▸ ⟨_, rfl⟩,
      fun _ hschema => Option.mem_some.mp hschema ▸ ⟨_, rfl⟩⟩
  have ho : (typeOperation searchSetting searchItem .get searchOperation).Yields (some _) := rfl
  rcases parameters_merged searchSetting searchItem searchOperation hresolves with
    ⟨_, headers, query, _, _, _, _, _, _, hoperation⟩
  exact ⟨hresolves, headers, query, _, ho, hoperation .get _ ho, rfl⟩

end Operations

end RouteTypes
