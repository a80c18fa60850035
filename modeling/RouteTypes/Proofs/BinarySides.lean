import RouteTypes.Proofs.GlobalNames
import RouteTypes.Proofs.ObjectKeys
import RouteTypes.Proofs.Origins

/-!
# The Sides of Binary Content

What is sent never shows up where something is received.

Binary content has a type for each direction: an upload is what a request may carry, a
download what a response brings. A schema says nothing about the direction. It is passed
down from the place that asks for the type, through members, items and properties, to the
format that decides, so a single place that passes on the wrong one would be seen only
when binary content stands somewhere deep below it.

The leaves of a typed slot are known already (`typeSlot_leaf_iff`): binary content there
is that of the direction in which the slot is typed. What is put around slots holds no
binary content of its own, and a reference holds nothing at all. So it is left to follow
the two directions through the functions that build an operation, up to the names of the
entries: each name stands for one side only.

## Main definitions

* `TypeNode.OnSide`: All binary content in a tree travels in one direction.
* `Direction.entryNames`: The entries of an operation on a side.
* `Api.SidesKept`: Uploads stay with requests, downloads with responses.

## Theorems

* `typeOptional_onSide`: A slot is typed on the side that is asked for.
* `typeEntryAt_onSide`: A declaration is on the side of its registry.
* `typeOperation_onSide`: An entry of an operation is on the side of its name.
* `toApi_sidesKept`: A typed document keeps the sides apart.
-/

namespace RouteTypes

/-- All binary content in the tree travels in the direction. -/
def TypeNode.OnSide (direction : Direction) (n : TypeNode) : Prop :=
  ∀ kind, n.Contains (.binary kind) → kind = direction.binary

/-- So does that in the values of the property. -/
def Property.OnSide (direction : Direction) (q : Property) : Prop :=
  ∀ v ∈ q.values, v.OnSide direction

/-- The names of the entries that describe one side of an operation. The status is a
    number and the encoding a word, so they belong to no side. -/
def Direction.entryNames : Direction → List PropertyName
  | .request => [.field "reqHeaders", .field "query", .field "reqBody"]
  | .response => [.field "resBody", .field "resHeaders"]

section Trees

variable {direction : Direction} {n : TypeNode}

/-- A node without children is on any side, unless it is binary content itself. -/
theorem TypeNode.onSide_of_leaf (hchildren : n.shape.children = [])
    (hshape : ∀ kind, n.shape ≠ .binary kind) : n.OnSide direction := by
  intro kind hcontains
  exact absurd hcontains (TypeNode.not_contains hchildren (hshape kind).symm)

/-- A reference holds no binary content, so it is on any side. -/
theorem TypeNode.onSide_reference {r : TypeRef} (h : n.shape = .reference r) :
    n.OnSide direction := by
  refine TypeNode.onSide_of_leaf ?_ fun kind => ?_
  · rw [h]
    rfl
  · rw [h]
    simp only [ne_eq, reduceCtorEq, not_false_eq_true]

/-- An object is on the side that all its properties are on. -/
theorem TypeNode.onSide_object {qs : List Property} (h : ∀ q ∈ qs, q.OnSide direction) :
    TypeNode.OnSide direction { shape := .object qs } := by
  intro kind hcontains
  rcases (TypeNode.contains_iff _).mp hcontains with hroot | ⟨child, hchild, hcontains⟩
  · exact absurd hroot (by simp only [reduceCtorEq, not_false_eq_true])
  · rcases List.mem_flatMap.mp hchild with ⟨q, hq, hv⟩
    exact h q hq child hv kind hcontains

theorem Property.onSide_field {name : String} {required : Bool} {description : Option String}
    (h : n.OnSide direction) : (Property.field name required description n).OnSide direction := by
  intro v hv
  rw [List.mem_singleton.mp hv]
  exact h

end Trees

section Values

variable {setting : Setting} {direction : Direction} {n : TypeNode}

/-- A slot is typed on the side that is asked for, however deep its binary content is. -/
theorem typeOptional_onSide {slot : Option (Slot Schema)}
    (h : (typeOptional setting direction slot).Yields (some n)) : n.OnSide direction := by
  intro kind hcontains
  have hleaf : (Shape.binary kind).IsLeaf := trivial
  -- Binary content in the tree is that of a schema in the slot, which says the direction.
  rcases (typeOptional_leaf_iff hleaf h).mp ⟨n, rfl, hcontains⟩ with ⟨_, _, _, _, hshape⟩
  exact (Schema.leafShape_binary_iff.mp hshape).1.symm

/-- A declaration is on the side of its registry. -/
theorem typeEntryAt_onSide {registry : Registry} {key : String}
    (h : (setting.typeEntryAt registry key).Yields (some n)) : n.OnSide registry.direction := by
  intro kind hcontains
  have hleaf : (Shape.binary kind).IsLeaf := trivial
  rcases (typeEntryAt_leaf_iff hleaf h).mp ⟨n, rfl, hcontains⟩ with ⟨_, _, _, _, hshape⟩
  exact (Schema.leafShape_binary_iff.mp hshape).1.symm

end Values

section Requests

variable {setting : Setting}

/-- What a parameter adds to the merged property of its location is on the side of the
    request. -/
def DeclaredParameter.IsSent (d : DeclaredParameter) : Prop :=
  (∀ v, d.entry.wrapper? = some v → v.OnSide .request) ∧
    ∀ q, d.entry.field? = some q → q.OnSide .request

/-- A parameter is sent, by reference or in place. -/
theorem declareParameter_isSent {slot : Slot Parameter} {d : DeclaredParameter}
    (h : (declareParameter setting slot).Yields (some d)) : d.IsSent := by
  refine declareParameter_holds h (fun pointer target description _ _ => ?_)
    fun parameter value _ hvalue => ?_
  · exact TypeNode.onSide_reference rfl
  · exact Property.onSide_field (typeOptional_onSide hvalue)

/-- So are all parameters of an operation. -/
theorem declareParameters_isSent {slots : List (Slot Parameter)} {ds : List DeclaredParameter}
    (h : (declareParameters setting slots).Yields ds) : ∀ d ∈ ds, d.IsSent := by
  intro d hd
  rcases exists_of_mem_declareParameters h hd with ⟨slot, _, hslot⟩
  exact declareParameter_isSent hslot

/-- Merged parameters are on the side of the request. -/
theorem mergeParameters_onSide {ds : List DeclaredParameter} (h : ∀ d ∈ ds, d.IsSent)
    {location : Location} {group : ParameterGroup}
    (hg : mergeParameters ds location = some group) : ∀ v ∈ group.values, v.OnSide .request := by
  intro v hv
  rw [mergeParameters_values hg] at hv
  rcases List.mem_append.mp hv with hv | hv
  -- The wrappers of parameters given by reference stand as they are.
  · rcases List.mem_filterMap.mp hv with ⟨d, hd, hentry⟩
    exact (h d (List.mem_of_mem_filter hd)).1 v hentry
  · -- The inline parameters are the fields of one object.
    rw [(mem_fieldsObject hv).2]
    refine TypeNode.onSide_object fun q hq => ?_
    rcases List.mem_filterMap.mp hq with ⟨d, hd, hentry⟩
    exact (h d (List.mem_of_mem_filter hd)).2 q hentry

/-- So are the entries that hold them. -/
theorem parameterEntries_onSide {ds : List DeclaredParameter} (h : ∀ d ∈ ds, d.IsSent) :
    ∀ q ∈ parameterEntries ds, q.OnSide .request := by
  intro q hq
  unfold parameterEntries at hq
  rcases List.mem_append.mp hq with hq | hq
  · rcases exists_of_mem_toList_map hq with ⟨group, hgroup, rfl⟩
    exact mergeParameters_onSide h hgroup
  · rcases exists_of_mem_toList_map hq with ⟨group, hgroup, rfl⟩
    exact mergeParameters_onSide h hgroup

/-- The type of a request body is on the side of the request. -/
theorem resolveRequestBody_onSide {slot : Slot RequestBody} {body : RequestBody} {n : TypeNode}
    (h : (resolveRequestBody setting slot).Yields (body, some n)) : n.OnSide .request := by
  rcases resolveRequestBody_yields h with
    ⟨pointer, target, rfl, _, rfl⟩ | ⟨rfl, ⟨f, _, hvalue⟩ | ⟨_, hvalue⟩⟩
  · exact TypeNode.onSide_reference rfl
  -- A form and any other content are typed in the same direction.
  · exact typeOptional_onSide hvalue
  · exact typeOptional_onSide hvalue

/-- So are the entries of a request body, if there is one. -/
theorem optionalRequestEntries_onSide {slot : Option (Slot RequestBody)} {qs : List Property}
    (h : (optionalRequestEntries setting slot).Yields qs) : ∀ q ∈ qs, q.OnSide .request := by
  intro q hq
  rcases exists_of_mem_optionalRequestEntries h hq with
    ⟨s, body, value, rfl, hbody, ⟨format, rfl⟩ | ⟨n, rfl, rfl⟩⟩
  -- The format is a word.
  · refine Property.onSide_field (TypeNode.onSide_of_leaf rfl fun kind => ?_)
    simp only [ne_eq, reduceCtorEq, not_false_eq_true]
  · exact Property.onSide_field (resolveRequestBody_onSide hbody)

end Requests

section Responses

variable {setting : Setting}

/-- A header of a response is on the side of the response. -/
theorem responseHeader_onSide {name : String} {slot : Slot Header} {q : Property}
    (h : (responseHeader setting name slot).Yields (some q)) : q.OnSide .response := by
  rcases responseHeader_yields h with
    ⟨pointer, target, rfl, _, rfl⟩ | ⟨header, value, rfl, hvalue, rfl⟩
  · exact Property.onSide_field (TypeNode.onSide_reference rfl)
  · exact Property.onSide_field (typeOptional_onSide hvalue)

/-- So is the entry that holds all headers. -/
theorem headersEntry_onSide {response : Response} {qs : List Property}
    (h : (responseHeaders setting response).Yields qs) :
    ∀ q ∈ headersEntry qs, q.OnSide .response := by
  intro q hq
  unfold headersEntry at hq
  split at hq
  · exact absurd hq List.not_mem_nil
  · rw [List.mem_singleton.mp hq]
    refine Property.onSide_field (TypeNode.onSide_object fun header hheader => ?_)
    rcases exists_of_mem_responseHeaders h hheader with ⟨e, _, hyields⟩
    exact responseHeader_onSide hyields

/-- So are all entries of a response. -/
theorem responseEntries_onSide {status : Nat} {slot : Slot Response} {qs : List Property}
    (h : (responseEntries setting status slot).Yields qs) : ∀ q ∈ qs, q.OnSide .response := by
  intro q hq
  rcases exists_of_mem_responseEntries h hq with
    ⟨response, _, rfl | ⟨value, hvalue, rfl⟩ | ⟨headers, hheaders, hq⟩⟩
  -- So is the status, which is a word.
  · refine Property.onSide_field (TypeNode.onSide_of_leaf rfl fun kind => ?_)
    simp only [ne_eq, reduceCtorEq, not_false_eq_true]
  · exact Property.onSide_field (typeOptional_onSide hvalue)
  · exact headersEntry_onSide hheaders q hq

end Responses

section Operations

variable {setting : Setting} {direction : Direction}

theorem Direction.eq_request {name : PropertyName} (h : name ∈ direction.entryNames)
    (hno : name ∉ Direction.response.entryNames) : direction = .request := by
  cases direction with
  | request => rfl
  | response => exact absurd h hno

theorem Direction.eq_response {name : PropertyName} (h : name ∈ direction.entryNames)
    (hno : name ∉ Direction.request.entryNames) : direction = .response := by
  cases direction with
  | request => exact absurd h hno
  | response => rfl

/-- An entry of an operation is on the side of its name. -/
theorem typeOperation_onSide {item : PathItem} {method : Method} {operation : Operation}
    {o : TypedOperation} (h : (typeOperation setting item method operation).Yields (some o)) :
    ∀ q ∈ o.entries, q.name ∈ direction.entryNames → q.OnSide direction := by
  rcases typeOperation_yields h with
    ⟨declared, status, slot, response, request, hdeclared, _, hresponse, hrequest, rfl⟩
  -- No name of one side is among those of the other, so a name settles the side.
  have hsent : ∀ name ∈ [PropertyName.field "reqHeaders", .field "query", .field "reqFormat",
      .field "reqBody"], name ∉ Direction.response.entryNames := by decide
  have hreceived : ∀ name ∈ [PropertyName.field "status", .field "resBody",
      .field "resHeaders"], name ∉ Direction.request.entryNames := by decide
  intro q hq hname
  -- Each part of the entries is typed for one side, and has names of that side only.
  rcases List.mem_append.mp hq with hq | hq
  · rcases List.mem_append.mp hq with hq | hq
    · have hfixed := (parameterEntries_names declared).subset (List.mem_map_of_mem hq)
      rw [Direction.eq_request hname (hsent _ (List.mem_append_left _ hfixed))]
      exact parameterEntries_onSide (declareParameters_isSent hdeclared) q hq
    · have hfixed := (responseEntries_names hresponse).subset (List.mem_map_of_mem hq)
      rw [Direction.eq_response hname (hreceived _ hfixed)]
      exact responseEntries_onSide hresponse q hq
  · have hfixed := (optionalRequestEntries_names hrequest).subset (List.mem_map_of_mem hq)
    rw [Direction.eq_request hname
      (hsent _ (List.mem_cons_of_mem _ (List.mem_cons_of_mem _ hfixed)))]
    exact optionalRequestEntries_onSide hrequest q hq

end Operations

section Documents

variable {document : Document} {options : Options} {api : Api}

/-- Every declaration of a typed document is on the side of its registry. -/
theorem toApi_types_onSide (h : (document.toApi options).Yields api) :
    ∀ t ∈ api.types, t.value.OnSide t.registry.direction := by
  intro t ht
  rcases exists_of_mem_types (toApi_yields h).2.1 ht with ⟨e, _, value, hvalue, rfl⟩
  exact typeEntryAt_onSide hvalue

/-- Every entry of an operation is on the side of its name. -/
theorem toApi_entries_onSide (h : (document.toApi options).Yields api) (direction : Direction) :
    ∀ p ∈ api.paths, ∀ o ∈ p.operations, ∀ q ∈ o.entries, q.name ∈ direction.entryNames →
      q.OnSide direction := by
  intro p hp o ho
  rcases typePaths_yields (toApi_yields h).2.2.1 p hp with ⟨e, _, hpath⟩
  rcases typePath_yields hpath with ⟨_, _, _, _, _, hoperations⟩
  rcases hoperations o ho with ⟨entry, _, _, hoperation⟩
  exact typeOperation_onSide hoperation

/-- Uploads stay with what a request is made of and downloads with what a response is
    made of, at any depth. -/
structure Api.SidesKept (api : Api) : Prop where
  /-- No download is declared for a schema, a parameter or a request body. -/
  request_types : ∀ t ∈ api.types,
    t.registry = .schemas ∨ t.registry = .parameters ∨ t.registry = .requestBodies →
      ¬ t.value.Contains (.binary .download)
  /-- No upload is declared for a response or a header. -/
  response_types : ∀ t ∈ api.types, t.registry = .responses ∨ t.registry = .headers →
    ¬ t.value.Contains (.binary .upload)
  /-- No operation is sent a download. -/
  request_entries : ∀ p ∈ api.paths, ∀ o ∈ p.operations, ∀ q ∈ o.entries,
    q.name = .field "reqHeaders" ∨ q.name = .field "query" ∨ q.name = .field "reqBody" →
      ∀ v ∈ q.values, ¬ v.Contains (.binary .download)
  /-- No operation answers with an upload. -/
  response_entries : ∀ p ∈ api.paths, ∀ o ∈ p.operations, ∀ q ∈ o.entries,
    q.name = .field "resBody" ∨ q.name = .field "resHeaders" →
      ∀ v ∈ q.values, ¬ v.Contains (.binary .upload)

/-- A tree on a side holds nothing that travels the other way. -/
theorem TypeNode.OnSide.not_contains {direction : Direction} {n : TypeNode} {kind : BinaryKind}
    (h : n.OnSide direction) (hkind : kind ≠ direction.binary) : ¬ n.Contains (.binary kind) :=
  fun hcontains => hkind (h kind hcontains)

/-- A typed document keeps uploads and downloads on their sides. -/
theorem toApi_sidesKept (h : (document.toApi options).Yields api) : api.SidesKept := by
  have htypes := toApi_types_onSide h
  have hentries := toApi_entries_onSide h
  refine {
    request_types := fun t ht hregistry => ?_
    response_types := fun t ht hregistry => ?_
    request_entries := fun p hp o ho q hq hname v hv => ?_
    response_entries := fun p hp o ho q hq hname v hv => ?_ }
  -- A registry and a name of an entry settle the side, and the side settles the kind.
  · have hside : t.registry.direction = .request := by
      rcases hregistry with h | h | h <;> rw [h] <;> rfl
    exact (hside ▸ htypes t ht).not_contains (by decide)
  · have hside : t.registry.direction = .response := by
      rcases hregistry with h | h <;> rw [h] <;> rfl
    exact (hside ▸ htypes t ht).not_contains (by decide)
  · have hmem : q.name ∈ Direction.request.entryNames := by
      rcases hname with h | h | h <;> rw [h] <;> decide
    exact (hentries .request p hp o ho q hq hmem v hv).not_contains (by decide)
  · have hmem : q.name ∈ Direction.response.entryNames := by
      rcases hname with h | h <;> rw [h] <;> decide
    exact (hentries .response p hp o ho q hq hmem v hv).not_contains (by decide)

/-- An array of binary content. -/
def rawList : Slot Schema :=
  .inline { type := some (.single "array"), items := some (.inline { format := some "binary" }) }

/-- An operation that takes raw data in its query and answers with raw data in a header. -/
def rawOperation : Operation where
  parameters := [.inline { name := "raw", location := .query, schema := rawList }]
  responses :=
    { entries := [("203", .inline
        { headers := { entries := [("X-Raw", .inline { schema := rawList })] } })] }

/-- A document with this operation, and with a shared schema for raw data. -/
def rawDocument : Document where
  paths := { entries := [("/raw", { operations := { entries := [(.put, rawOperation)] } })] }
  components := { schemas := { entries := [("Album", rawList)] } }

/-- In this document both kinds of binary content occur, each on its side. -/
theorem sidesKept_raw :
    ∃ api, (rawDocument.toApi {}).Yields api ∧ api.SidesKept ∧
      (∃ t ∈ api.types, t.registry = .schemas ∧ t.value.Contains (.binary .upload)) ∧
      ∃ p ∈ api.paths, ∃ o ∈ p.operations,
        (∃ q ∈ o.entries, q.name = .field "query" ∧
          ∃ v ∈ q.values, v.Contains (.binary .upload)) ∧
        ∃ q ∈ o.entries, q.name = .field "resHeaders" ∧
          ∃ v ∈ q.values, v.Contains (.binary .download) := by
  have hleaf : ∀ kind, (Shape.binary kind).IsLeaf := fun _ => trivial
  have hlist : ∀ kind, TypeNode.Contains (.binary kind)
      { shape := .array { shape := .binary kind } } := fun kind =>
    (TypeNode.contains_iff _).mpr (Or.inr ⟨_, List.mem_singleton.mpr rfl,
      (TypeNode.contains_iff _).mpr (Or.inl rfl)⟩)
  have h : (rawDocument.toApi {}).Yields _ := rfl
  refine ⟨_, h, toApi_sidesKept h, ⟨_, List.mem_cons_self, rfl, hlist .upload⟩,
    _, List.mem_cons_self, _, List.mem_cons_self, ?_, ?_⟩
  · refine ⟨_, List.mem_cons_self, rfl, _, List.mem_singleton.mpr rfl, ?_⟩
    exact (TypeNode.contains_wrapped (hleaf .upload)).mpr (hlist .upload)
  · -- The entries are the query, the status and the headers.
    refine ⟨_, List.mem_cons_of_mem _ (List.mem_cons_of_mem _ List.mem_cons_self), rfl,
      _, List.mem_singleton.mpr rfl, ?_⟩
    exact (TypeNode.contains_wrapped (hleaf .download)).mpr (hlist .download)

end Documents

end RouteTypes
