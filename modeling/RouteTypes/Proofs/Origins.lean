import RouteTypes.Proofs.DocumentNeeds

/-!
# The Origins of References

Where the references of a typed document come from.

The needs of a document say which of its references are looked at. Here it is shown that
nothing else gets into the output: every reference there is the type of one that was
needed by name. The argument goes along the functions that build the trees. The
children of a typed schema are the types of slots that were visited, so its references
are theirs; what is put around the types of schemas holds no references of its own,
except where a place holds one.

## Main definitions

* `Setting.Comes`: A reference is the type of one that is needed by name.
* `Setting.ComesFrom`: All references in a tree are.

## Theorems

* `typeSchema_comesFrom`: The references of a typed schema come from its needs.
* `typeSlot_comesFrom`, `typeEntryAt_comesFrom`: The references of a slot and of an entry.
* `typeOperation_comesFrom`: Those of an operation.
* `toApi_comesFrom`: All references of a document come from its needs.
-/

namespace RouteTypes

namespace Setting

variable {setting : Setting} {needs more : Set Need} {n : TypeNode}

/-- The reference is the type of one that is needed by name. -/
def Comes (setting : Setting) (needs : Set Need) (r : TypeRef) : Prop :=
  ∃ registry reference, .name registry reference ∈ needs ∧ (setting.typeRef reference).Yields r

/-- All references in the tree come from these needs. -/
def ComesFrom (setting : Setting) (needs : Set Need) (n : TypeNode) : Prop :=
  ∀ m ∈ n.nodes, ∀ r, m.shape = .reference r → setting.Comes needs r

theorem ComesFrom.mono (h : setting.ComesFrom needs n) (hsub : needs ⊆ more) :
    setting.ComesFrom more n := by
  intro m hm r hr
  rcases h m hm r hr with ⟨registry, reference, hneed, hyields⟩
  exact ⟨registry, reference, hsub hneed, hyields⟩

/-- A reference that is needed by name comes from that need. -/
theorem comesFrom_reference {r : TypeRef} {registry : Registry} {reference : String}
    (hn : n.shape = .reference r) (hm : .name registry reference ∈ needs)
    (h : (setting.typeRef reference).Yields r) : setting.ComesFrom needs n := by
  refine n.forall_mem_nodes.mpr ⟨fun r' hr' => ?_, fun child hchild => ?_⟩
  · obtain rfl := Shape.reference.inj (hn.symm.trans hr')
    exact ⟨registry, reference, hm, h⟩
  · rw [hn] at hchild
    exact absurd hchild List.not_mem_nil

/-- What is no reference itself only holds those of its children. -/
theorem comesFrom_inner (hn : n.shape.isReference = false)
    (h : ∀ child ∈ n.shape.children, setting.ComesFrom needs child) :
    setting.ComesFrom needs n := by
  refine n.forall_mem_nodes.mpr ⟨fun r hr => ?_, h⟩
  rw [hr] at hn
  exact absurd hn (by simp only [Shape.isReference, Bool.true_eq_false, not_false_eq_true])

/-- The references of an object are those in the values of its properties. -/
theorem comesFrom_object {qs : List Property} (hn : n.shape = .object qs)
    (h : ∀ q ∈ qs, ∀ v ∈ q.values, setting.ComesFrom needs v) : setting.ComesFrom needs n := by
  refine comesFrom_inner (by rw [hn]; rfl) fun child hchild => ?_
  rw [hn] at hchild
  rcases List.mem_flatMap.mp hchild with ⟨q, hq, hv⟩
  exact h q hq child hv

/-- A description changes nothing about the references. -/
theorem ComesFrom.describe (description : Option String) (h : setting.ComesFrom needs n) :
    setting.ComesFrom needs (describe description n) := by
  -- The node itself is another one, but its shape and its children are the same.
  cases description with
  | none => exact h
  | some text => exact TypeNode.forall_mem_nodes _ |>.mpr (n.forall_mem_nodes.mp h)

end Setting

section Schemas

variable {setting : Setting} {direction : Direction}

/-- The references in the type of a slot come from the slot, if those of a schema do. -/
theorem slot_comesFrom_of {slot : Slot Schema}
    (hinline : ∀ s, Slot.inline s = slot → ∀ n,
      (typeSchema setting direction s).Yields (some n) → setting.ComesFrom s.needs n)
    {n : TypeNode} (h : (typeSlot setting direction slot).Yields (some n)) :
    setting.ComesFrom slot.needs n := by
  cases slot with
  | reference reference =>
      simp only [typeSlot, Logged.yields_bind, Logged.yields_pure, Option.some.injEq] at h
      rcases h with ⟨target, htarget, rfl⟩
      rw [Slot.needs_reference]
      exact Setting.comesFrom_reference rfl (Set.mem_singleton _) htarget
  | inline s =>
      rw [Slot.needs_inline]
      exact hinline s rfl n h

/-- The references in the type of a schema come from the needs of the schema. -/
theorem typeSchema_comesFrom (s : Schema) : ∀ n,
    (typeSchema setting direction s).Yields (some n) → setting.ComesFrom s.needs n := by
  induction s using Schema.inductionOn with
  | step s ih =>
      intro n hn
      rcases typeSchema_children hn with ⟨hshape, hchildren⟩
      refine Setting.comesFrom_inner hshape fun child hchild => ?_
      -- A child stands for any value, or it is typed from a slot that the schema needs.
      rcases hchildren child hchild with rfl | ⟨slot, hslot, hyields⟩
      · exact Setting.comesFrom_inner rfl fun _ hc => absurd hc List.not_mem_nil
      · have hfrom : setting.ComesFrom slot.needs child :=
          slot_comesFrom_of (fun t ht => ih t (ht ▸ Schema.mem_slots_of_mem_visited hslot)) hyields
        exact hfrom.mono fun m hm => ⟨slot, hslot, hm⟩

theorem typeSlot_comesFrom {slot : Slot Schema} {n : TypeNode}
    (h : (typeSlot setting direction slot).Yields (some n)) : setting.ComesFrom slot.needs n :=
  slot_comesFrom_of (fun s _ => typeSchema_comesFrom s) h

end Schemas

section Values

variable {setting : Setting} {direction : Direction} {n : TypeNode}

/-- A slot that may be missing needs what it needs when it is there. -/
theorem typeOptional_comesFrom {slot : Option (Slot Schema)}
    (h : (typeOptional setting direction slot).Yields (some n)) :
    setting.ComesFrom (optionalNeeds slot) n := by
  cases slot with
  | none =>
      rw [typeOptional, Logged.yields_pure] at h
      exact absurd h (by simp only [reduceCtorEq, not_false_eq_true])
  | some slot => exact (typeSlot_comesFrom h).mono fun m hm => ⟨slot, rfl, hm⟩

/-- A value that is only described differently has the references of the value. -/
theorem described_comesFrom {x : Typing (Option TypeNode)} {needs : Set Need}
    {description : Option String} (hx : ∀ v, x.Yields (some v) → setting.ComesFrom needs v)
    (h : (x >>= fun value => pure (value.map (describe description))).Yields (some n)) :
    setting.ComesFrom needs n := by
  simp only [Logged.yields_bind, Logged.yields_pure] at h
  rcases h with ⟨value, hvalue, hmap⟩
  rcases Option.map_eq_some_iff.mp hmap with ⟨v, rfl, rfl⟩
  exact (hx v hvalue).describe description

/-- The object around a parameter adds no reference to those of its schema. -/
theorem typeParameter_comesFrom {p : Parameter} (h : (typeParameter setting p).Yields (some n)) :
    setting.ComesFrom (optionalNeeds p.schema) n := by
  simp only [typeParameter, Logged.yields_bind, Logged.yields_pure] at h
  rcases h with ⟨value, hvalue, hmap⟩
  rcases Option.map_eq_some_iff.mp hmap with ⟨v, rfl, rfl⟩
  refine Setting.comesFrom_object rfl fun q hq w hw => ?_
  obtain rfl := List.mem_singleton.mp hq
  obtain rfl := List.mem_singleton.mp hw
  exact typeOptional_comesFrom hvalue

/-- The references in the type of an entry come from the needs of its registry. -/
theorem typeKey_comesFrom {α : Type} {registry : Registry} {needs : α → Set Need}
    {inline : α → Typing (Option TypeNode)}
    (hinline : ∀ a m, (inline a).Yields (some m) → setting.ComesFrom (needs a) m)
    {entries : OrderedMap String (Slot α)} {key : String}
    (h : (typeKey setting inline entries key).Yields (some n)) :
    setting.ComesFrom (entriesNeeds registry needs entries) n := by
  unfold typeKey at h
  cases hget : entries.get? key with
  | none =>
      rw [hget] at h
      exact absurd ((Logged.yields_pure _ _).mp h) (by simp only [reduceCtorEq, not_false_eq_true])
  | some slot =>
      rw [hget] at h
      -- What the entry needs its registry needs, and it was found there.
      have hmem : ∀ m ∈ slot.namedNeeds registry needs, m ∈ entriesNeeds registry needs entries :=
        fun m hm => ⟨(key, slot), OrderedMap.mem_of_get? hget, hm⟩
      cases slot with
      | reference r =>
          simp only [typeEntry, Logged.yields_bind, Logged.yields_pure, Option.some.injEq] at h
          rcases h with ⟨target, htarget, rfl⟩
          exact Setting.comesFrom_reference rfl (hmem _ rfl) htarget
      | inline value => exact (hinline value n h).mono hmem

/-- The references in the type of an entry come from the needs of the components. -/
theorem typeEntryAt_comesFrom {registry : Registry} {key : String}
    (h : (setting.typeEntryAt registry key).Yields (some n)) :
    setting.ComesFrom setting.components.needs n := by
  have hentries : setting.ComesFrom (setting.components.registryNeeds registry) n := by
    cases registry with
    | schemas => exact typeKey_comesFrom (fun s => typeSchema_comesFrom s) h
    | parameters => exact typeKey_comesFrom (fun _ _ => typeParameter_comesFrom) h
    | requestBodies =>
        exact typeKey_comesFrom (fun _ _ => described_comesFrom fun _ => typeOptional_comesFrom) h
    | responses =>
        exact typeKey_comesFrom (fun _ _ => described_comesFrom fun _ => typeOptional_comesFrom) h
    | headers =>
        exact typeKey_comesFrom (fun _ _ => described_comesFrom fun _ => typeOptional_comesFrom) h
  exact hentries.mono fun m hm => ⟨registry, hm⟩

end Values

section Operations

variable {setting : Setting} {needs : Set Need}

/-- What a parameter adds to the merged property of its location comes from these
    needs. -/
def DeclaredParameter.ComesFrom (setting : Setting) (needs : Set Need)
    (d : DeclaredParameter) : Prop :=
  (∀ v, d.entry.wrapper? = some v → setting.ComesFrom needs v) ∧
    ∀ q, d.entry.field? = some q → ∀ v ∈ q.values, setting.ComesFrom needs v

/-- A parameter given by reference has its type merged as it is, an inline one its field. -/
theorem declareParameter_comesFrom {slot : Slot Parameter} {d : DeclaredParameter}
    (h : (declareParameter setting slot).Yields (some d)) :
    d.ComesFrom setting (slot.usedNeeds .parameters fun p => optionalNeeds p.schema) := by
  refine declareParameter_holds h ?_ ?_
  · rintro pointer target description rfl htarget
    exact Setting.comesFrom_reference rfl (Or.inr rfl) htarget
  · rintro parameter value rfl hvalue v hv
    obtain rfl := List.mem_singleton.mp hv
    exact typeOptional_comesFrom hvalue

/-- The declared parameters come from the needs of all slots they were declared from. -/
theorem declareParameters_comesFrom {slots : List (Slot Parameter)} {ds : List DeclaredParameter}
    (h : (declareParameters setting slots).Yields ds) :
    ∀ d ∈ ds, d.ComesFrom setting (parametersNeeds slots) := by
  intro d hd
  rcases exists_of_mem_declareParameters h hd with ⟨slot, hslot, hyields⟩
  have hsub : slot.usedNeeds .parameters (fun p => optionalNeeds p.schema)
      ⊆ parametersNeeds slots := fun m hm => ⟨slot, hslot, hm⟩
  rcases declareParameter_comesFrom hyields with ⟨hwrapper, hfield⟩
  exact ⟨fun v hv => (hwrapper v hv).mono hsub, fun q hq v hv => (hfield q hq v hv).mono hsub⟩

/-- Merging puts values side by side and fields into one object, and adds no references. -/
theorem mergedValues_comesFrom {here : List DeclaredParameter}
    (h : ∀ d ∈ here, d.ComesFrom setting needs) :
    ∀ v ∈ mergedValues here, setting.ComesFrom needs v := by
  intro v hv
  rcases List.mem_append.mp hv with hv | hv
  · rcases List.mem_filterMap.mp hv with ⟨d, hd, hentry⟩
    exact (h d hd).1 v hentry
  · split at hv
    · exact absurd hv List.not_mem_nil
    · -- One object holds the fields of all inline parameters.
      rw [List.mem_singleton.mp hv]
      refine Setting.comesFrom_object rfl fun q hq => ?_
      rcases List.mem_filterMap.mp hq with ⟨d, hd, hentry⟩
      exact (h d hd).2 q hentry

/-- The values of a merged group are those of the parameters in its location. -/
theorem mergeParameters_values {ds : List DeclaredParameter} {location : Location}
    {group : ParameterGroup} (h : mergeParameters ds location = some group) :
    group.values = mergedValues (ds.filter (·.location = location)) := by
  unfold mergeParameters at h
  dsimp only at h
  split at h
  · exact absurd h (by simp only [reduceCtorEq, not_false_eq_true])
  · obtain rfl := Option.some.inj h
    rfl

/-- Both entries for parameters hold the values of a group. -/
theorem parameterEntries_comesFrom {ds : List DeclaredParameter}
    (h : ∀ d ∈ ds, d.ComesFrom setting needs) :
    ∀ q ∈ parameterEntries ds, ∀ v ∈ q.values, setting.ComesFrom needs v := by
  have hgroup : ∀ location group, mergeParameters ds location = some group →
      ∀ v ∈ group.values, setting.ComesFrom needs v := by
    intro location group hmerged
    rw [mergeParameters_values hmerged]
    exact mergedValues_comesFrom fun d hd => h d (List.mem_of_mem_filter hd)
  intro q hq
  unfold parameterEntries at hq
  rcases List.mem_append.mp hq with hq | hq
  · rcases exists_of_mem_toList_map hq with ⟨group, hmerged, rfl⟩
    exact hgroup .header group hmerged
  · rcases exists_of_mem_toList_map hq with ⟨group, hmerged, rfl⟩
    exact hgroup .query group hmerged

/-- The property of a response header comes from the needs of the header. -/
theorem responseHeader_comesFrom {name : String} {slot : Slot Header} {q : Property}
    (h : (responseHeader setting name slot).Yields (some q)) :
    ∀ v ∈ q.values, setting.ComesFrom
      (slot.namedNeeds .headers fun header => optionalNeeds header.schema) v := by
  intro v hv
  rcases responseHeader_yields h with
    ⟨pointer, target, rfl, htarget, rfl⟩ | ⟨header, value, rfl, hvalue, rfl⟩
  · obtain rfl := List.mem_singleton.mp hv
    exact Setting.comesFrom_reference rfl rfl htarget
  · obtain rfl := List.mem_singleton.mp hv
    exact typeOptional_comesFrom hvalue

/-- The entry for headers is one object with a property for each. -/
theorem headersEntry_comesFrom {response : Response} {qs : List Property}
    (h : (responseHeaders setting response).Yields qs) :
    ∀ q ∈ headersEntry qs, ∀ v ∈ q.values, setting.ComesFrom response.needs v := by
  intro q hq v hv
  unfold headersEntry at hq
  split at hq
  · exact absurd hq List.not_mem_nil
  · obtain rfl := List.mem_singleton.mp hq
    obtain rfl := List.mem_singleton.mp hv
    refine Setting.comesFrom_object rfl fun header hheader w hw => ?_
    rcases exists_of_mem_responseHeaders h hheader with ⟨e, he, hyields⟩
    exact (responseHeader_comesFrom hyields w hw).mono fun m hm => Or.inr ⟨e, he, hm⟩

/-- The entries of a response come from the needs of the response that was found. -/
theorem responseEntries_comesFrom {status : Nat} {slot : Slot Response} {qs : List Property}
    (h : (responseEntries setting status slot).Yields qs) :
    ∀ q ∈ qs, ∀ v ∈ q.values,
      setting.ComesFrom (responseSlotNeeds setting.components slot) v := by
  intro q hq v hv
  rcases exists_of_mem_responseEntries h hq with ⟨response, hresponse, hq⟩
  have hsub : response.needs ⊆ responseSlotNeeds setting.components slot :=
    fun m hm => Or.inr ⟨response, resolveResponse_yields.mp hresponse, hm⟩
  rcases hq with rfl | ⟨value, hvalue, rfl⟩ | ⟨headers, hheaders, hq⟩
  · obtain rfl := List.mem_singleton.mp hv
    exact Setting.comesFrom_inner rfl fun _ hc => absurd hc List.not_mem_nil
  · obtain rfl := List.mem_singleton.mp hv
    exact (typeOptional_comesFrom hvalue).mono fun m hm => hsub (Or.inl hm)
  · exact (headersEntry_comesFrom hheaders q hq v hv).mono hsub

/-- The type of a request body comes from the needs of the slot it stands in. -/
theorem resolveRequestBody_comesFrom {slot : Slot RequestBody} {body : RequestBody}
    {n : TypeNode} (h : (resolveRequestBody setting slot).Yields (body, some n)) :
    setting.ComesFrom (slot.usedNeeds .requestBodies RequestBody.needs) n := by
  rcases resolveRequestBody_yields h with
    ⟨pointer, target, rfl, htarget, rfl⟩ | ⟨rfl, ⟨f, hform, hvalue⟩ | ⟨hform, hvalue⟩⟩
  · exact Setting.comesFrom_reference rfl (Or.inr rfl) htarget
  -- The entry that decides the format also gives the type, if there is one.
  · change setting.ComesFrom body.needs n
    rw [RequestBody.needs, hform]
    exact typeOptional_comesFrom hvalue
  · change setting.ComesFrom body.needs n
    rw [RequestBody.needs, hform]
    exact typeOptional_comesFrom hvalue

/-- So do the entries for a body that may be missing: its format holds no reference. -/
theorem optionalRequestEntries_comesFrom {slot : Option (Slot RequestBody)} {qs : List Property}
    (h : (optionalRequestEntries setting slot).Yields qs) :
    ∀ q ∈ qs, ∀ v ∈ q.values, setting.ComesFrom (optionalBodyNeeds slot) v := by
  intro q hq v hv
  rcases exists_of_mem_optionalRequestEntries h hq with
    ⟨s, body, value, rfl, hbody, ⟨format, rfl⟩ | ⟨n, rfl, rfl⟩⟩
  · obtain rfl := List.mem_singleton.mp hv
    exact Setting.comesFrom_inner rfl fun _ hc => absurd hc List.not_mem_nil
  · obtain rfl := List.mem_singleton.mp hv
    exact (resolveRequestBody_comesFrom hbody).mono fun m hm => ⟨s, rfl, hm⟩

/-- The references in the entries of an operation come from the needs of the operation. -/
theorem typeOperation_comesFrom {item : PathItem} {method : Method} {operation : Operation}
    {o : TypedOperation} (h : (typeOperation setting item method operation).Yields (some o)) :
    ∀ q ∈ o.entries, ∀ v ∈ q.values,
      setting.ComesFrom (operation.needs setting.components item.parameters) v := by
  rcases typeOperation_yields h with
    ⟨declared, status, slot, response, request, hdeclared, hsuccess, hresponse, hrequest, rfl⟩
  intro q hq v hv
  -- Parameters, response and request are the three parts of the entries, in this order.
  rcases List.mem_append.mp hq with hq | hq
  · rcases List.mem_append.mp hq with hq | hq
    · have hentry := parameterEntries_comesFrom (declareParameters_comesFrom hdeclared) q hq v hv
      exact hentry.mono fun m hm => Or.inl hm
    · have hentry := responseEntries_comesFrom hresponse q hq v hv
      exact hentry.mono fun m hm => Or.inr ⟨status, slot, hsuccess, Or.inl hm⟩
  · have hentry := optionalRequestEntries_comesFrom hrequest q hq v hv
    exact hentry.mono fun m hm => Or.inr ⟨status, slot, hsuccess, Or.inr hm⟩

end Operations

/-- Every reference in a typed document is the type of one that the document needs by
    name. -/
theorem toApi_comesFrom {document : Document} {options : Options} {api : Api}
    (h : (document.toApi options).Yields api) :
    ∀ n ∈ api.nodes, ∀ r, n.shape = .reference r →
      (document.setting options).Comes document.needs r := by
  intro n hn r hr
  -- A node stands below a declared type, or below an entry of an operation.
  rcases Api.mem_nodes.mp hn with ⟨t, ht, hn⟩ | ⟨p, hp, o, ho, q, hq, v, hv, hn⟩
  · rcases exists_of_mem_types (toApi_yields h).2.1 ht with ⟨e, _, value, hvalue, rfl⟩
    have hall := (typeEntryAt_comesFrom hvalue).mono fun m (hm : m ∈ document.components.needs) =>
      (Or.inl hm : m ∈ document.needs)
    exact hall n hn r hr
  · rcases typePaths_yields (toApi_yields h).2.2.1 p hp with ⟨path, hpath, hyields⟩
    rcases typePath_yields hyields with ⟨_, _, _, _, _, hoperations⟩
    rcases hoperations o ho with ⟨e, he, hd, hoperation⟩
    have hentry := typeOperation_comesFrom hoperation q hq v hv
    have hall := hentry.mono fun m hm =>
      (Or.inr ⟨path, hpath, Or.inl ⟨e, he, hd, hm⟩⟩ : m ∈ document.needs)
    exact hall n hn r hr

end RouteTypes
