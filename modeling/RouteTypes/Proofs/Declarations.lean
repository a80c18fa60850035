import RouteTypes.Proofs.Construction

/-!
# The Declarations of the Components

What the five registries declare, as one list over their entries.

The registries hold definitions of five kinds, and each is typed by a function of its
own. Here an entry is only a registry and a key: `Setting.typeEntryAt` types whatever
stands there, and `typeComponents_yields` says that the declarations of a document are
those entries that have a type, in the order of the entries. Whether an entry has one is
again a question about the document alone (`Components.hasType`).

All declarations share one namespace. The check of their names passes exactly when no
two entries have one (`checkNames_eq_ok_iff`), so in a typed document a name belongs to
one entry and is declared at most once.

## Main definitions

* `Setting.typeEntryAt`: The type of the entry at a registry and key.
* `Setting.declaration`: The declaration of an entry, if it has a type.
* `Components.hasType`: Whether an entry has a type.

## Theorems

* `OrderedMap.get?_of_mem`: Every entry is found under its key.
* `typeComponents_yields`: The declarations are those of the entries that have a type.
* `exists_of_mem_types`: A declaration is made from the type of an entry.
* `exists_typeComponents`: The components are typed when every entry is.
* `typeEntryAt_isSome`: An entry is declared when it has a type.
* `checkNames_eq_ok_iff`: Names are accepted when they are pairwise distinct.
* `typeRef_yields`: A reference is typed under the name of an entry.
-/

namespace RouteTypes

namespace OrderedMap

variable {κ α : Type} [DecidableEq κ]

/-- An entry is found under its key when no other entry has it. -/
theorem find?_eq_some_of_mem {es : List (κ × α)} (hd : (es.map Prod.fst).Nodup) {k : κ} {v : α}
    (h : (k, v) ∈ es) : find? k es = some v := by
  induction es with
  | nil => exact absurd h List.not_mem_nil
  | cons e es ih =>
      rcases e with ⟨k', v'⟩
      rw [List.map_cons, List.nodup_cons] at hd
      unfold find?
      rcases List.mem_cons.mp h with heq | h
      · rw [Prod.mk.injEq] at heq
        rw [if_pos heq.1.symm, heq.2]
      · -- The key occurs further back, so it cannot be the one in front.
        have hne : k' ≠ k := fun hk => hd.1 (List.mem_map.mpr ⟨(k, v), h, hk.symm⟩)
        rw [if_neg hne]
        exact ih hd.2 h

/-- What is found under a key is an entry. -/
theorem mem_of_find?_eq_some {es : List (κ × α)} {k : κ} {v : α} (h : find? k es = some v) :
    (k, v) ∈ es := by
  induction es with
  | nil => exact absurd h (by simp only [find?, reduceCtorEq, not_false_eq_true])
  | cons e es ih =>
      rcases e with ⟨k', v'⟩
      unfold find? at h
      by_cases hk : k' = k
      · rw [if_pos hk, Option.some.injEq] at h
        rw [hk, h]
        exact List.mem_cons_self
      · rw [if_neg hk] at h
        exact List.mem_cons_of_mem _ (ih h)

/-- Every entry is found under its key, because no key occurs twice. -/
theorem get?_of_mem {m : OrderedMap κ α} {k : κ} {v : α} (h : (k, v) ∈ m.entries) :
    m.get? k = some v :=
  find?_eq_some_of_mem m.nodup h

theorem mem_of_get? {m : OrderedMap κ α} {k : κ} {v : α} (h : m.get? k = some v) :
    (k, v) ∈ m.entries :=
  mem_of_find?_eq_some h

/-- A map contains the keys of its entries. -/
theorem contains_iff {m : OrderedMap κ α} {k : κ} : m.contains k = true ↔ k ∈ m.keys := by
  unfold contains keys
  rw [Option.isSome_iff_exists, List.mem_map]
  constructor
  · rintro ⟨v, hv⟩
    exact ⟨(k, v), mem_of_get? hv, rfl⟩
  · rintro ⟨⟨k', v⟩, hv, rfl⟩
    exact ⟨v, get?_of_mem hv⟩

end OrderedMap

namespace Components

theorem contains_iff (c : Components) (registry : Registry) (key : String) :
    c.contains registry key = true ↔ key ∈ c.keys registry := by
  cases registry <;> exact OrderedMap.contains_iff

/-- The entries of all registries are listed, and nothing else. -/
theorem mem_entryKeys (c : Components) (e : Registry × String) :
    e ∈ c.entryKeys ↔ e.2 ∈ c.keys e.1 := by
  rcases e with ⟨registry, key⟩
  unfold entryKeys
  rw [List.mem_flatMap]
  constructor
  · rintro ⟨registry', _, h⟩
    rcases List.mem_map.mp h with ⟨key', hkey, heq⟩
    rw [Prod.mk.injEq] at heq
    rw [← heq.1, ← heq.2]
    exact hkey
  · intro h
    refine ⟨registry, ?_, List.mem_map.mpr ⟨key, h, rfl⟩⟩
    cases registry <;> decide

end Components

/-- The type of the entry under a key, if there is an entry. -/
def typeKey {α : Type} (setting : Setting) (inline : α → Typing (Option TypeNode))
    (entries : OrderedMap String (Slot α)) (key : String) : Typing (Option TypeNode) :=
  match entries.get? key with
  | some slot => typeEntry setting inline slot
  | none => pure none

/-- The type of the entry at a registry and key, if there is an entry. -/
def Setting.typeEntryAt (setting : Setting) :
    Registry → String → Typing (Option TypeNode)
  | .schemas => typeKey setting (typeSchema setting .request) setting.components.schemas
  | .parameters => typeKey setting (typeParameter setting) setting.components.parameters
  | .requestBodies => typeKey setting (typeBody setting) setting.components.requestBodies
  | .responses => typeKey setting (typeResponse setting) setting.components.responses
  | .headers => typeKey setting (typeHeader setting) setting.components.headers

/-- The name an entry is declared under. -/
def entryName (e : Registry × String) : String :=
  Text.typeName e.2

/-- The declaration of an entry by its type. -/
def declarationOf (registry : Registry) (key : String) (value : TypeNode) : NamedType :=
  { name := Text.typeName key, registry, key, description := value.description, value }

/-- What a computation ends with, if it ends with a value. -/
def Logged.value? {ω ε α : Type} (x : Logged ω ε α) : Option α :=
  x.outcome.toOption

theorem Logged.Yields.value? {ω ε α : Type} {x : Logged ω ε α} {a : α} (h : x.Yields a) :
    x.value? = some a := by
  rw [Logged.value?, h]
  rfl

/-- A computation with a value yields it. -/
theorem Logged.yields_of_value? {ω ε α : Type} {x : Logged ω ε α} {a : α}
    (h : x.value? = some a) : x.Yields a := by
  unfold Logged.value? at h
  unfold Logged.Yields
  cases houtcome : x.outcome with
  | error e =>
      rw [houtcome] at h
      exact absurd h (by simp only [Except.toOption, reduceCtorEq, not_false_eq_true])
  | ok b =>
      rw [houtcome] at h
      exact congrArg Except.ok (Option.some.inj h)

/-- The declaration of an entry, if it has a type. -/
def Setting.declaration (setting : Setting) (e : Registry × String) : Option NamedType :=
  (setting.typeEntryAt e.1 e.2).value?.join.map (declarationOf e.1 e.2)

/-- An entry is declared by the type that it has, if it has one. -/
theorem Setting.declaration_of_yields {setting : Setting} {e : Registry × String}
    {value : Option TypeNode} (h : (setting.typeEntryAt e.1 e.2).Yields value) :
    setting.declaration e = value.map (declarationOf e.1 e.2) := by
  rw [Setting.declaration, h.value?, Option.join_some]

/-- An entry is declared by its type. Leaving it out is reported, but is no error. -/
theorem declare_yields (registry : Registry) (key : String) (value : Option TypeNode) :
    (declare registry key value).Yields (value.map (declarationOf registry key)) := by
  cases value <;> rfl

/-- The declarations of a registry are those of its entries that have a type. -/
theorem typeRegistry_yields {α : Type} {setting : Setting} {registry : Registry}
    {inline : α → Typing (Option TypeNode)} {entries : OrderedMap String (Slot α)}
    {types : List NamedType} (h : (typeRegistry setting registry inline entries).Yields types) :
    types = entries.keys.filterMap fun key =>
      (typeKey setting inline entries key).value?.join.map (declarationOf registry key) := by
  simp only [typeRegistry, Logged.yields_bind, Logged.yields_pure] at h
  rcases h with ⟨results, hresults, rfl⟩
  unfold OrderedMap.keys
  rw [List.filterMap_map]
  refine Logged.yields_mapM_filterMap hresults _ ?_
  intro e he t ht
  -- The step was made for the entry, which is also what its key leads to.
  rcases (Logged.yields_bind _ _ _).mp ht with ⟨value, hvalue, hdeclare⟩
  rw [hdeclare.unique (declare_yields _ _ value), Function.comp_apply, typeKey,
    OrderedMap.get?_of_mem he]
  dsimp only
  rw [hvalue.value?]
  rfl

/-- The declarations of a document are those of its entries that have a type, in the
    order of the entries. -/
theorem typeComponents_yields {setting : Setting} {types : List NamedType}
    (h : (typeComponents setting).Yields types) :
    types = setting.components.entryKeys.filterMap setting.declaration := by
  simp only [typeComponents, Logged.yields_bind, Logged.yields_pure] at h
  rcases h with ⟨schemas, hs, parameters, hp, bodies, hb, responses, hr, headers, hh, rfl⟩
  -- One registry after the other, and their lists are put together in the same order.
  rw [typeRegistry_yields hs, typeRegistry_yields hp, typeRegistry_yields hb,
    typeRegistry_yields hr, typeRegistry_yields hh]
  simp only [Components.entryKeys, Registry.all, List.flatMap_cons, List.flatMap_nil,
    List.append_nil, List.filterMap_append, List.filterMap_map, List.append_assoc]
  rfl

/-- A declaration is made from the type of an entry. -/
theorem exists_of_mem_types {setting : Setting} {types : List NamedType}
    (h : (typeComponents setting).Yields types) {t : NamedType} (ht : t ∈ types) :
    ∃ e ∈ setting.components.entryKeys, ∃ value,
      (setting.typeEntryAt e.1 e.2).Yields (some value) ∧ t = declarationOf e.1 e.2 value := by
  rw [typeComponents_yields h] at ht
  rcases List.mem_filterMap.mp ht with ⟨e, he, hdeclaration⟩
  rcases Option.map_eq_some_iff.mp hdeclaration with ⟨value, hvalue, rfl⟩
  exact ⟨e, he, value, Logged.yields_of_value? (Option.join_eq_some_iff.mp hvalue), rfl⟩

theorem Setting.declaration_entry {setting : Setting} {e : Registry × String} {t : NamedType}
    (h : setting.declaration e = some t) : (t.registry, t.key) = e ∧ t.name = entryName e := by
  rcases Option.map_eq_some_iff.mp h with ⟨value, _, rfl⟩
  exact ⟨rfl, rfl⟩

/-- Declarations stand in the order of their entries. -/
theorem Setting.declarations_sublist (setting : Setting) (entries : List (Registry × String)) :
    ((entries.filterMap setting.declaration).map fun t => (t.registry, t.key)).Sublist
      entries := by
  -- The induction is on the entries: each gives one declaration or none.
  induction entries with
  | nil => exact List.Sublist.slnil
  | cons e entries ih =>
      cases ht : setting.declaration e with
      | none =>
          rw [List.filterMap_cons_none ht]
          exact ih.cons e
      | some t =>
          rw [List.filterMap_cons_some ht, List.map_cons, (Setting.declaration_entry ht).1]
          exact ih.cons_cons e

/-- In a registry that is typed every key has an entry that was typed. -/
theorem typeKey_yields_of {α : Type} {setting : Setting} {registry : Registry}
    {inline : α → Typing (Option TypeNode)} {entries : OrderedMap String (Slot α)}
    {types : List NamedType} (h : (typeRegistry setting registry inline entries).Yields types)
    {key : String} (hkey : key ∈ entries.keys) :
    ∃ value, (typeKey setting inline entries key).Yields value := by
  simp only [typeRegistry, Logged.yields_bind, Logged.yields_pure] at h
  rcases h with ⟨results, hresults, _⟩
  -- A key stands in an entry, and every entry was gone through.
  rcases List.mem_map.mp hkey with ⟨e, he, rfl⟩
  rcases Logged.exists_of_mem hresults he with ⟨t, _, ht⟩
  rcases (Logged.yields_bind _ _ _).mp ht with ⟨value, hvalue, _⟩
  refine ⟨value, ?_⟩
  rw [typeKey, OrderedMap.get?_of_mem he]
  exact hvalue

/-- In a typed document every entry was typed. -/
theorem typeEntryAt_yields_of {setting : Setting} {types : List NamedType}
    (h : (typeComponents setting).Yields types) {e : Registry × String}
    (he : e ∈ setting.components.entryKeys) :
    ∃ value, (setting.typeEntryAt e.1 e.2).Yields value := by
  simp only [typeComponents, Logged.yields_bind, Logged.yields_pure] at h
  rcases h with ⟨schemas, hs, parameters, hp, bodies, hb, responses, hr, headers, hh, _⟩
  rw [Components.mem_entryKeys] at he
  rcases e with ⟨registry, key⟩
  cases registry with
  | schemas => exact typeKey_yields_of hs he
  | parameters => exact typeKey_yields_of hp he
  | requestBodies => exact typeKey_yields_of hb he
  | responses => exact typeKey_yields_of hr he
  | headers => exact typeKey_yields_of hh he

/-- A registry is typed when each of its keys is: declaring never fails. -/
theorem exists_typeRegistry {α : Type} {setting : Setting} (registry : Registry)
    {inline : α → Typing (Option TypeNode)} {entries : OrderedMap String (Slot α)}
    (h : ∀ key ∈ entries.keys, ∃ value, (typeKey setting inline entries key).Yields value) :
    ∃ types, (typeRegistry setting registry inline entries).Yields types := by
  have hsteps : ∀ e ∈ entries.entries, ∃ t, (do
      let value ← typeEntry setting inline e.2
      declare registry e.1 value : Typing (Option NamedType)).Yields t := by
    intro e he
    rcases h e.1 (List.mem_map_of_mem he) with ⟨value, hvalue⟩
    rw [typeKey, OrderedMap.get?_of_mem he] at hvalue
    exact ⟨_, (Logged.yields_bind _ _ _).mpr ⟨value, hvalue, declare_yields registry e.1 value⟩⟩
  rcases Logged.exists_yields_mapM hsteps with ⟨results, hresults⟩
  exact ⟨_, (Logged.yields_bind _ _ _).mpr ⟨results, hresults, rfl⟩⟩

/-- The components are typed when every entry is. -/
theorem exists_typeComponents {setting : Setting}
    (h : ∀ e ∈ setting.components.entryKeys, ∃ value, (setting.typeEntryAt e.1 e.2).Yields value) :
    ∃ types, (typeComponents setting).Yields types := by
  have hkeys : ∀ registry, ∀ key ∈ setting.components.keys registry,
      ∃ value, (setting.typeEntryAt registry key).Yields value := fun registry key hkey =>
    h (registry, key) ((Components.mem_entryKeys _ _).mpr hkey)
  rcases exists_typeRegistry .schemas (hkeys .schemas) with ⟨schemas, hs⟩
  rcases exists_typeRegistry .parameters (hkeys .parameters) with ⟨parameters, hp⟩
  rcases exists_typeRegistry .requestBodies (hkeys .requestBodies) with ⟨bodies, hb⟩
  rcases exists_typeRegistry .responses (hkeys .responses) with ⟨responses, hr⟩
  rcases exists_typeRegistry .headers (hkeys .headers) with ⟨headers, hh⟩
  simp only [typeComponents, Logged.yields_bind]
  exact ⟨_, schemas, hs, parameters, hp, bodies, hb, responses, hr, headers, hh, rfl⟩

/-- Whether an entry declares a type: a reference always does, a definition by a test
    of its own. -/
def Slot.declares {α : Type} (inline : α → Bool) : Slot α → Bool
  | .reference _ => true
  | .inline value => inline value

/-- Whether the schema of a media type entry has a type. -/
def MediaType.hasType (media : MediaType) : Bool :=
  media.schema.any Slot.hasType

/-- Whether a body has a type: that of the entry chosen for it. -/
def Content.hasType (content : Content) : Bool :=
  content.chosen.any MediaType.hasType

/-- Whether the entry at a registry and key has a type. -/
def Components.hasType (c : Components) : Registry → String → Bool
  | .schemas, key => (c.schemas.get? key).any (·.declares Schema.hasType)
  | .parameters, key => (c.parameters.get? key).any (·.declares (·.schema.any Slot.hasType))
  | .requestBodies, key => (c.requestBodies.get? key).any (·.declares (·.content.hasType))
  | .responses, key => (c.responses.get? key).any (·.declares (·.content.hasType))
  | .headers, key => (c.headers.get? key).any (·.declares (·.schema.any Slot.hasType))

section Entries

variable {setting : Setting} {direction : Direction} {v : Option TypeNode}

/-- A schema that may be missing has a type when it is there and has one. -/
theorem typeOptional_isSome {slot : Option (Slot Schema)}
    (h : (typeOptional setting direction slot).Yields v) :
    v.isSome = slot.any Slot.hasType := by
  cases slot with
  | none =>
      rw [typeOptional, Logged.yields_pure] at h
      rw [← h]
      rfl
  | some slot => exact typeSlot_isSome h

theorem typeContent_isSome {content : Content}
    (h : (typeContent setting direction content).Yields v) : v.isSome = content.hasType := by
  rw [typeOptional_isSome h, Content.hasType]
  cases content.chosen with
  | none => rfl
  | some media => rfl

theorem typeParameter_isSome {p : Parameter} (h : (typeParameter setting p).Yields v) :
    v.isSome = p.schema.any Slot.hasType := by
  simp only [typeParameter, Logged.yields_bind, Logged.yields_pure] at h
  rcases h with ⟨value, hvalue, rfl⟩
  rw [Option.isSome_map, typeOptional_isSome hvalue]

theorem typeBody_isSome {b : RequestBody} (h : (typeBody setting b).Yields v) :
    v.isSome = b.content.hasType := by
  simp only [typeBody, Logged.yields_bind, Logged.yields_pure] at h
  rcases h with ⟨value, hvalue, rfl⟩
  rw [Option.isSome_map, typeContent_isSome hvalue]

theorem typeResponse_isSome {r : Response} (h : (typeResponse setting r).Yields v) :
    v.isSome = r.content.hasType := by
  simp only [typeResponse, Logged.yields_bind, Logged.yields_pure] at h
  rcases h with ⟨value, hvalue, rfl⟩
  rw [Option.isSome_map, typeContent_isSome hvalue]

theorem typeHeader_isSome {r : Header} (h : (typeHeader setting r).Yields v) :
    v.isSome = r.schema.any Slot.hasType := by
  simp only [typeHeader, Logged.yields_bind, Logged.yields_pure] at h
  rcases h with ⟨value, hvalue, rfl⟩
  rw [Option.isSome_map, typeOptional_isSome hvalue]

/-- An entry under a key is declared as its slot says, when the definitions are. -/
theorem typeKey_isSome {α : Type} {inline : α → Typing (Option TypeNode)} {test : α → Bool}
    (hinline : ∀ a v, (inline a).Yields v → v.isSome = test a)
    {entries : OrderedMap String (Slot α)} {key : String}
    (h : (typeKey setting inline entries key).Yields v) :
    v.isSome = (entries.get? key).any (·.declares test) := by
  unfold typeKey at h
  cases hget : entries.get? key with
  | none =>
      rw [hget] at h
      rw [← (Logged.yields_pure _ _).mp h]
      rfl
  | some slot =>
      rw [hget] at h
      cases slot with
      | reference pointer =>
          -- A reference is named and never left out.
          simp only [typeEntry, Logged.yields_bind, Logged.yields_pure] at h
          rcases h with ⟨target, _, rfl⟩
          rfl
      | inline value => exact hinline value v h

/-- An entry is declared when the document gives it a type. -/
theorem typeEntryAt_isSome {registry : Registry} {key : String}
    (h : (setting.typeEntryAt registry key).Yields v) :
    v.isSome = setting.components.hasType registry key := by
  cases registry with
  | schemas => exact typeKey_isSome (fun s => typeSchema_isSome s) h
  | parameters => exact typeKey_isSome (fun _ _ => typeParameter_isSome) h
  | requestBodies => exact typeKey_isSome (fun _ _ => typeBody_isSome) h
  | responses => exact typeKey_isSome (fun _ _ => typeResponse_isSome) h
  | headers => exact typeKey_isSome (fun _ _ => typeHeader_isSome) h

end Entries

section Names

/-- Names are accepted after some others when they are pairwise distinct and distinct
    from those. -/
theorem checkNamesFrom_eq_ok_iff (seen rest : List (Registry × String)) :
    checkNamesFrom seen rest = .ok () ↔
      (rest.map entryName).Nodup ∧ ∀ e ∈ rest, ∀ s ∈ seen, entryName s ≠ entryName e := by
  induction rest generalizing seen with
  | nil =>
      simp only [checkNamesFrom, List.map_nil, List.nodup_nil, List.not_mem_nil, false_implies,
        implies_true, and_self]
  | cons e rest ih =>
      rcases e with ⟨registry, key⟩
      unfold checkNamesFrom
      dsimp only
      cases hfind : seen.find? fun s => Text.typeName s.2 = Text.typeName key with
      | some s =>
          -- An earlier entry has the name, so the second part fails at the first entry.
          have hname := List.find?_some hfind
          rw [decide_eq_true_eq] at hname
          simp only [reduceCtorEq, false_iff, not_and]
          intro _ h
          exact h (registry, key) List.mem_cons_self s (List.mem_of_find?_eq_some hfind) hname
      -- The name is new. It is distinct from the later ones exactly when it is not met again.
      | none =>
          have hnew : ∀ s ∈ seen, entryName s ≠ entryName (registry, key) := by
            intro s hs
            have := List.find?_eq_none.mp hfind s hs
            rwa [decide_eq_true_eq] at this
          dsimp only
          rw [ih, List.map_cons, List.nodup_cons]
          constructor
          · rintro ⟨hd, hr⟩
            refine ⟨⟨fun hm => ?_, hd⟩, fun e he s hs => ?_⟩
            · rcases List.mem_map.mp hm with ⟨e, he, heq⟩
              exact hr e he (registry, key) (List.mem_append_right _ List.mem_cons_self) heq.symm
            · rcases List.mem_cons.mp he with rfl | he
              · exact hnew s hs
              · exact hr e he s (List.mem_append_left _ hs)
          · rintro ⟨⟨hfirst, hd⟩, hr⟩
            refine ⟨hd, fun e he s hs => ?_⟩
            rcases List.mem_append.mp hs with hs | hs
            · exact hr e (List.mem_cons_of_mem _ he) s hs
            · rw [List.mem_singleton.mp hs]
              exact fun heq => hfirst (heq ▸ List.mem_map_of_mem he)

/-- The names of the components are accepted when they are pairwise distinct. -/
theorem checkNames_eq_ok_iff (c : Components) :
    checkNames c = .ok () ↔ (c.entryKeys.map entryName).Nodup := by
  unfold checkNames
  rw [checkNamesFrom_eq_ok_iff]
  simp only [List.not_mem_nil, false_implies, implies_true, and_true]

/-- A reference is typed under the name of an entry that exists. -/
theorem typeRef_yields {setting : Setting} {pointer : String} {r : TypeRef}
    (h : (setting.typeRef pointer).Yields r) :
    (∃ e ∈ setting.components.entryKeys, entryName e = r.name) ∧
      r.space = setting.options.space := by
  simp only [Setting.typeRef, Logged.yields_ofExcept, Components.typeRef] at h
  -- A text that is no pointer names nothing, nor does one to an entry that is not there.
  split at h
  · exact absurd h (by simp only [reduceCtorEq, not_false_eq_true])
  · next p _ =>
      split at h
      · next hcontains =>
          rw [Except.ok.injEq] at h
          refine ⟨⟨(p.registry, p.key), ?_, h ▸ rfl⟩, h ▸ rfl⟩
          rw [Components.mem_entryKeys]
          exact (Components.contains_iff _ _ _).mp hcontains
      · exact absurd h (by simp only [reduceCtorEq, not_false_eq_true])

end Names

end RouteTypes
