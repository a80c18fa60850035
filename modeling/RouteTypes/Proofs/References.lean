import RouteTypes.Proofs.DocumentTrees
import Mathlib.Data.List.Nodup

/-!
# Declared References

Whether a reference in the output names something that the output declares.

A reference is built when its text leads to an entry of the components. The declaration
of that entry is made elsewhere, and is left out when the entry has no type. So a name
that is referred to always belongs to exactly one entry, and is declared once if that
entry has a type and nowhere if it has none (`reference_declared_iff`). An entry that
has no type and is referred to all the same leaves the output with a name that nothing
declares (`untyped_reference_undeclared`).

## Main definitions

* `Api.DeclaresOnce`: A name is declared once, in a module that is written.

## Theorems

* `typeRef_yields`: A reference carries the name of an entry.
* `count_declarations`: How often the name of an entry is declared.
* `reference_declared_iff`: A reference is declared once when its entry has a type.
-/

namespace RouteTypes

/-- The name is that of one declaration, and the module with the declarations is
    written. -/
def Api.DeclaresOnce (api : Api) (name : String) : Prop :=
  (api.types.map (·.name)).count name = 1 ∧
    ∃ m, api.typesModule = some m ∧ ∃ t ∈ m.types, t.name = name

/-- Of entries with pairwise distinct names only one has a given name. -/
theorem entry_unique {entries : List (Registry × String)}
    (hd : (entries.map entryName).Nodup) {e e' : Registry × String} (he : e ∈ entries)
    (he' : e' ∈ entries) (hname : entryName e' = entryName e) : e' = e :=
  List.inj_on_of_nodup_map hd he' he hname

section Documents

variable {document : Document} {options : Options} {api : Api}

/-- The declaration of an entry of a typed document is there when the entry has a
    type. -/
theorem declaration_isSome (h : (document.toApi options).Yields api)
    {e : Registry × String} (he : e ∈ document.components.entryKeys) :
    ((document.setting options).declaration e).isSome
      = document.components.hasType e.1 e.2 := by
  rcases typeEntryAt_yields_of (toApi_yields h).2.1 he with ⟨value, hvalue⟩
  rw [Setting.declaration_of_yields hvalue, Option.isSome_map]
  exact typeEntryAt_isSome hvalue

/-- The names that are declared stand in the order of the entries. -/
theorem names_sublist (h : (document.toApi options).Yields api) :
    (api.types.map (·.name)).Sublist (document.components.entryKeys.map entryName) := by
  have hsublist := (document.setting options).declarations_sublist document.components.entryKeys
  have htypes : api.types = document.components.entryKeys.filterMap
      (document.setting options).declaration := typeComponents_yields (toApi_yields h).2.1
  -- A declaration takes its name from its entry, whatever the other entries are.
  have hnames : api.types.map (·.name)
      = (api.types.map fun t => (t.registry, t.key)).map entryName := by
    rw [List.map_map]
    refine List.map_congr_left fun t ht => ?_
    rw [htypes] at ht
    rcases List.mem_filterMap.mp ht with ⟨e, _, hdecl⟩
    rw [Function.comp_apply, (Setting.declaration_entry hdecl).1]
    exact (Setting.declaration_entry hdecl).2
  rw [hnames, htypes]
  exact hsublist.map entryName

/-- The name of an entry is declared when the entry has a type. -/
theorem mem_names_iff (h : (document.toApi options).Yields api) {e : Registry × String}
    (he : e ∈ document.components.entryKeys) :
    entryName e ∈ api.types.map (·.name) ↔ document.components.hasType e.1 e.2 = true := by
  have hd := (checkNames_eq_ok_iff _).mp (toApi_yields h).1
  rw [← declaration_isSome h he, typeComponents_yields (toApi_yields h).2.1,
    Option.isSome_iff_exists, List.mem_map]
  constructor
  · rintro ⟨t, ht, hname⟩
    rcases List.mem_filterMap.mp ht with ⟨e', he', hdecl⟩
    -- The declaration belongs to an entry with the same name, so to this one.
    rw [(Setting.declaration_entry hdecl).2] at hname
    rw [entry_unique hd he he' hname] at hdecl
    exact ⟨_, hdecl⟩
  · rintro ⟨t, ht⟩
    exact ⟨t, List.mem_filterMap.mpr ⟨e, he, ht⟩, (Setting.declaration_entry ht).2⟩

/-- The name of an entry is declared once when the entry has a type, and nowhere when it
    has none. -/
theorem count_declarations (h : (document.toApi options).Yields api)
    {e : Registry × String} (he : e ∈ document.components.entryKeys) :
    (api.types.map (·.name)).count (entryName e)
      = if document.components.hasType e.1 e.2 then 1 else 0 := by
  -- The names of the entries were found to be distinct, so the declared ones are.
  have hd := (checkNames_eq_ok_iff _).mp (toApi_yields h).1
  have hnames := (names_sublist h).nodup hd
  rw [hnames.count]
  exact if_congr (mem_names_iff h he) rfl rfl

/-- The module with the declarations is written when there is one. -/
theorem typesModule_eq_some {t : NamedType} (ht : t ∈ api.types) :
    ∃ m, api.typesModule = some m ∧ m.types = api.types := by
  have hne : ¬ (api.types.isEmpty = true) := fun hc => by
    rw [List.isEmpty_iff.mp hc] at ht
    exact absurd ht List.not_mem_nil
  unfold Api.typesModule
  rw [if_neg hne]
  exact ⟨_, rfl, rfl⟩

/-- The name of an entry is declared once, in a module that is written, when the entry
    has a type. -/
theorem declaresOnce_iff (h : (document.toApi options).Yields api)
    {e : Registry × String} (he : e ∈ document.components.entryKeys) :
    api.DeclaresOnce (entryName e) ↔ document.components.hasType e.1 e.2 = true := by
  unfold Api.DeclaresOnce
  rw [count_declarations h he]
  by_cases ht : document.components.hasType e.1 e.2 = true
  · rw [if_pos ht]
    -- The name is there once, so one of the declarations has it.
    refine ⟨fun _ => ht, fun _ => ⟨rfl, ?_⟩⟩
    rcases List.mem_map.mp ((mem_names_iff h he).mpr ht) with ⟨t, hmem, hname⟩
    rcases typesModule_eq_some hmem with ⟨m, hm, htypes⟩
    exact ⟨m, hm, t, htypes ▸ hmem, hname⟩
  · rw [if_neg ht]
    exact ⟨fun hc => absurd hc.1 Nat.zero_ne_one, fun hc => absurd hc ht⟩

/-- Every reference in a typed document carries the name of exactly one entry of the
    components. It is declared, once and in a module that is written, when that entry
    has a type, and nowhere when it has none. -/
theorem reference_declared_iff (h : (document.toApi options).Yields api) :
    ∀ n ∈ api.nodes, ∀ r, n.shape = .reference r →
      ∃ e ∈ document.components.entryKeys, entryName e = r.name ∧
        (∀ e' ∈ document.components.entryKeys, entryName e' = r.name → e' = e) ∧
        (api.DeclaresOnce r.name ↔ document.components.hasType e.1 e.2 = true) ∧
        (document.components.hasType e.1 e.2 = false →
          (api.types.map (·.name)).count r.name = 0) := by
  intro n hn r hr
  rcases (toApi_built h n hn n n.mem_nodes_self).2 r hr with ⟨pointer, hpointer⟩
  rcases (typeRef_yields hpointer).1 with ⟨e, he, hname⟩
  have hd := (checkNames_eq_ok_iff _).mp (toApi_yields h).1
  refine ⟨e, he, hname, fun e' he' hname' => ?_, ?_, fun hnone => ?_⟩
  -- The node was made for a pointer, and that pointer names an entry of the components.
  · exact entry_unique hd he he' (hname'.trans hname.symm)
  · rw [← hname]
    exact declaresOnce_iff h he
  · rw [← hname, count_declarations h he, hnone]
    rfl

end Documents

/-- A document whose schema `Pet` has a type, and a second name for it. -/
def typedReference : Document where
  components :=
    { schemas :=
        { entries := [("Pet", .inline { type := some (.single "string") }),
            ("Animal", .reference "#/components/schemas/Pet")] } }

/-- What that document is typed into. -/
def typedReferenceApi : Api where
  baseUrl := ""
  space := "Types"
  types := [declarationOf .schemas "Pet" { shape := .primitive .string },
    declarationOf .schemas "Animal" (TypeRef.node { space := "Types", name := "Pet" })]
  paths := []

theorem reference_declared_pet :
    (typedReference.toApi {}).Yields typedReferenceApi ∧
      TypeRef.node { space := "Types", name := "Pet" } ∈ typedReferenceApi.nodes ∧
      typedReferenceApi.DeclaresOnce "Pet" := by
  have h : (typedReference.toApi {}).Yields typedReferenceApi := rfl
  have hn : TypeRef.node { space := "Types", name := "Pet" } ∈ typedReferenceApi.nodes :=
    List.mem_append_left _ (List.mem_cons_of_mem _ List.mem_cons_self)
  refine ⟨h, hn, ?_⟩
  rcases reference_declared_iff h _ hn { space := "Types", name := "Pet" } rfl with
    ⟨e, _, _, hunique, hiff, _⟩
  refine hiff.mpr ?_
  rw [← hunique (.schemas, "Pet") (by decide) (by decide)]
  rfl

/-- The same document when the schema says nothing about its values. -/
def untypedReference : Document where
  components :=
    { schemas :=
        { entries := [("Pet", .inline {}), ("Animal", .reference "#/components/schemas/Pet")] } }

/-- What that document is typed into: the second name stays, for nothing. -/
def untypedReferenceApi : Api where
  baseUrl := ""
  space := "Types"
  types := [declarationOf .schemas "Animal" (TypeRef.node { space := "Types", name := "Pet" })]
  paths := []

/-- A reference to a schema without a type names something that is not declared. -/
theorem untyped_reference_undeclared :
    (untypedReference.toApi {}).Yields untypedReferenceApi ∧
      ∃ n ∈ untypedReferenceApi.nodes, ∃ r, n.shape = .reference r ∧
        (untypedReferenceApi.types.map (·.name)).count r.name = 0 := by
  refine ⟨rfl, TypeRef.node { space := "Types", name := "Pet" }, ?_, _, rfl, by decide⟩
  exact List.mem_append_left _ List.mem_cons_self

end RouteTypes
