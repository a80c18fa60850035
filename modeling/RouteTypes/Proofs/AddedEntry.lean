import RouteTypes.Proofs.Enlargement
import RouteTypes.Proofs.References

/-!
# Adding an Entry to the Components

What one more entry changes in the output, which is nothing but its own declaration.

An entry with a new key can be put anywhere in its registry. When its name is new too, no
two names collide in the larger document, and everything that was typed is typed as before:
the other entries because their references still lead to the same, the paths for the same
reason. What remains is where the new declaration stands. The entries of the larger
document are those of the smaller one with the new one in a certain place, so they fall
into the ones before that place and the ones after it, and the declarations fall into two
parts accordingly.

The new entry may refer to any other or to itself. It is only assumed that it can be typed
itself, with or without a type as the result.

## Main definitions

* `OrderedMap.insertAt`: The map with a new entry in some place.
* `Components.add`, `Document.add`: The components and the document with a new entry.

## Theorems

* `Components.within_add`: The earlier entries are still there.
* `Components.entryKeys_add`: The new entry stands in one place among the earlier ones.
* `declarations_added`: So does its declaration among the earlier ones.
* `toApi_add`: The declaration of the new entry is all that is added.
-/

namespace RouteTypes

namespace OrderedMap

variable {κ α : Type}

/-- The keys are still distinct with a new one between them. -/
theorem nodup_insertAt {m : OrderedMap κ α} (place : Nat) {k : κ} (v : α) (h : k ∉ m.keys) :
    ((m.entries.take place ++ (k, v) :: m.entries.drop place).map Prod.fst).Nodup := by
  have hperm : (m.entries.take place ++ (k, v) :: m.entries.drop place).Perm
      ((k, v) :: m.entries) := by
    refine List.perm_middle.trans (List.Perm.cons _ (List.Perm.of_eq ?_))
    exact List.take_append_drop place m.entries
  rw [(hperm.map Prod.fst).nodup_iff, List.map_cons, List.nodup_cons]
  exact ⟨h, m.nodup⟩

/-- The map with an entry under a new key that stands behind the given number of others. -/
def insertAt (m : OrderedMap κ α) (place : Nat) (k : κ) (v : α) (h : k ∉ m.keys) :
    OrderedMap κ α where
  entries := m.entries.take place ++ (k, v) :: m.entries.drop place
  nodup := nodup_insertAt place v h

/-- The new key stands behind as many others as its entry does. -/
theorem keys_insertAt (m : OrderedMap κ α) (place : Nat) (k : κ) (v : α) (h : k ∉ m.keys) :
    (m.insertAt place k v h).keys = m.keys.take place ++ k :: m.keys.drop place := by
  simp only [keys, insertAt, List.map_append, List.map_cons, List.map_take, List.map_drop]

/-- Every earlier entry stands on one of the two sides of the new one. -/
theorem within_insertAt [DecidableEq κ] (m : OrderedMap κ α) (place : Nat) (k : κ) (v : α)
    (h : k ∉ m.keys) : m.Within (m.insertAt place k v h) := by
  intro k' v' hget
  have hmem := mem_of_get? hget
  rw [← List.take_append_drop place m.entries, List.mem_append] at hmem
  refine get?_of_mem (List.mem_append.mpr ?_)
  exact hmem.imp_right (List.mem_cons_of_mem _)

end OrderedMap

/-- Every registry stands in one place of the order in which entries are declared. -/
theorem Registry.exists_split (registry : Registry) :
    ∃ before after, all = before ++ registry :: after ∧ registry ∉ before ∧ registry ∉ after := by
  have hmem : registry ∈ all := by cases registry <;> decide
  have hd : all.Nodup := by decide
  rcases List.append_of_mem hmem with ⟨before, after, hsplit⟩
  rw [hsplit, List.nodup_middle, List.nodup_cons, List.mem_append, not_or] at hd
  exact ⟨before, after, hsplit, hd.1⟩

namespace Components

/-- The components with an entry under a new key, behind the given number of other entries
    of its registry. -/
def add (c : Components) (place : Nat) (key : String) :
    (registry : Registry) → Slot registry.Definition → key ∉ c.keys registry → Components
  | .schemas, slot, h => { c with schemas := c.schemas.insertAt place key slot h }
  | .parameters, slot, h => { c with parameters := c.parameters.insertAt place key slot h }
  | .requestBodies, slot, h =>
    { c with requestBodies := c.requestBodies.insertAt place key slot h }
  | .responses, slot, h => { c with responses := c.responses.insertAt place key slot h }
  | .headers, slot, h => { c with headers := c.headers.insertAt place key slot h }

variable (c : Components) (place : Nat) (key : String) (registry : Registry)
  (slot : Slot registry.Definition) (h : key ∉ c.keys registry)

theorem keys_add : (c.add place key registry slot h).keys registry
    = (c.keys registry).take place ++ key :: (c.keys registry).drop place := by
  cases registry <;> exact OrderedMap.keys_insertAt _ place key slot h

theorem keys_add_of_ne {registry' : Registry} (hne : registry' ≠ registry) :
    (c.add place key registry slot h).keys registry' = c.keys registry' := by
  cases registry <;> cases registry' <;> first | rfl | exact absurd rfl hne

/-- The earlier entries are still there. -/
theorem within_add : c.Within (c.add place key registry slot h) := by
  cases registry with
  | schemas =>
      exact ⟨c.schemas.within_insertAt place key slot h, .refl _, .refl _, .refl _, .refl _⟩
  | parameters =>
      exact ⟨.refl _, c.parameters.within_insertAt place key slot h, .refl _, .refl _, .refl _⟩
  | requestBodies =>
      exact ⟨.refl _, .refl _, c.requestBodies.within_insertAt place key slot h, .refl _, .refl _⟩
  | responses =>
      exact ⟨.refl _, .refl _, .refl _, c.responses.within_insertAt place key slot h, .refl _⟩
  | headers =>
      exact ⟨.refl _, .refl _, .refl _, .refl _, c.headers.within_insertAt place key slot h⟩

/-- The new entry stands in one place among the earlier ones. -/
theorem entryKeys_add : ∃ earlier later, c.entryKeys = earlier ++ later ∧
    (c.add place key registry slot h).entryKeys = earlier ++ (registry, key) :: later := by
  rcases registry.exists_split with ⟨before, after, hall, hbefore, hafter⟩
  -- Only the registry with the new entry has other keys than before.
  have hkept : ∀ registries : List Registry, registry ∉ registries →
      (registries.flatMap fun r => ((c.add place key registry slot h).keys r).map (r, ·))
        = registries.flatMap fun r => (c.keys r).map (r, ·) := fun registries hr =>
    List.flatMap_congr fun r hmem => by
      rw [c.keys_add_of_ne place key registry slot h fun heq => hr (heq ▸ hmem)]
  refine ⟨(before.flatMap fun r => (c.keys r).map (r, ·))
      ++ ((c.keys registry).take place).map (registry, ·),
    ((c.keys registry).drop place).map (registry, ·)
      ++ after.flatMap fun r => (c.keys r).map (r, ·), ?_, ?_⟩
  · simp only [entryKeys, hall, List.flatMap_append, List.flatMap_cons, List.append_assoc]
    rw [← List.append_assoc (List.map _ (List.take _ _)), ← List.map_append,
      List.take_append_drop]
  · simp only [entryKeys, hall, List.flatMap_append, List.flatMap_cons, hkept before hbefore,
      hkept after hafter, keys_add, List.map_append, List.map_cons, List.append_assoc,
      List.cons_append]

end Components

/-- The document with an entry under a new key of a registry. -/
def Document.add (document : Document) (place : Nat) (key : String) (registry : Registry)
    (slot : Slot registry.Definition) (h : key ∉ document.components.keys registry) : Document :=
  { document with components := document.components.add place key registry slot h }

/-- A document is typed when its names are distinct, and its entries and paths are typed. -/
theorem toApi_yields_of {document : Document} {options : Options}
    (hnames : (document.components.entryKeys.map entryName).Nodup)
    (hentries : ∀ e ∈ document.components.entryKeys,
      ∃ value, ((document.setting options).typeEntryAt e.1 e.2).Yields value)
    {paths : List TypedPath}
    (hpaths : (typePaths (document.setting options) document.paths).Yields paths) :
    (document.toApi options).Yields {
      baseUrl := document.baseUrl
      space := options.space
      types := document.components.entryKeys.filterMap (document.setting options).declaration
      paths } := by
  have hcomponents : ∃ types, (typeComponents (document.setting options)).Yields types :=
    exists_typeComponents hentries
  rcases hcomponents with ⟨types, htypes⟩
  have hdeclarations := typeComponents_yields htypes
  simp only [Document.toApi, Logged.yields_bind, Logged.yields_ofExcept, Logged.yields_pure,
    Logged.yields_report, true_and, exists_const]
  exact ⟨(), (checkNames_eq_ok_iff _).mpr hnames, types, htypes, paths, hpaths,
    by rw [hdeclarations]; rfl⟩

section Documents

variable {document : Document} {options : Options} {api : Api} (place : Nat) {key : String}
  {registry : Registry} (slot : Slot registry.Definition)
  (hkey : key ∉ document.components.keys registry)

/-- An earlier entry is typed as before. -/
theorem typeEntryAt_add (h : (document.toApi options).Yields api) {e : Registry × String}
    (he : e ∈ document.components.entryKeys) :
    ∃ v, ((document.setting options).typeEntryAt e.1 e.2).Yields v ∧
      (((document.add place key registry slot hkey).setting options).typeEntryAt e.1 e.2).Yields
        v := by
  -- The old value is found by the old document and carried over to the new one.
  rcases typeEntryAt_yields_of (toApi_yields h).2.1 he with ⟨v, hv⟩
  have hw := document.components.within_add place key registry slot hkey
  exact ⟨v, hv, typeEntryAt_within hw ((Components.mem_entryKeys _ _).mp he) hv⟩

/-- The earlier entries are declared as before. -/
theorem declarations_add (h : (document.toApi options).Yields api)
    {entries : List (Registry × String)}
    (hentries : ∀ e ∈ entries, e ∈ document.components.entryKeys) :
    entries.filterMap ((document.add place key registry slot hkey).setting options).declaration
      = entries.filterMap (document.setting options).declaration := by
  refine List.filterMap_congr fun e he => ?_
  rcases typeEntryAt_add place slot hkey h (hentries e he) with ⟨v, hv, hv'⟩
  rw [Setting.declaration_of_yields hv, Setting.declaration_of_yields hv']

/-- The names are still distinct when the new one is none of them. -/
theorem names_add (h : (document.toApi options).Yields api)
    (hname : ∀ e ∈ document.components.entryKeys, entryName e ≠ Text.typeName key) :
    ((document.add place key registry slot hkey).components.entryKeys.map entryName).Nodup := by
  have hnames := (checkNames_eq_ok_iff _).mp (toApi_yields h).1
  rcases document.components.entryKeys_add place key registry slot hkey with
    ⟨earlier, later, hold, hnew⟩
  -- The new entry is moved to the front, where its name is compared with all others.
  have hperm : (document.components.add place key registry slot hkey).entryKeys.Perm
      ((registry, key) :: document.components.entryKeys) := by
    rw [hnew, hold]
    exact List.perm_middle
  refine (hperm.map entryName).nodup_iff.mpr (List.nodup_cons.mpr ⟨fun hc => ?_, hnames⟩)
  rcases List.mem_map.mp hc with ⟨e, he, heq⟩
  exact hname e he heq

/-- Every entry can be typed when the new one can. -/
theorem entries_add (h : (document.toApi options).Yields api) {value : Option TypeNode}
    (hvalue : (((document.add place key registry slot hkey).setting options).typeEntryAt
      registry key).Yields value) {e : Registry × String}
    (he : e ∈ (document.add place key registry slot hkey).components.entryKeys) :
    ∃ v, (((document.add place key registry slot hkey).setting options).typeEntryAt
      e.1 e.2).Yields v := by
  rcases document.components.entryKeys_add place key registry slot hkey with
    ⟨earlier, later, hold, hnew⟩
  change e ∈ (document.components.add place key registry slot hkey).entryKeys at he
  rw [hnew, List.mem_append, List.mem_cons, or_left_comm, ← List.mem_append, ← hold] at he
  -- The entry is the new one, or it stands on one side of it and was there before.
  rcases he with rfl | he
  · exact ⟨value, hvalue⟩
  · rcases typeEntryAt_add place slot hkey h he with ⟨v, _, hv⟩
    exact ⟨v, hv⟩

/-- The new declaration stands between those of the entries before and after the new one. -/
theorem declarations_added (h : (document.toApi options).Yields api) {value : Option TypeNode}
    (hvalue : (((document.add place key registry slot hkey).setting options).typeEntryAt
      registry key).Yields value) {earlier later : List (Registry × String)}
    (hold : document.components.entryKeys = earlier ++ later) :
    (earlier ++ (registry, key) :: later).filterMap
        ((document.add place key registry slot hkey).setting options).declaration
      = earlier.filterMap (document.setting options).declaration
        ++ (value.map (declarationOf registry key)).toList
        ++ later.filterMap (document.setting options).declaration := by
  have hdeclaration := Setting.declaration_of_yields (e := (registry, key)) hvalue
  rw [List.filterMap_append, ← List.singleton_append, List.filterMap_append,
    declarations_add place slot hkey h fun e he => hold ▸ List.mem_append_left later he,
    declarations_add place slot hkey h fun e he => hold ▸ List.mem_append_right earlier he,
    ← List.append_assoc]
  -- What is left is the declaration in the middle, which the new entry may not have.
  congr 2
  cases hv : value.map (declarationOf registry key) with
  | none => exact List.filterMap_cons_none (hdeclaration.trans hv)
  | some t => exact List.filterMap_cons_some (hdeclaration.trans hv)

/-- A document that is typed is also typed with one more entry, if the name of the entry is
    new and the entry can be typed. The paths are the same, and so are the declarations,
    up to that of the new entry in the place where the entry stands. -/
theorem toApi_add (h : (document.toApi options).Yields api)
    (hname : ∀ e ∈ document.components.entryKeys, entryName e ≠ Text.typeName key)
    {value : Option TypeNode}
    (hvalue : (((document.add place key registry slot hkey).setting options).typeEntryAt
      registry key).Yields value) :
    ∃ before after earlier later,
      api.types = before ++ after ∧
      ((document.add place key registry slot hkey).toApi options).Yields
        { api with
          types := before ++ (value.map (declarationOf registry key)).toList ++ after } ∧
      document.components.entryKeys = earlier ++ later ∧
      (document.add place key registry slot hkey).components.entryKeys
        = earlier ++ (registry, key) :: later ∧
      (before.map fun t => (t.registry, t.key)).Sublist earlier ∧
      (after.map fun t => (t.registry, t.key)).Sublist later := by
  rcases toApi_yields h with ⟨_, htypes, hpaths, hbase, hspace⟩
  rcases document.components.entryKeys_add place key registry slot hkey with
    ⟨earlier, later, hold, hnew⟩
  refine ⟨earlier.filterMap (document.setting options).declaration,
    later.filterMap (document.setting options).declaration, earlier, later, ?_, ?_, hold, hnew,
    Setting.declarations_sublist _ _, Setting.declarations_sublist _ _⟩
  -- The old declarations are split where the new entry stands.
  · rw [typeComponents_yields htypes]
    exact (congrArg _ hold).trans List.filterMap_append
  -- The new document is typed from its parts: names, entries and paths.
  have htyped := toApi_yields_of (names_add place slot hkey h hname)
    (fun e he => entries_add place slot hkey h hvalue he)
    (typePaths_within (document.components.within_add place key registry slot hkey) hpaths)
  rw [show (document.add place key registry slot hkey).components.entryKeys = _ from hnew,
    declarations_added place slot hkey h hvalue hold] at htyped
  have hbase' : (document.add place key registry slot hkey).baseUrl = api.baseUrl := hbase.symm
  rw [hbase', ← hspace] at htyped
  exact htyped

/-- A search for pets by their names. -/
def petSearch : Operation where
  parameters := [.inline {
    name := "name", location := .query, schema := some (.reference "#/components/schemas/Pet") }]
  responses := { entries := [("200", .inline { description := some "the pets found" })] }

/-- A document in which a schema, a header and an operation refer to schemas. -/
def enlargedDocument : Document where
  paths := { entries := [("/pets", { operations := { entries := [(.get, petSearch)] } })] }
  components :=
    { schemas := { entries := [("Pet", .inline { type := some (.single "string") }),
        ("Cat", .reference "#/components/schemas/Pet")] }
      headers := { entries := [("Limit", .reference "#/components/schemas/Cat")] } }

theorem key_enlarged : "Self" ∉ enlargedDocument.components.keys .schemas := by
  decide

/-- The new schema is another name for itself. -/
theorem toApi_add_self : ∃ api before after t, (enlargedDocument.toApi {}).Yields api ∧
    api.types = before ++ after ∧
    ((enlargedDocument.add 1 "Self" .schemas (.reference "#/components/schemas/Self")
      key_enlarged).toApi {}).Yields { api with types := before ++ [t] ++ after } ∧
    t.name = "Self" ∧
    (before ++ [t] ++ after).map (·.name) = ["Pet", "Self", "Cat", "Limit"] := by
  have h : (enlargedDocument.toApi {}).Yields _ := rfl
  have hvalue : (((enlargedDocument.add 1 "Self" .schemas
      (.reference "#/components/schemas/Self") key_enlarged).setting {}).typeEntryAt .schemas
      "Self").Yields _ := rfl
  have h' : ((enlargedDocument.add 1 "Self" .schemas (.reference "#/components/schemas/Self")
      key_enlarged).toApi {}).Yields _ := rfl
  rcases toApi_add 1 (.reference "#/components/schemas/Self") key_enlarged h (by decide)
    hvalue with ⟨before, after, _, _, htypes, hadded, _⟩
  refine ⟨_, before, after, _, h, htypes, hadded, rfl, ?_⟩
  exact congrArg (fun api => api.types.map (·.name)) (hadded.unique h')

end Documents

end RouteTypes
