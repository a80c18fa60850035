import RouteTypes.Proofs.EntryForms

/-!
# The Trees of a Document

What is true of the trees of a schema carries over to everything a document is typed
into: its declarations, and the entries of its operations.

Both are put together from the types of slots in a few forms, so there is one argument
for each form, and then the facts are collected over all nodes of the document.

## Theorems

* `Setting.Declares.built`, `Setting.IsEntry.built`: The forms are built as they should be.
* `toApi_built`, `toApi_wellFormed`: So are all nodes of a document.
-/

namespace RouteTypes

section Forms

variable {setting : Setting} {n : TypeNode} {q : Property}

theorem Setting.Types.built (h : setting.Types n) : setting.BuiltTree n := by
  rcases h with ⟨direction, slot, v, description, hv, rfl⟩
  -- The node itself is another one, but its shape and its children are the same.
  exact (builtTree_iff _).mpr ((builtTree_iff v).mp (typeSlot_built hv))

theorem Setting.TypesField.built (h : setting.TypesField q) : setting.BuiltProperty q := by
  rcases h with ⟨name, required, description, v, rfl, hv⟩
  exact builtProperty_field hv.built

/-- What an entry of the components is declared as is built as it should be. -/
theorem Setting.Declares.built (h : setting.Declares n) : setting.BuiltTree n := by
  cases h with
  | value h => exact h.built
  | parameter h => exact builtTree_object rfl fun q hq => List.mem_singleton.mp hq ▸ h.built

/-- Merged values are wrappers: the declared ones, and one object for all fields. -/
theorem Setting.merged_built {wrappers : List TypeNode} {fields : List Property}
    (hwrappers : ∀ v ∈ wrappers, setting.IsWrapper v)
    (hfields : ∀ q ∈ fields, setting.TypesField q) :
    ∀ v ∈ wrappers ++ fieldsObject fields, v.isWrapper = true ∧ setting.BuiltTree v := by
  intro v hv
  rcases List.mem_append.mp hv with hv | hv
  · have hwrapper := hwrappers v hv
    refine ⟨?_, hwrapper.types.built⟩
    rcases hwrapper with ⟨pointer, target, description, _, rfl⟩
    rfl
  · rw [(mem_fieldsObject hv).2]
    exact ⟨rfl, builtTree_object rfl fun q hq => (hfields q hq).built⟩

/-- An entry of an operation is built as it should be. -/
theorem Setting.IsEntry.built (h : setting.IsEntry q) : setting.BuiltProperty q := by
  cases h with
  | merged _ hwrappers hfields hne =>
      have hvalues := merged_built hwrappers hfields
      exact ⟨Or.inr ⟨hne, fun v hv => (hvalues v hv).1⟩, fun v hv => (hvalues v hv).2⟩
  -- The status and the encoding have no children.
  | status | format => exact builtProperty_field (builtTree_of_leaf trivial rfl rfl)
  | responseBody h | requestBody h => exact builtProperty_field h.built
  | responseHeaders hfields =>
      exact builtProperty_field (builtTree_object rfl fun q hq => (hfields q hq).built)

end Forms

section Documents

variable {document : Document} {options : Options} {api : Api}

/-- The trees at all nodes of a typed document are built as they should be. -/
theorem toApi_built (h : (document.toApi options).Yields api) :
    ∀ n ∈ api.nodes, (document.setting options).BuiltTree n := by
  intro n hn
  rcases Api.mem_nodes.mp hn with ⟨t, ht, hn⟩ | ⟨p, hp, o, ho, q, hq, v, hv, hn⟩
  -- The nodes of a document are those of its declarations and of the entries of its operations.
  · exact fun m hm => (toApi_declares h t ht).built m (TypeNode.mem_nodes_trans hn hm)
  · have hbuilt := (toApi_isEntry h p hp o ho q hq).built.2 v hv
    exact fun m hm => hbuilt m (TypeNode.mem_nodes_trans hn hm)

/-- So they are well formed. -/
theorem toApi_wellFormed (h : (document.toApi options).Yields api) :
    ∀ n ∈ api.nodes, n.WellFormed :=
  fun n hn m hm => (toApi_built h n hn m hm).1

end Documents

end RouteTypes
