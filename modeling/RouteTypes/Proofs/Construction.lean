import RouteTypes.Proofs.SchemaChildren
import RouteTypes.Proofs.Syntax.Word
import RouteTypes.Typing.Document

/-!
# The Trees That Typing Builds

What every node of a typed document looks like, wherever it stands.

Typing never builds an enumeration without literals, a combination without members or
a property without a value, and a property with several values is a wrapper of request
parameters, whose values are references and plain objects. A reference is built only
from the text of a reference that leads to an entry of the components.

These facts are about single nodes, so they are stated as one condition on a node
(`Setting.Built`) and proved for all nodes at once, here for those of schemas: the node
of a schema is well shaped by itself (`typeSchema_wellShaped`), and the nodes below it
are types of the slots that were visited.

## Main definitions

* `Shape.WellShaped`, `Property.WellShaped`: The shapes and properties that are built.
* `TypeNode.WellFormed`: All nodes of a tree are well shaped.
* `Setting.Built`: A node is well shaped, and named by the document if a reference.

## Theorems

* `typeSchema_wellShaped`: The node of a typed schema is well shaped.
* `typeSchema_built`, `typeSlot_built`: Typing a schema or a slot builds all nodes so.
-/

namespace RouteTypes

/-- A value of a merged wrapper: a reference, or an object that `null` is no value of. -/
def TypeNode.isWrapper : TypeNode → Bool
  | ⟨false, _, .reference _⟩ => true
  | ⟨false, _, .object _⟩ => true
  | _ => false

/-- A property has one value, or several that are wrappers. -/
def Property.WellShaped (q : Property) : Prop :=
  q.values.length = 1 ∨ q.values ≠ [] ∧ ∀ v ∈ q.values, v.isWrapper = true

/-- Enumerations and combinations have members, literals are quoted or words, and the
    properties of an object are well shaped. -/
def Shape.WellShaped : Shape → Prop
  | .literals members => members ≠ [] ∧ ∀ m ∈ members, m.Plain
  | .combined _ members => members ≠ []
  | .object properties => ∀ q ∈ properties, q.WellShaped
  | .primitive _ | .binary _ | .array _ | .reference _ | .status _ | .format _ => True

/-- All nodes of the tree are well shaped. -/
def TypeNode.WellFormed (n : TypeNode) : Prop :=
  ∀ m ∈ n.nodes, m.shape.WellShaped

/-- Some reference of a document is typed as this one. -/
def Setting.Names (setting : Setting) (r : TypeRef) : Prop :=
  ∃ pointer, (setting.typeRef pointer).Yields r

/-- The node is well shaped, and a reference of the document if it is one. -/
def Setting.Built (setting : Setting) (n : TypeNode) : Prop :=
  n.shape.WellShaped ∧ ∀ r, n.shape = .reference r → setting.Names r

/-- All nodes of the tree are built so. -/
def Setting.BuiltTree (setting : Setting) (n : TypeNode) : Prop :=
  ∀ m ∈ n.nodes, setting.Built m

/-- The property is well shaped, and all nodes in its values are built so. -/
def Setting.BuiltProperty (setting : Setting) (q : Property) : Prop :=
  q.WellShaped ∧ ∀ v ∈ q.values, setting.BuiltTree v

namespace Setting

variable {setting : Setting}

/-- A tree is built when its root is and its children are. -/
theorem builtTree_iff (n : TypeNode) :
    setting.BuiltTree n ↔ setting.Built n ∧ ∀ c ∈ n.shape.children, setting.BuiltTree c :=
  n.forall_mem_nodes

theorem builtProperty_field {name : String} {required : Bool} {description : Option String}
    {v : TypeNode} (h : setting.BuiltTree v) :
    setting.BuiltProperty (.field name required description v) :=
  ⟨Or.inl rfl, fun _ hw => List.mem_singleton.mp hw ▸ h⟩

/-- A shape without children that is no reference is built when it is well shaped. -/
theorem builtTree_of_leaf {n : TypeNode} (hw : n.shape.WellShaped)
    (hc : n.shape.children = []) (hr : n.shape.isReference = false) : setting.BuiltTree n := by
  refine (builtTree_iff n).mpr ⟨⟨hw, fun r h => ?_⟩, fun c h => ?_⟩
  · rw [h] at hr
    exact absurd hr (by simp only [Shape.isReference, Bool.true_eq_false, not_false_eq_true])
  · rw [hc] at h
    exact absurd h List.not_mem_nil

/-- A node for a reference of the document is built. -/
theorem builtTree_reference {n : TypeNode} {r : TypeRef} (hn : n.shape = .reference r)
    (h : setting.Names r) : setting.BuiltTree n := by
  refine (builtTree_iff n).mpr ⟨⟨?_, fun r' h' => ?_⟩, fun c hc => ?_⟩
  · rw [hn]
    trivial
  · rw [hn] at h'
    exact Shape.reference.inj h' ▸ h
  · rw [hn] at hc
    exact absurd hc List.not_mem_nil

/-- An object of built properties is built. -/
theorem builtTree_object {n : TypeNode} {qs : List Property} (hn : n.shape = .object qs)
    (h : ∀ q ∈ qs, setting.BuiltProperty q) : setting.BuiltTree n := by
  refine (builtTree_iff n).mpr ⟨⟨?_, fun r hr => ?_⟩, fun c hc => ?_⟩
  · rw [hn]
    exact fun q hq => (h q hq).1
  · rw [hn] at hr
    exact absurd hr (by simp only [reduceCtorEq, not_false_eq_true])
  · rw [hn] at hc
    rcases List.mem_flatMap.mp hc with ⟨q, hq, hv⟩
    exact (h q hq).2 c hv

end Setting

section Schemas

variable {setting : Setting} {direction : Direction}

/-- The node of a typed schema is well shaped, whatever stands below it. -/
theorem typeSchema_wellShaped {s : Schema} {n : TypeNode}
    (h : (typeSchema setting direction s).Yields (some n)) : n.shape.WellShaped := by
  rcases typeSchema_becomes h with ⟨shape, hshape, rfl⟩
  change shape.WellShaped
  -- The shapes that hold literals, members or properties have them for a reason given here.
  cases hshape with
  | combined _ _ hne => exact hne
  | literals _ _ hne =>
      refine ⟨fun hnil => hne (List.map_eq_nil_iff.mp hnil), fun m hm => ?_⟩
      rcases List.mem_map.mp hm with ⟨e, _, rfl⟩
      exact Schema.literal_plain _ e
  | object _ _ _ _ hown hfurther =>
      -- A property of a schema has one value; only merged parameters have several.
      intro q hq
      rcases List.mem_append.mp hq with hq | hq
      · rcases exists_of_mem_typedOwn hown hq with ⟨v, hvalues, _⟩
        exact Or.inl (by rw [hvalues]; rfl)
      · rcases exists_of_mem_typedFurther hfurther hq with ⟨v, hvalues, _⟩
        exact Or.inl (by rw [hvalues]; rfl)
  | array | binary | primitive => trivial

/-- A slot is built when an inline schema is, since a reference names a type. -/
theorem slot_built_of {slot : Slot Schema}
    (hinline : ∀ s, Slot.inline s = slot → ∀ n,
      (typeSchema setting direction s).Yields (some n) → setting.BuiltTree n)
    {n : TypeNode} (h : (typeSlot setting direction slot).Yields (some n)) :
    setting.BuiltTree n := by
  cases slot with
  | reference pointer =>
      simp only [typeSlot, Logged.yields_bind, Logged.yields_pure, Option.some.injEq] at h
      rcases h with ⟨target, htarget, rfl⟩
      exact Setting.builtTree_reference rfl ⟨pointer, htarget⟩
  | inline s => exact hinline s rfl n h

/-- Typing an inline schema builds all nodes as they should be. -/
theorem typeSchema_built (s : Schema) : ∀ n,
    (typeSchema setting direction s).Yields (some n) → setting.BuiltTree n := by
  induction s using Schema.inductionOn with
  | step s ih =>
      intro n hn
      rcases typeSchema_children hn with ⟨hshape, hchildren⟩
      refine (Setting.builtTree_iff n).mpr
        ⟨⟨typeSchema_wellShaped hn, fun r hr => ?_⟩, fun child hchild => ?_⟩
      -- A typed schema is no reference itself, so nothing is asked of its name.
      · rw [hr] at hshape
        exact absurd hshape (by simp only [Shape.isReference, Bool.true_eq_false,
          not_false_eq_true])
      · rcases hchildren child hchild with rfl | ⟨slot, hslot, hyields⟩
        · exact Setting.builtTree_of_leaf trivial rfl rfl
        · exact slot_built_of
            (fun t ht => ih t (ht ▸ Schema.mem_slots_of_mem_visited hslot)) hyields

/-- Typing a slot builds all nodes as they should be. -/
theorem typeSlot_built {slot : Slot Schema} {n : TypeNode}
    (h : (typeSlot setting direction slot).Yields (some n)) : setting.BuiltTree n :=
  slot_built_of (fun s _ => typeSchema_built s) h

end Schemas

end RouteTypes
