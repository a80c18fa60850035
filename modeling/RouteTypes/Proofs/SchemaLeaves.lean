import RouteTypes.Proofs.Occurrence
import RouteTypes.Proofs.SchemaChildren

/-!
# The Leaves of a Typed Schema

Which schemas the nodes without parts come from.

A node for binary content or a built-in type stands for one schema somewhere inside the
slot that was typed, one that holds no others. On the way down only the slots count that
were visited, and every child comes from one of them. Here is the converse: of a visited
slot that has a type nothing is lost, it becomes a child of the node around it
(`typeSchema_visited`). So a leaf of a certain shape stands in a tree exactly when a schema
of this shape stands behind visited slots only (`typeSlot_leaf_iff`).

Two shapes are no such leaves. A reference stands in a slot and not for a schema, and the
type of anything is also given to further keys without a schema.

## Main definitions

* `Schema.leafShape`: The shape of a schema that holds no others.
* `Slot.Holds`: A schema stands in a slot, behind visited slots only.
* `Shape.IsLeaf`: Binary content or a built-in type, except that of anything.

## Theorems

* `typeSchema_visited`: The types of visited slots are children of a typed schema.
* `typeSchema_leaf`: The leaf that a typed schema is itself.
* `typeSlot_leaf_iff`: Which leaves stand in a typed slot.
-/

namespace RouteTypes

/-- The shape of a schema that holds no others and is no enumeration. -/
def Schema.leafShape (keepDates : Bool) (direction : Direction) (s : Schema) : Option Shape :=
  if s.combination.isNone ∧ s.enum = none ∧ s.kind ≠ some .array ∧
      (s.properties.isSome || s.isOpen) = false then
    s.leaf keepDates direction
  else none

/-- The schema stands in the slot, at the top or behind slots that decide about types. -/
inductive Slot.Holds : Slot Schema → Schema → Prop where
  | here (s : Schema) : Holds (.inline s) s
  | inside {s t : Schema} {slot : Slot Schema} (hslot : slot ∈ s.visited) (h : Holds slot t) :
      Holds (.inline s) t

/-- The shape is binary content or a built-in type, but not that of anything. -/
def Shape.IsLeaf : Shape → Prop
  | .primitive p => p ≠ .any
  | .binary _ => True
  | .literals _ | .object _ | .combined _ _ | .array _ | .reference _ | .status _
  | .format _ => False

section Visited

variable {setting : Setting} {direction : Direction}

/-- All members of a combination are typed, and the types they have are all kept. -/
theorem mem_of_typeMembers {slots : List (Slot Schema)} {nodes : List TypeNode}
    (h : (typeMembers setting direction slots).Yields nodes) {slot : Slot Schema}
    (hslot : slot ∈ slots) : ∃ w, (typeSlot setting direction slot).Yields w ∧
      ∀ n ∈ w, n ∈ nodes := by
  induction slots generalizing nodes with
  | nil => exact absurd hslot List.not_mem_nil
  | cons first rest ih =>
      simp only [typeMembers, Logged.yields_bind, Logged.yields_pure] at h
      rcases h with ⟨v, hv, others, hothers, rfl⟩
      rcases List.mem_cons.mp hslot with rfl | hslot
      · exact ⟨v, hv, fun n hn => List.mem_append_left _ (Option.mem_toList.mpr hn)⟩
      · rcases ih hothers hslot with ⟨w, hw, hmem⟩
        exact ⟨w, hw, fun n hn => List.mem_append_right _ (hmem n hn)⟩

/-- So are all properties that are not deprecated, each as the value of one property. -/
theorem mem_of_typeProperties {required : List String} {slots : List (String × Slot Schema)}
    {qs : List Property} (h : (typeProperties setting direction required slots).Yields qs)
    {e : String × Slot Schema} (he : e ∈ slots) (hd : e.2.isDeprecated = false) :
    ∃ w, (typeSlot setting direction e.2).Yields w ∧ ∀ n ∈ w, ∃ q ∈ qs, n ∈ q.values := by
  induction slots generalizing qs with
  | nil => exact absurd he List.not_mem_nil
  | cons first rest ih =>
      rcases typeProperties_cons h with ⟨v, others, hv, hothers, rfl⟩
      rcases List.mem_cons.mp he with rfl | he
      · rw [hd, if_neg Bool.false_ne_true] at hv
        refine ⟨v, hv, fun n hn => ?_⟩
        obtain rfl := Option.mem_def.mp hn
        exact ⟨_, List.mem_append_left _ List.mem_cons_self, List.mem_cons_self⟩
      · rcases ih hothers he with ⟨w, hw, hmem⟩
        refine ⟨w, hw, fun n hn => ?_⟩
        rcases hmem n hn with ⟨q, hq, hvalue⟩
        exact ⟨q, List.mem_append_right _ hq, hvalue⟩

/-- So is the schema of additional properties, as the value for all other keys. -/
theorem mem_of_typedFurther {s : Schema} {qs : List Property}
    (h : (s.typedFurther setting direction).Yields qs) {slot : Slot Schema}
    (hslot : slot ∈ Schema.additionalSlots s.additional) :
    ∃ w, (typeSlot setting direction slot).Yields w ∧ ∀ n ∈ w, ∃ q ∈ qs, n ∈ q.values := by
  unfold Schema.typedFurther at h
  unfold Schema.additionalSlots at hslot
  split at hslot
  · next typed hadditional =>
      rw [hadditional] at h
      rcases (Logged.yields_map _ _ _).mp h with ⟨w, hw, rfl⟩
      obtain rfl := List.mem_singleton.mp hslot
      refine ⟨w, hw, fun n hn => ?_⟩
      obtain rfl := Option.mem_def.mp hn
      exact ⟨_, List.mem_cons_self, List.mem_cons_self⟩
  · exact absurd hslot List.not_mem_nil
  · exact absurd hslot List.not_mem_nil

/-- Every visited slot is typed, and its type is a child of the typed schema, which then
    is there. -/
theorem typeSchema_visited {s : Schema} {v : Option TypeNode}
    (h : (typeSchema setting direction s).Yields v) {slot : Slot Schema}
    (hslot : slot ∈ s.visited) : ∃ w, (typeSlot setting direction slot).Yields w ∧
      ∀ child ∈ w, ∃ n, v = some n ∧ child ∈ n.shape.children := by
  rcases typeSchema_yields h with ⟨shape, hshape, rfl⟩
  unfold Schema.visited at hslot
  cases hshape with
  | @combined combinator members nodes hc hm =>
      rw [hc] at hslot
      rcases mem_of_typeMembers hm hslot with ⟨w, hw, hmem⟩
      refine ⟨w, hw, fun child hchild => ?_⟩
      -- The child is a member, so there are members, and the combination has a type.
      have hnodes : ¬ nodes.isEmpty = true := fun hempty =>
        List.not_mem_nil (List.isEmpty_iff.mp hempty ▸ hmem child hchild)
      exact ⟨s.nodeOf (.combined combinator nodes), by rw [combine, if_neg hnodes]; rfl,
        hmem child hchild⟩
  | literals hc he => simp [hc, he] at hslot
  | @array items item hc he hk hi ht =>
      simp only [hc, he, hk, hi, Option.isSome_none, Bool.false_eq_true, if_false, if_true,
        Option.toList_some, List.mem_singleton] at hslot
      subst hslot
      refine ⟨item, ht, fun child hchild => ?_⟩
      obtain rfl := Option.mem_def.mp hchild
      exact ⟨s.nodeOf (.array child), rfl, List.mem_singleton.mpr rfl⟩
  | itemless hc he hk hi => simp [hc, he, hk, hi] at hslot
  | @object own further hc he hk ho hown hfurther =>
      simp only [hc, he, hk, ho, Option.isSome_none, Bool.false_eq_true, if_false,
        if_true] at hslot
      -- A child of the object is a value of one of its properties, own or further.
      have hobject : ∀ child, (∃ q ∈ own ++ further, child ∈ q.values) →
          child ∈ (s.nodeOf (.object (own ++ further))).shape.children :=
        fun child hchild => List.mem_flatMap.mpr hchild
      rcases List.mem_append.mp hslot with hslot | hslot
      · rcases List.mem_map.mp hslot with ⟨e, he, rfl⟩
        rcases List.mem_filter.mp he with ⟨he, hd⟩
        unfold Schema.typedOwn at hown
        cases hproperties : s.properties with
        | none =>
            rw [hproperties] at he
            exact absurd he List.not_mem_nil
        | some slots =>
            rw [hproperties] at he hown
            have hkept : e.2.isDeprecated = false := by simpa using hd
            rcases mem_of_typeProperties hown he hkept with ⟨w, hw, hmem⟩
            refine ⟨w, hw, fun child hchild => ⟨_, rfl, hobject child ?_⟩⟩
            rcases hmem child hchild with ⟨q, hq, hvalue⟩
            exact ⟨q, List.mem_append_left _ hq, hvalue⟩
      · rcases mem_of_typedFurther hfurther hslot with ⟨w, hw, hmem⟩
        refine ⟨w, hw, fun child hchild => ⟨_, rfl, hobject child ?_⟩⟩
        rcases hmem child hchild with ⟨q, hq, hvalue⟩
        exact ⟨q, List.mem_append_right _ hq, hvalue⟩
  | leaf hc he hk ho => simp [hc, he, hk, ho] at hslot

end Visited

section Leaves

variable {setting : Setting} {direction : Direction} {shape : Shape}

/-- A typed schema is a leaf when it has the shape of one. -/
theorem typeSchema_leaf {s : Schema} {v : Option TypeNode}
    (h : (typeSchema setting direction s).Yields v) (hleaf : shape.IsLeaf) :
    (∃ n ∈ v, n.shape = shape) ↔
      s.leafShape setting.options.keepDates direction = some shape := by
  rcases typeSchema_yields h with ⟨result, hshape, rfl⟩
  -- Description and null are added to the shape, which stays what it is.
  have hroot : (∃ n ∈ result.map s.nodeOf, n.shape = shape) ↔ result = some shape := by
    cases result <;> simp [Schema.nodeOf]
  rw [hroot]
  unfold Schema.leafShape
  -- Each outcome of typing but the last has a shape with parts, or none.
  cases hshape with
  | combined hc =>
      refine iff_of_false (fun heq => ?_) (by simp [hc])
      unfold combine at heq
      split at heq
      · cases heq
      · obtain rfl := Option.some.inj heq
        exact hleaf
  | literals hc he =>
      refine iff_of_false (fun heq => ?_) (by simp [he])
      unfold Schema.literals at heq
      split at heq
      · cases heq
      · obtain rfl := Option.some.inj heq
        exact hleaf
  | array hc he hk =>
      refine iff_of_false (fun heq => ?_) (by simp [hk])
      rcases Option.map_eq_some_iff.mp heq with ⟨item, _, rfl⟩
      exact hleaf
  | itemless hc he hk =>
      refine iff_of_false (fun heq => ?_) (by simp [hk])
      cases heq
  | object hc he hk ho =>
      refine iff_of_false (fun heq => ?_) (by simp [ho])
      obtain rfl := Option.some.inj heq
      exact hleaf
  | leaf hc he hk ho =>
      rw [if_pos ⟨by rw [hc]; rfl, he, hk, ho⟩]

theorem Shape.IsLeaf.ne_reference (h : shape.IsLeaf) (r : TypeRef) : shape ≠ .reference r := by
  rintro rfl
  exact h

theorem Shape.IsLeaf.ne_any (h : shape.IsLeaf) : shape ≠ .primitive .any := by
  rintro rfl
  exact h rfl

/-- A node of the tree has the shape. -/
def TypeNode.Contains (shape : Shape) (n : TypeNode) : Prop :=
  ∃ m ∈ n.nodes, m.shape = shape

/-- A tree contains a shape when it has it at its root or in one of its children. -/
theorem TypeNode.contains_iff (n : TypeNode) :
    n.Contains shape ↔ n.shape = shape ∨ ∃ c ∈ n.shape.children, c.Contains shape := by
  unfold Contains
  rw [n.nodes_eq]
  simp only [List.mem_cons, List.mem_flatMap, exists_eq_or_imp]
  refine or_congr_right ⟨?_, ?_⟩
  · rintro ⟨m, ⟨c, hc, hm⟩, hshape⟩
    exact ⟨c, hc, m, hm, hshape⟩
  · rintro ⟨c, hc, m, hm, hshape⟩
    exact ⟨m, ⟨c, hc, hm⟩, hshape⟩

/-- A leaf of another shape contains nothing else. -/
theorem TypeNode.not_contains {n : TypeNode} (hchildren : n.shape.children = [])
    (hne : shape ≠ n.shape) : ¬ n.Contains shape := by
  rw [n.contains_iff, hchildren]
  rintro (h | ⟨c, hc, _⟩)
  · exact hne h.symm
  · exact List.not_mem_nil hc

/-- A slot is a schema, for which the leaves are known, or a reference, which is no leaf. -/
theorem slot_leaf_iff_of (hleaf : shape.IsLeaf) {slot : Slot Schema}
    (hinline : ∀ s, Slot.inline s = slot → ∀ v, (typeSchema setting direction s).Yields v →
      ((∃ n ∈ v, n.Contains shape) ↔ ∃ t, (Slot.inline s).Holds t ∧
        t.leafShape setting.options.keepDates direction = some shape))
    {v : Option TypeNode} (h : (typeSlot setting direction slot).Yields v) :
    (∃ n ∈ v, n.Contains shape) ↔ ∃ t, slot.Holds t ∧
      t.leafShape setting.options.keepDates direction = some shape := by
  cases slot with
  | inline s => exact hinline s rfl v h
  | reference pointer =>
      simp only [typeSlot, Logged.yields_bind, Logged.yields_pure] at h
      rcases h with ⟨target, _, rfl⟩
      refine iff_of_false ?_ ?_
      · rintro ⟨n, hn, hcontains⟩
        obtain rfl := Option.some.inj hn
        exact TypeNode.not_contains rfl (hleaf.ne_reference target) hcontains
      · rintro ⟨t, ht, _⟩
        cases ht

/-- The leaves of a typed schema are the schemas of their shape that it holds behind visited
    slots. -/
theorem typeSchema_leaf_iff (hleaf : shape.IsLeaf) (s : Schema) :
    ∀ v, (typeSchema setting direction s).Yields v →
      ((∃ n ∈ v, n.Contains shape) ↔ ∃ t, (Slot.inline s).Holds t ∧
        t.leafShape setting.options.keepDates direction = some shape) := by
  induction s using Schema.inductionOn with
  -- The induction is on the schema, and it is used for the slots that are visited.
  | step s ih =>
      intro v hv
      have hslots : ∀ slot ∈ s.visited, ∀ w, (typeSlot setting direction slot).Yields w →
          ((∃ n ∈ w, n.Contains shape) ↔ ∃ t, slot.Holds t ∧
            t.leafShape setting.options.keepDates direction = some shape) :=
        fun slot hslot w hw => slot_leaf_iff_of hleaf
          (fun t ht => ih t (ht ▸ Schema.mem_slots_of_mem_visited hslot)) hw
      constructor
      · rintro ⟨n, hn, hcontains⟩
        rcases n.contains_iff.mp hcontains with hroot | ⟨c, hc, hcontains⟩
        -- The leaf is the root, or it is below a child, which is the type of a visited slot.
        · exact ⟨s, .here s, (typeSchema_leaf hv hleaf).mp ⟨n, hn, hroot⟩⟩
        · rw [Option.mem_def.mp hn] at hv
          rcases (typeSchema_children hv).2 c hc with rfl | ⟨slot, hslot, hyields⟩
          · exact absurd hcontains (TypeNode.not_contains rfl hleaf.ne_any)
          · rcases (hslots slot hslot _ hyields).mp ⟨c, rfl, hcontains⟩ with ⟨t, ht, hshape⟩
            exact ⟨t, .inside hslot ht, hshape⟩
      -- The other way the same two cases: the schema stands here, or inside a visited slot.
      · rintro ⟨t, ht, hshape⟩
        cases ht with
        | here =>
            rcases (typeSchema_leaf hv hleaf).mpr hshape with ⟨n, hn, hroot⟩
            exact ⟨n, hn, n.contains_iff.mpr (Or.inl hroot)⟩
        | inside hslot ht =>
            rcases typeSchema_visited hv hslot with ⟨w, hw, hchild⟩
            rcases (hslots _ hslot w hw).mpr ⟨t, ht, hshape⟩ with ⟨c, hc, hcontains⟩
            rcases hchild c hc with ⟨n, hn, hc⟩
            exact ⟨n, hn, n.contains_iff.mpr (Or.inr ⟨c, hc, hcontains⟩)⟩

/-- A leaf of a shape stands in a typed slot exactly when a schema of this shape stands in
    the slot, behind visited slots only. -/
theorem typeSlot_leaf_iff (hleaf : shape.IsLeaf) {slot : Slot Schema} {v : Option TypeNode}
    (h : (typeSlot setting direction slot).Yields v) :
    (∃ n ∈ v, n.Contains shape) ↔ ∃ t, slot.Holds t ∧
      t.leafShape setting.options.keepDates direction = some shape :=
  slot_leaf_iff_of hleaf (fun s _ => typeSchema_leaf_iff hleaf s) h

end Leaves

end RouteTypes
