import RouteTypes.Proofs.Occurrence
import RouteTypes.Proofs.SchemaTyping

/-!
# The Children of a Typed Schema

Which places of a schema the nodes right below its type come from.

Only one keyword decides the type of a schema, and only the slots of that keyword are
looked at: the members of a combination, the items of an array, the properties that are
not deprecated and the value of further keys. `Schema.visited` lists them. Every child
of a typed schema is the type of a visited slot, except that further keys without a
schema have the type of anything (`typeSchema_children`).

A fact about all nodes of typed schemas therefore needs one argument for a node and one
for a reference. The rest is induction over the schemas a schema holds.

## Main definitions

* `Schema.visited`: The slots that decide the type of a schema.

## Theorems

* `Schema.mem_slots_of_mem_visited`: Those are slots of the schema.
* `exists_of_mem_members`: A typed member is the type of one of the slots.
* `exists_of_mem_typedOwn`, `exists_of_mem_typedFurther`: A typed property has one value.
* `typeSchema_children`: The children of a typed schema are the types of visited slots.
-/

namespace RouteTypes

namespace Schema

/-- The slots that decide the type of a schema: those of the keyword that decides,
    without deprecated properties. -/
def visited (s : Schema) : List (Slot Schema) :=
  match s.combination with
  | some (_, members) => members
  | none =>
    if s.enum.isSome then []
    else if s.kind = some .array then s.items.toList
    else if s.properties.isSome || s.isOpen then
      propertySlots ((s.properties.getD []).filter fun e => !e.2.isDeprecated) ++
        additionalSlots s.additional
    else []

/-- Those are slots of the schema: what is visited is a part of what it holds. -/
theorem mem_slots_of_mem_visited {s : Schema} {slot : Slot Schema} (h : slot ∈ s.visited) :
    slot ∈ s.slots := by
  -- The keywords are asked in the order in which typing asks them.
  unfold visited at h
  split at h
  · next hc => exact mem_slots_of_combination hc h
  · split at h
    · exact absurd h List.not_mem_nil
    · split at h
      · exact mem_slots_of_items (Option.mem_toList.mp h)
      · split at h
        · rcases List.mem_append.mp h with h | h
          · rcases List.mem_map.mp h with ⟨e, he, rfl⟩
            exact mem_slots_of_properties (List.mem_map_of_mem (List.mem_filter.mp he).1)
          · exact mem_slots_of_additional h
        · exact absurd h List.not_mem_nil

end Schema

section Children

variable {setting : Setting} {direction : Direction}

/-- A typed member is the type of one of the slots. A slot without a type gives no member. -/
theorem exists_of_mem_members {slots : List (Slot Schema)} {nodes : List TypeNode}
    (h : (typeMembers setting direction slots).Yields nodes) {n : TypeNode} (hn : n ∈ nodes) :
    ∃ slot ∈ slots, (typeSlot setting direction slot).Yields (some n) := by
  induction slots generalizing nodes with
  | nil =>
      rw [typeMembers, Logged.yields_pure] at h
      rw [← h] at hn
      exact absurd hn List.not_mem_nil
  | cons slot slots ih =>
      simp only [typeMembers, Logged.yields_bind, Logged.yields_pure] at h
      rcases h with ⟨v, hv, rest, hrest, rfl⟩
      rcases List.mem_append.mp hn with hn | hn
      · rw [Option.mem_toList.mp hn] at hv
        -- The slot gave a type, and it is the member. Otherwise the member is one of the others.
        exact ⟨slot, List.mem_cons_self, hv⟩
      · rcases ih hrest hn with ⟨slot', hslot, hyields⟩
        exact ⟨slot', List.mem_cons_of_mem slot hslot, hyields⟩

/-- A property holds the type of a slot that is not deprecated. -/
theorem exists_of_mem_properties {required : List String} {slots : List (String × Slot Schema)}
    {qs : List Property} (h : (typeProperties setting direction required slots).Yields qs)
    {q : Property} (hq : q ∈ qs) : ∃ v, q.values = [v] ∧
      ∃ e ∈ slots, e.2.isDeprecated = false ∧
        (typeSlot setting direction e.2).Yields (some v) := by
  induction slots generalizing qs with
  | nil =>
      rw [typeProperties, Logged.yields_pure] at h
      rw [← h] at hq
      exact absurd hq List.not_mem_nil
  | cons e slots ih =>
      rcases e with ⟨name, slot⟩
      rcases typeProperties_cons h with ⟨v, rest, hv, hrest, rfl⟩
      rcases List.mem_append.mp hq with hq | hq
      · rcases List.mem_map.mp hq with ⟨w, hw, rfl⟩
        rw [Option.mem_toList] at hw
        subst hw
        -- A deprecated slot would have no type at all.
        by_cases hd : slot.isDeprecated = true
        · rw [if_pos hd] at hv
          exact absurd hv (by simp only [reduceCtorEq, not_false_eq_true])
        · rw [if_neg hd] at hv
          exact ⟨w, rfl, (name, slot), List.mem_cons_self, Bool.eq_false_iff.mpr hd, hv⟩
      · rcases ih hrest hq with ⟨v, hvalues, e, he, hvalue⟩
        exact ⟨v, hvalues, e, List.mem_cons_of_mem _ he, hvalue⟩

/-- A property of the schema itself has one value, the type of a slot that is visited. -/
theorem exists_of_mem_typedOwn {s : Schema} {qs : List Property}
    (h : (s.typedOwn setting direction).Yields qs) {q : Property} (hq : q ∈ qs) :
    ∃ v, q.values = [v] ∧ ∃ slot ∈ Schema.propertySlots
      ((s.properties.getD []).filter fun e => !e.2.isDeprecated),
      (typeSlot setting direction slot).Yields (some v) := by
  unfold Schema.typedOwn at h
  -- Without a list of properties there are none to look at.
  cases hslots : s.properties with
  | none =>
      rw [hslots, Logged.yields_pure] at h
      rw [← h] at hq
      exact absurd hq List.not_mem_nil
  | some slots =>
      rw [hslots] at h
      rcases exists_of_mem_properties h hq with ⟨v, hvalues, e, he, hd, hyields⟩
      refine ⟨v, hvalues, e.2, List.mem_map_of_mem (List.mem_filter.mpr ⟨he, ?_⟩), hyields⟩
      rw [hd]
      rfl

/-- The property for all other keys has one value. -/
theorem exists_of_mem_indexProperties {value : Option TypeNode} {q : Property}
    (hq : q ∈ indexProperties value) : ∃ v, q.values = [v] ∧ value = some v := by
  cases value with
  | none => exact absurd hq List.not_mem_nil
  | some v =>
      rw [List.mem_singleton.mp hq]
      exact ⟨v, rfl, rfl⟩

/-- It is of any type, or typed from the schema of additional properties. -/
theorem exists_of_mem_typedFurther {s : Schema} {qs : List Property}
    (h : (s.typedFurther setting direction).Yields qs) {q : Property} (hq : q ∈ qs) :
    ∃ v, q.values = [v] ∧ (v = { shape := .primitive .any } ∨
      ∃ slot ∈ Schema.additionalSlots s.additional,
        (typeSlot setting direction slot).Yields (some v)) := by
  unfold Schema.typedFurther at h
  split at h
  · next slot hslot =>
      rcases (Logged.yields_map _ _ _).mp h with ⟨value, hvalue, rfl⟩
      rcases exists_of_mem_indexProperties hq with ⟨v, hvalues, rfl⟩
      rw [hslot]
      exact ⟨v, hvalues, Or.inr ⟨slot, List.mem_singleton.mpr rfl, hvalue⟩⟩
  -- Further keys are allowed without a schema for them, so they may hold anything.
  · rw [← (Logged.yields_pure _ _).mp h] at hq
    rcases exists_of_mem_indexProperties hq with ⟨v, hvalues, hany⟩
    exact ⟨v, hvalues, Or.inl (Option.some.inj hany).symm⟩
  · rw [← (Logged.yields_pure _ _).mp h] at hq
    exact absurd hq List.not_mem_nil
  · rw [← (Logged.yields_pure _ _).mp h] at hq
    exact absurd hq List.not_mem_nil

/-- A typed schema is no reference, and its children are the types of the slots that
    were visited, or the type of anything for further keys. -/
theorem typeSchema_children {s : Schema} {n : TypeNode}
    (h : (typeSchema setting direction s).Yields (some n)) :
    n.shape.isReference = false ∧ ∀ child ∈ n.shape.children,
      child = { shape := .primitive .any } ∨
      ∃ slot ∈ s.visited, (typeSlot setting direction slot).Yields (some child) := by
  rcases typeSchema_becomes h with ⟨shape, hshape, rfl⟩
  change shape.isReference = false ∧ ∀ child ∈ shape.children, _
  unfold Schema.visited
  cases hshape with
  | combined hc hm =>
      rw [hc]
      exact ⟨rfl, fun child hchild => Or.inr (exists_of_mem_members hm hchild)⟩
  | @array slot item hc he hk hi ht =>
      refine ⟨rfl, fun child hchild => Or.inr ⟨slot, ?_, ?_⟩⟩
      · simp [hc, he, hk, hi]
      · rw [List.mem_singleton.mp hchild]
        exact ht
  | object hc he hk ho hown hfurther =>
      refine ⟨rfl, fun child hchild => ?_⟩
      simp only [hc, he, hk, ho, Option.isSome_none, Bool.false_eq_true, if_false, if_true]
      -- A property of a schema has one value, which is the child.
      rcases List.mem_flatMap.mp hchild with ⟨q, hq, hchild⟩
      rcases List.mem_append.mp hq with hq | hq
      · rcases exists_of_mem_typedOwn hown hq with ⟨v, hvalues, slot, hslot, hyields⟩
        rw [hvalues] at hchild
        obtain rfl := List.mem_singleton.mp hchild
        exact Or.inr ⟨slot, List.mem_append_left _ hslot, hyields⟩
      · rcases exists_of_mem_typedFurther hfurther hq with ⟨v, hvalues, hvalue⟩
        rw [hvalues] at hchild
        obtain rfl := List.mem_singleton.mp hchild
        exact hvalue.imp_right fun ⟨slot, hslot, hyields⟩ =>
          ⟨slot, List.mem_append_right _ hslot, hyields⟩
  | literals | binary | primitive =>
      exact ⟨rfl, fun child hchild => absurd hchild List.not_mem_nil⟩

end Children

end RouteTypes
