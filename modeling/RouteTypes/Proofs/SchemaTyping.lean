import RouteTypes.Proofs.Outcome
import RouteTypes.Typing.Schema

/-!
# What Typing a Schema Does

Typing a schema is one long decision, taken inside a family of functions that recurse
through each other. `Schema.Shaped` lists its outcomes, one for every keyword that can
decide, and `typeSchema_yields` says that these are all. Whatever is proved about typed
schemas goes through that list and through induction over the schemas a schema holds.

The first such fact is which schemas have a type at all. That depends neither on the
direction nor on the options, and references count as typed because they are not
followed; so `Schema.hasType` is a question about the schema alone.

## Main definitions

* `Schema.slots`: The places for schemas inside a schema.
* `Schema.combination`: The combinator that decides, with its members.
* `Schema.Shaped`: The shapes that typing can give a schema.
* `Schema.Becomes`: Those of a schema that has a type.
* `Slot.isDeprecated`: Whether a property is skipped.
* `Schema.hasType`, `Slot.hasType`: Whether a schema describes a type.

## Theorems

* `Schema.inductionOn`: Induction from the inline schemas in a schema to the schema.
* `typeSchema_yields`, `typeSchema_becomes`: A typed schema is a node around one of its
  shapes.
* `typeProperties_cons`: Properties are typed one by one.
* `typeSlot_isSome`, `typeSchema_isSome`: Typing gives a node when the schema has a type.
-/

namespace RouteTypes

namespace Schema

/-- The slots of a list of properties. -/
def propertySlots (properties : List (String × Slot Schema)) : List (Slot Schema) :=
  properties.map Prod.snd

/-- The slot of an `additionalProperties` keyword. -/
def additionalSlots : Option (Additional Schema) → List (Slot Schema)
  | some (.typed slot) => [slot]
  | some (.allowed _) | none => []

/-- The places for schemas inside a schema. -/
def slots (s : Schema) : List (Slot Schema) :=
  propertySlots (s.properties.getD []) ++ additionalSlots s.additional ++ s.items.toList ++
    s.oneOf.getD [] ++ s.allOf.getD [] ++ s.anyOf.getD []

mutual

/-- A property that passes from the schemas inside to the schema around them holds of all. The
    recursion is that of the data. -/
private theorem schema_holds {P : Schema → Prop}
    (step : ∀ s : Schema, (∀ t, Slot.inline t ∈ s.slots → P t) → P s) : ∀ s : Schema, P s
  | ⟨type, format, nullable, description, deprecated, properties, required, additional, items,
      enum, oneOf, allOf, anyOf⟩ => by
      refine step _ fun t ht => ?_
      simp only [slots, List.mem_append] at ht
      -- The six keywords that hold schemas, in the order of `slots`.
      rcases ht with ((((ht | ht) | ht) | ht) | ht) | ht
      · cases properties with
        | none => exact absurd ht List.not_mem_nil
        | some list => exact properties_hold step list t ht
      · rcases additional with _ | yes | slot
        · exact absurd ht List.not_mem_nil
        · exact absurd ht List.not_mem_nil
        · exact slot_holds step slot t (List.mem_singleton.mp ht)
      · cases items with
        | none => exact absurd ht List.not_mem_nil
        | some slot => exact slot_holds step slot t (List.mem_singleton.mp ht)
      · cases oneOf with
        | none => exact absurd ht List.not_mem_nil
        | some list => exact slots_hold step list t ht
      · cases allOf with
        | none => exact absurd ht List.not_mem_nil
        | some list => exact slots_hold step list t ht
      · cases anyOf with
        | none => exact absurd ht List.not_mem_nil
        | some list => exact slots_hold step list t ht
termination_by structural s => s

/-- It holds of what stands in a slot. -/
private theorem slot_holds {P : Schema → Prop}
    (step : ∀ s : Schema, (∀ t, Slot.inline t ∈ s.slots → P t) → P s) :
    ∀ (slot : Slot Schema) (t : Schema), Slot.inline t = slot → P t
  | .reference _, _, h => absurd h (by simp only [reduceCtorEq, not_false_eq_true])
  | .inline s, t, h => by
      rw [Slot.inline.inj h]
      exact schema_holds step s
termination_by structural slot => slot

/-- It holds of what stands in any slot of a list. -/
private theorem slots_hold {P : Schema → Prop}
    (step : ∀ s : Schema, (∀ t, Slot.inline t ∈ s.slots → P t) → P s) :
    ∀ (list : List (Slot Schema)) (t : Schema), .inline t ∈ list → P t
  | [], _, h => absurd h List.not_mem_nil
  | slot :: rest, t, h => by
      rcases List.mem_cons.mp h with heq | h
      · exact slot_holds step slot t heq
      · exact slots_hold step rest t h
termination_by structural list => list

/-- It holds of what stands in any property. -/
private theorem properties_hold {P : Schema → Prop}
    (step : ∀ s : Schema, (∀ t, Slot.inline t ∈ s.slots → P t) → P s) :
    ∀ (list : List (String × Slot Schema)) (t : Schema), .inline t ∈ propertySlots list → P t
  | [], _, h => absurd h List.not_mem_nil
  | (_, slot) :: rest, t, h => by
      rcases List.mem_cons.mp h with heq | h
      · exact slot_holds step slot t heq
      · exact properties_hold step rest t h
termination_by structural list => list

end

/-- What a schema has whenever the inline schemas in it have it, all schemas have. -/
@[elab_as_elim]
theorem inductionOn {P : Schema → Prop} (s : Schema)
    (step : ∀ s : Schema, (∀ t, Slot.inline t ∈ s.slots → P t) → P s) : P s :=
  schema_holds step s

/-- The combinator that decides, with its members: the first of three that is present. -/
def combination (s : Schema) : Option (Combinator × List (Slot Schema)) :=
  match s.oneOf, s.allOf, s.anyOf with
  | some members, _, _ => some (.oneOf, members)
  | none, some members, _ => some (.allOf, members)
  | none, none, some members => some (.anyOf, members)
  | none, none, none => none

/-- The members of a combination stand in slots of the schema. -/
theorem mem_slots_of_combination {s : Schema} {c : Combinator} {members : List (Slot Schema)}
    (h : s.combination = some (c, members)) {slot : Slot Schema} (hs : slot ∈ members) :
    slot ∈ s.slots := by
  simp only [slots, List.mem_append]
  unfold combination at h
  split at h
  · next hone =>
      rw [Option.some.injEq, Prod.mk.injEq] at h
      rw [hone, h.2]
      exact Or.inl (Or.inl (Or.inr hs))
  · next hall =>
      rw [Option.some.injEq, Prod.mk.injEq] at h
      rw [hall, h.2]
      exact Or.inl (Or.inr hs)
  · next hany =>
      rw [Option.some.injEq, Prod.mk.injEq] at h
      rw [hany, h.2]
      exact Or.inr hs
  · exact absurd h (by simp only [reduceCtorEq, not_false_eq_true])

/-- The items of a schema stand in a slot of it. -/
theorem mem_slots_of_items {s : Schema} {slot : Slot Schema} (h : s.items = some slot) :
    slot ∈ s.slots := by
  simp only [slots, List.mem_append, h, Option.toList_some, List.mem_singleton]
  exact Or.inl (Or.inl (Or.inl (Or.inr trivial)))

/-- The properties of a schema stand in slots of it. -/
theorem mem_slots_of_properties {s : Schema} {slot : Slot Schema}
    (h : slot ∈ propertySlots (s.properties.getD [])) : slot ∈ s.slots := by
  simp only [slots, List.mem_append]
  exact Or.inl (Or.inl (Or.inl (Or.inl (Or.inl h))))

/-- The value of further keys stands in a slot of the schema. -/
theorem mem_slots_of_additional {s : Schema} {slot : Slot Schema}
    (h : slot ∈ additionalSlots s.additional) : slot ∈ s.slots := by
  simp only [slots, List.mem_append]
  exact Or.inl (Or.inl (Or.inl (Or.inl (Or.inr h))))

/-- The properties that typing gives a schema for the ones it declares. -/
def typedOwn (setting : Setting) (direction : Direction) (s : Schema) : Typing (List Property) :=
  match s.properties with
  | some slots => typeProperties setting direction s.required slots
  | none => pure []

/-- The property that typing gives a schema for all further keys. -/
def typedFurther (setting : Setting) (direction : Direction) (s : Schema) :
    Typing (List Property) :=
  match s.additional with
  | some (.typed slot) => indexProperties <$> typeSlot setting direction slot
  | some (.allowed true) => pure (indexProperties (some { shape := .primitive .any }))
  | some (.allowed false) | none => pure []

/-- The shapes that typing can give a schema, by the keyword that decides. -/
inductive Shaped (setting : Setting) (direction : Direction) (s : Schema) :
    Option Shape → Prop where
  | combined {combinator : Combinator} {members : List (Slot Schema)} {nodes : List TypeNode}
      (hc : s.combination = some (combinator, members))
      (hm : (typeMembers setting direction members).Yields nodes) :
      Shaped setting direction s (combine combinator nodes)
  | literals {members : List EnumMember} (hc : s.combination = none)
      (he : s.enum = some members) : Shaped setting direction s (s.literals members)
  | array {slot : Slot Schema} {item : Option TypeNode} (hc : s.combination = none)
      (he : s.enum = none) (hk : s.kind = some .array) (hi : s.items = some slot)
      (ht : (typeSlot setting direction slot).Yields item) :
      Shaped setting direction s (item.map .array)
  | itemless (hc : s.combination = none) (he : s.enum = none) (hk : s.kind = some .array)
      (hi : s.items = none) : Shaped setting direction s none
  | object {own further : List Property} (hc : s.combination = none) (he : s.enum = none)
      (hk : s.kind ≠ some .array) (ho : (s.properties.isSome || s.isOpen) = true)
      (hown : (s.typedOwn setting direction).Yields own)
      (hfurther : (s.typedFurther setting direction).Yields further) :
      Shaped setting direction s (some (.object (own ++ further)))
  | leaf (hc : s.combination = none) (he : s.enum = none) (hk : s.kind ≠ some .array)
      (ho : (s.properties.isSome || s.isOpen) = false) :
      Shaped setting direction s (s.leaf setting.options.keepDates direction)

/-- The node of a schema around a shape. -/
def nodeOf (s : Schema) (shape : Shape) : TypeNode :=
  { nullable := s.isNullable, description := s.description, shape }

/-- A schema becomes a node around its shape, or nothing. -/
theorem yields_node (s : Schema) (shape : Option Shape) (v : Option TypeNode) :
    (s.node shape).Yields v ↔ v = shape.map s.nodeOf := by
  cases shape with
  | none =>
      simp only [node, Logged.yields_bind, Logged.yields_report, Logged.yields_pure, true_and,
        exists_const, Option.map_none]
      exact eq_comm
  | some shape =>
      simp only [node, Logged.yields_pure, Option.map_some, nodeOf]
      exact eq_comm

end Schema

/-- A typed schema is a node around one of its shapes, or nothing when that shape is
    missing. -/
theorem typeSchema_yields {setting : Setting} {direction : Direction} {s : Schema}
    {v : Option TypeNode} (h : (typeSchema setting direction s).Yields v) :
    ∃ shape, s.Shaped setting direction shape ∧ v = shape.map s.nodeOf := by
  rcases s with ⟨type, format, nullable, description, deprecated, properties, required,
    additional, items, enum, oneOf, allOf, anyOf⟩
  unfold typeSchema at h
  rw [Logged.yields_bind] at h
  rcases h with ⟨shape, hshape, hv⟩
  refine ⟨shape, ?_, (Schema.yields_node _ _ _).mp hv⟩
  -- A combinator decides first, then an enumeration, and the kind only after them.
  split at hshape
  · rcases (Logged.yields_map _ _ _).mp hshape with ⟨nodes, hn, rfl⟩
    exact .combined rfl hn
  · rcases (Logged.yields_map _ _ _).mp hshape with ⟨nodes, hn, rfl⟩
    exact .combined rfl hn
  · rcases (Logged.yields_map _ _ _).mp hshape with ⟨nodes, hn, rfl⟩
    exact .combined rfl hn
  · rw [← (Logged.yields_pure _ _).mp hshape]
    exact .literals rfl rfl
  · split at hshape
    · next hkind =>
        cases items with
        | none =>
            rw [← (Logged.yields_pure _ _).mp hshape]
            exact .itemless rfl rfl hkind rfl
        | some slot =>
            rcases (Logged.yields_map _ _ _).mp hshape with ⟨item, hi, rfl⟩
            exact .array rfl rfl hkind rfl hi
    · next hkind =>
        split at hshape
        · next hopen =>
            rcases (Logged.yields_seq _ _ _).mp hshape with ⟨f, hf, further, hfurther, rfl⟩
            rcases (Logged.yields_map _ _ _).mp hf with ⟨own, hown, rfl⟩
            refine .object rfl rfl hkind hopen ?_ ?_
            -- Both lists of properties are given by the matches in `typeSchema` itself.
            · cases properties with
              | none => exact hown
              | some slots => exact hown
            · rcases additional with _ | yes | slot
              · exact hfurther
              · cases yes with
                | false => exact hfurther
                | true => exact hfurther
              · exact hfurther
        · next hclosed =>
            rw [← (Logged.yields_pure _ _).mp hshape]
            exact .leaf rfl rfl hkind (Bool.eq_false_iff.mpr hclosed)

/-- The shapes that a schema with a type can have, by the keyword that decides. -/
inductive Schema.Becomes (setting : Setting) (direction : Direction) (s : Schema) :
    Shape → Prop where
  | combined {combinator : Combinator} {members : List (Slot Schema)} {nodes : List TypeNode}
      (hc : s.combination = some (combinator, members))
      (hm : (typeMembers setting direction members).Yields nodes) (hne : nodes ≠ []) :
      Becomes setting direction s (.combined combinator nodes)
  | literals {members : List EnumMember} (hc : s.combination = none)
      (he : s.enum = some members) (hne : members ≠ []) :
      Becomes setting direction s
        (.literals (members.map (Schema.literal (s.kind == some .string))))
  | array {slot : Slot Schema} {item : TypeNode} (hc : s.combination = none)
      (he : s.enum = none) (hk : s.kind = some .array) (hi : s.items = some slot)
      (ht : (typeSlot setting direction slot).Yields (some item)) :
      Becomes setting direction s (.array item)
  | object {own further : List Property} (hc : s.combination = none) (he : s.enum = none)
      (hk : s.kind ≠ some .array) (ho : (s.properties.isSome || s.isOpen) = true)
      (hown : (s.typedOwn setting direction).Yields own)
      (hfurther : (s.typedFurther setting direction).Yields further) :
      Becomes setting direction s (.object (own ++ further))
  | binary (hc : s.combination = none) (he : s.enum = none) :
      Becomes setting direction s (.binary direction.binary)
  | primitive {type : Primitive} (hc : s.combination = none) (he : s.enum = none)
      (hp : s.primitive setting.options.keepDates = some type) :
      Becomes setting direction s (.primitive type)

/-- A schema that has a type is a node around one of those shapes. -/
theorem typeSchema_becomes {setting : Setting} {direction : Direction} {s : Schema}
    {n : TypeNode} (h : (typeSchema setting direction s).Yields (some n)) :
    ∃ shape, s.Becomes setting direction shape ∧ n = s.nodeOf shape := by
  rcases typeSchema_yields h with ⟨result, hshape, hv⟩
  rcases Option.map_eq_some_iff.mp hv.symm with ⟨shape, hres, rfl⟩
  refine ⟨shape, ?_, rfl⟩
  cases hshape with
  -- A combination without members comes to nothing, and so does an empty enumeration.
  | @combined combinator members nodes hc hm =>
      unfold combine at hres
      split at hres
      · cases hres
      · next hne =>
          cases hres
          exact .combined hc hm fun hnil => hne (List.isEmpty_iff.mpr hnil)
  | @literals members hc he =>
      unfold Schema.literals at hres
      split at hres
      · cases hres
      · next hne =>
          cases hres
          exact .literals hc he fun hnil => hne (List.isEmpty_iff.mpr hnil)
  | array hc he hk hi ht =>
      rcases Option.map_eq_some_iff.mp hres with ⟨item, rfl, rfl⟩
      exact .array hc he hk hi ht
  | itemless => cases hres
  | object hc he hk ho hown hfurther =>
      cases hres
      exact .object hc he hk ho hown hfurther
  | leaf hc he =>
      unfold Schema.leaf at hres
      split at hres
      · cases hres
        exact .binary hc he
      · rcases Option.map_eq_some_iff.mp hres with ⟨type, htype, rfl⟩
        exact .primitive hc he htype

/-- Whether a property counts as deprecated. A reference never does, because it is not
    followed. -/
def Slot.isDeprecated : Slot Schema → Bool
  | .reference _ => false
  | .inline s => s.deprecated

/-- The first property is typed by itself, or skipped, and the others follow. -/
theorem typeProperties_cons {setting : Setting} {direction : Direction} {required : List String}
    {name : String} {slot : Slot Schema} {rest : List (String × Slot Schema)}
    {qs : List Property}
    (h : (typeProperties setting direction required ((name, slot) :: rest)).Yields qs) :
    ∃ v more,
      (if slot.isDeprecated then v = none else (typeSlot setting direction slot).Yields v) ∧
      (typeProperties setting direction required rest).Yields more ∧
      qs = typeProperties.fields required name v ++ more := by
  cases slot with
  | reference pointer =>
      simp only [typeProperties, Logged.yields_bind, Logged.yields_pure] at h
      rcases h with ⟨target, htarget, own, rfl, more, hmore, rfl⟩
      refine ⟨some target.node, more, ?_, hmore, rfl⟩
      simp only [Slot.isDeprecated, Bool.false_eq_true, if_false, typeSlot, Logged.yields_bind,
        Logged.yields_pure]
      exact ⟨target, htarget, rfl⟩
  | inline s =>
      unfold typeProperties at h
      dsimp only at h
      by_cases hd : s.deprecated = true
      · -- A deprecated property is reported and skipped.
        rw [if_pos hd] at h
        simp only [Logged.yields_bind, Logged.yields_report, Logged.yields_pure, true_and,
          exists_const] at h
        rcases h with ⟨own, rfl, more, hmore, rfl⟩
        exact ⟨none, more, by rw [Slot.isDeprecated, if_pos hd], hmore, rfl⟩
      · rw [if_neg hd] at h
        simp only [Logged.yields_bind, Logged.yields_pure] at h
        rcases h with ⟨v, hv, own, rfl, more, hmore, rfl⟩
        exact ⟨v, more, by rw [Slot.isDeprecated, if_neg hd]; exact hv, hmore, rfl⟩

/-- A kind whose values have a built-in type. -/
def Kind.isBuiltIn : Kind → Bool
  | string | number | integer | boolean | null => true
  | array | object => false

mutual

/-- Whether what stands in a slot has a type. A reference always has: it is named, not
    followed. -/
def Slot.hasType : Slot Schema → Bool
  | .reference _ => true
  | .inline s => s.hasType
termination_by structural slot => slot

/-- Whether a schema describes a type: a combination when a member does, an enumeration
    when it has members, an array when its items do. Otherwise it takes an object,
    binary content or a kind with a built-in type. -/
def Schema.hasType : Schema → Bool
  | s@⟨_, _, _, _, _, _, _, _, items, enum, oneOf, allOf, anyOf⟩ =>
    match oneOf, allOf, anyOf, enum with
    | some members, _, _, _ => anyHasType members
    | none, some members, _, _ => anyHasType members
    | none, none, some members, _ => anyHasType members
    | none, none, none, some members => !members.isEmpty
    | none, none, none, none =>
      if s.kind = some .array then
        match items with
        | some slot => slot.hasType
        | none => false
      else
        s.properties.isSome || s.isOpen || s.format == some "binary" ||
          s.kind.any Kind.isBuiltIn
termination_by structural s => s

/-- Whether one of several slots has a type. -/
def anyHasType : List (Slot Schema) → Bool
  | [] => false
  | slot :: rest => slot.hasType || anyHasType rest
termination_by structural slots => slots

end

namespace Schema

variable {s : Schema}

/-- A combination has a type when a member has. -/
theorem hasType_of_combination {c : Combinator} {members : List (Slot Schema)}
    (hc : s.combination = some (c, members)) : s.hasType = anyHasType members := by
  rcases s with ⟨type, format, nullable, description, deprecated, properties, required,
    additional, items, enum, _ | oneOf, _ | allOf, _ | anyOf⟩
  · exact absurd hc (by simp only [combination, reduceCtorEq, not_false_eq_true])
  -- The combinators that come first decide, whatever the later ones hold.
  all_goals
    simp only [combination, Option.some.injEq, Prod.mk.injEq] at hc
    rw [← hc.2]
    rfl

/-- An enumeration has a type when it has members. -/
theorem hasType_of_enum {members : List EnumMember} (hc : s.combination = none)
    (he : s.enum = some members) : s.hasType = !members.isEmpty := by
  rcases s with ⟨type, format, nullable, description, deprecated, properties, required,
    additional, items, enum, _ | oneOf, _ | allOf, _ | anyOf⟩
  · dsimp only at he
    rw [he]
    rfl
  all_goals exact absurd hc (by simp only [combination, reduceCtorEq, not_false_eq_true])

/-- Any other schema has a type by its kind, or by its properties and its format. -/
theorem hasType_of_plain (hc : s.combination = none) (he : s.enum = none) :
    s.hasType =
      if s.kind = some .array then s.items.any Slot.hasType
      else s.properties.isSome || s.isOpen || s.format == some "binary" ||
        s.kind.any Kind.isBuiltIn := by
  rcases s with ⟨type, format, nullable, description, deprecated, properties, required,
    additional, items, enum, _ | oneOf, _ | allOf, _ | anyOf⟩
  · dsimp only at he
    rw [he]
    cases items with
    | none => rfl
    | some slot => rfl
  all_goals exact absurd hc (by simp only [combination, reduceCtorEq, not_false_eq_true])

/-- Which schemas that hold no others have a shape. -/
theorem leaf_isSome (s : Schema) (keepDates : Bool) (direction : Direction) :
    (s.leaf keepDates direction).isSome
      = (s.format == some "binary" || s.kind.any Kind.isBuiltIn) := by
  unfold leaf
  by_cases hb : (s.format == some "binary") = true
  · rw [if_pos hb, hb]
    rfl
  · rw [if_neg hb, Bool.eq_false_iff.mpr hb, Bool.false_or, Option.isSome_map]
    -- The kinds with a built-in type are those that `primitive` answers for.
    unfold primitive
    cases hkind : s.kind with
    | none => rfl
    | some kind => cases kind <;> rfl

end Schema

/-- An enumeration has a shape when it has members. -/
theorem literals_isSome (s : Schema) (members : List EnumMember) :
    (s.literals members).isSome = !members.isEmpty := by
  unfold Schema.literals
  cases members.isEmpty <;> rfl

theorem combine_isSome (c : Combinator) (nodes : List TypeNode) :
    (combine c nodes).isSome = !nodes.isEmpty := by
  unfold combine
  cases nodes.isEmpty <;> rfl

/-- Typing a slot gives a node when what stands there has a type. The inline schemas
    are left to a hypothesis. -/
theorem slot_isSome_of {setting : Setting} {direction : Direction} {slot : Slot Schema}
    (hinline : ∀ s, Slot.inline s = slot → ∀ v, (typeSchema setting direction s).Yields v →
      v.isSome = s.hasType) {v : Option TypeNode}
    (h : (typeSlot setting direction slot).Yields v) : v.isSome = slot.hasType := by
  cases slot with
  | reference pointer =>
      simp only [typeSlot, Logged.yields_bind, Logged.yields_pure] at h
      rcases h with ⟨target, _, rfl⟩
      rfl
  | inline s => exact hinline s rfl v h

/-- Typing members gives a node when one of them has a type. -/
theorem members_isEmpty_of {setting : Setting} {direction : Direction}
    {slots : List (Slot Schema)}
    (hinline : ∀ s, .inline s ∈ slots → ∀ v, (typeSchema setting direction s).Yields v →
      v.isSome = s.hasType) {nodes : List TypeNode}
    (h : (typeMembers setting direction slots).Yields nodes) :
    (!nodes.isEmpty) = anyHasType slots := by
  induction slots generalizing nodes with
  | nil =>
      rw [typeMembers, Logged.yields_pure] at h
      rw [← h]
      rfl
  | cons slot slots ih =>
      simp only [typeMembers, Logged.yields_bind, Logged.yields_pure] at h
      rcases h with ⟨v, hv, rest, hrest, rfl⟩
      have hfirst : v.isSome = slot.hasType :=
        slot_isSome_of (fun s hs => hinline s (hs ▸ List.mem_cons_self)) hv
      have hothers := ih (fun s hs => hinline s (List.mem_cons_of_mem slot hs)) hrest
      rw [anyHasType, ← hfirst, ← hothers]
      -- Whether the first member has a type decides, or else the others do.
      cases v <;> rfl

/-- Typing a schema gives a node exactly when the schema has a type. -/
theorem typeSchema_isSome {setting : Setting} {direction : Direction} (s : Schema) :
    ∀ v, (typeSchema setting direction s).Yields v → v.isSome = s.hasType := by
  induction s using Schema.inductionOn with
  | step s ih =>
      intro v hv
      rcases typeSchema_yields hv with ⟨shape, hshape, rfl⟩
      rw [Option.isSome_map]
      -- Every outcome of typing is one line of `hasType`.
      cases hshape with
      | combined hc hm =>
          rw [combine_isSome, Schema.hasType_of_combination hc]
          exact members_isEmpty_of
            (fun t ht => ih t (Schema.mem_slots_of_combination hc ht)) hm
      | literals hc he => rw [literals_isSome, Schema.hasType_of_enum hc he]
      | array hc he hk hi ht =>
          rw [Schema.hasType_of_plain hc he, if_pos hk, hi, Option.any_some, Option.isSome_map]
          exact slot_isSome_of (fun t heq => ih t (heq ▸ Schema.mem_slots_of_items hi)) ht
      | itemless hc he hk hi =>
          rw [Schema.hasType_of_plain hc he, if_pos hk, hi]
          rfl
      | object hc he hk ho _ _ =>
          rw [Schema.hasType_of_plain hc he, if_neg hk, ho]
          rfl
      | leaf hc he hk ho =>
          rw [Schema.hasType_of_plain hc he, if_neg hk, ho, Bool.false_or, s.leaf_isSome]

/-- Typing a slot gives a node exactly when what stands there has a type. -/
theorem typeSlot_isSome {setting : Setting} {direction : Direction} {slot : Slot Schema}
    {v : Option TypeNode} (h : (typeSlot setting direction slot).Yields v) :
    v.isSome = slot.hasType :=
  slot_isSome_of (fun s _ => typeSchema_isSome s) h

end RouteTypes
