import RouteTypes.Proofs.Chains
import RouteTypes.Proofs.SchemaChildren
import Mathlib.Data.Set.Insert

/-!
# What Typing Needs of References

Which references are looked at, and what is asked of each.

Two things can be asked. Where a type is named, the reference has to lead to an entry;
where a definition is looked up, its chain has to arrive at one. Both are written down
with the registry that belongs to the place of the reference, whether or not it is
checked. A computation `Checks` a set of such needs when it succeeds only if all are
met, and fails only with the error of one that is not. Needs of the parts of a
computation then add up, so what a whole document needs is found by following its
parts, without a thought of the order in which errors are met.

This is done here for schemas. Typing does not look everywhere in a schema: the keyword
that decides leaves the others alone, and deprecated properties are skipped
(`Schema.visited`).

## Main definitions

* `Need`: A reference, the registry of its place, and what is asked of it.
* `Components.fault?`: The error when a need is not met.
* `Checks`: A computation looks at certain needs and at nothing else.
* `Slot.Mentions`: A reference in a schema that typing looks at.
* `Slot.needs`, `Schema.needs`: What typing needs for a schema.

## Theorems

* `Components.fault?_name_eq_none_iff`, `Components.fault?_definition_eq_none_iff`: When
  a need is met.
* `Checks.bind`, `Checks.mapM`: The needs of a sequence and of a repeated step.
* `typeSchema_checks`, `typeSlot_checks`: Typing a schema looks at its needs.
-/

namespace RouteTypes

/-- What is asked of a reference. The registry is the one that belongs to the place
    where the reference stands. -/
inductive Need where
  /-- A type is named, so there has to be an entry. -/
  | name (registry : Registry) (reference : String)
  /-- A definition is looked up, so the chain has to arrive at one. -/
  | definition (registry : Registry) (reference : String)
  deriving DecidableEq, Repr

namespace Need

/-- The registry that belongs to the place of the reference. -/
def registry : Need → Registry
  | name registry _ => registry
  | definition registry _ => registry

/-- The text of the reference. -/
def reference : Need → String
  | name _ reference => reference
  | definition _ reference => reference

/-- A need is to name a type or to look up a definition. -/
theorem exists_iff {P : Need → Prop} :
    (∃ m, P m) ↔ (∃ registry r, P (name registry r)) ∨ ∃ registry r, P (definition registry r) := by
  constructor
  · rintro ⟨⟨registry, r⟩ | ⟨registry, r⟩, h⟩
    · exact Or.inl ⟨registry, r, h⟩
    · exact Or.inr ⟨registry, r, h⟩
  · rintro (⟨registry, r, h⟩ | ⟨registry, r, h⟩)
    · exact ⟨_, h⟩
    · exact ⟨_, h⟩

end Need

/-- The error of an outcome, if it is one. -/
def errorOf {ε α : Type} : Except ε α → Option ε
  | .error e => some e
  | .ok _ => none

/-- An outcome has no error when it is a value. -/
theorem errorOf_eq_none_iff {ε α : Type} {x : Except ε α} :
    errorOf x = none ↔ ∃ a, x = .ok a := by
  cases x <;> simp [errorOf]

theorem errorOf_eq_some_iff {ε α : Type} {x : Except ε α} {e : ε} :
    errorOf x = some e ↔ x = .error e := by
  cases x <;> simp [errorOf]

namespace Components

/-- The error when a reference is followed in a registry. -/
def followFault? (c : Components) : Registry → String → Option CompileError
  | .schemas, reference => errorOf (c.schema reference)
  | .parameters, reference => errorOf (c.parameter reference)
  | .requestBodies, reference => errorOf (c.requestBody reference)
  | .responses, reference => errorOf (c.response reference)
  | .headers, reference => errorOf (follow .headers c.headers reference)

/-- The error when a need is not met. -/
def fault? (c : Components) : Need → Option CompileError
  | .name _ reference => errorOf (c.typeRef "" reference)
  | .definition registry reference => c.followFault? registry reference

/-- A type is named after the entry of its reference, if there is one, in any registry. -/
theorem typeRef_eq_ok_iff {c : Components} {space reference : String} {r : TypeRef} :
    c.typeRef space reference = .ok r ↔
      ∃ p, Pointer.parse reference = .ok p ∧ (p.registry, p.key) ∈ c.entryKeys ∧
        r = { space, name := Text.typeName p.key, property := p.property } := by
  unfold typeRef
  cases hp : Pointer.parse reference with
  | error e => simp
  | ok p =>
      dsimp only
      by_cases hc : c.contains p.registry p.key = true
      · have hmem := (c.mem_entryKeys (p.registry, p.key)).mpr ((c.contains_iff _ _).mp hc)
        simp [hc, hmem, eq_comm]
      · have hmem : (p.registry, p.key) ∉ c.entryKeys := fun h =>
          hc ((c.contains_iff _ _).mpr ((c.mem_entryKeys _).mp h))
        simp [hc, hmem]

/-- The namespace of a type makes no difference to whether it can be named. -/
theorem errorOf_typeRef (c : Components) (space reference : String) :
    errorOf (c.typeRef space reference) = errorOf (c.typeRef "" reference) := by
  unfold typeRef
  cases Pointer.parse reference with
  | error e => rfl
  | ok p =>
      dsimp only
      split <;> rfl

/-- A type can be named when its reference leads to an entry, in any registry. -/
theorem fault?_name_eq_none_iff {c : Components} {registry : Registry} {reference : String} :
    c.fault? (.name registry reference) = none ↔
      ∃ p, Pointer.parse reference = .ok p ∧ (p.registry, p.key) ∈ c.entryKeys := by
  rw [fault?, errorOf_eq_none_iff]
  simp only [typeRef_eq_ok_iff]
  constructor
  · rintro ⟨r, p, hp, hmem, _⟩
    exact ⟨p, hp, hmem⟩
  · rintro ⟨p, hp, hmem⟩
    exact ⟨_, p, hp, hmem, rfl⟩

/-- A definition can be looked up when the chain arrives at one. -/
theorem fault?_definition_eq_none_iff {c : Components} {registry : Registry}
    {reference : String} :
    c.fault? (.definition registry reference) = none ↔ c.Arrives registry reference := by
  cases registry with
  | schemas => exact errorOf_eq_none_iff.trans (arrives_iff_follow fun _ => rfl).symm
  | parameters => exact errorOf_eq_none_iff.trans (arrives_iff_follow fun _ => rfl).symm
  | requestBodies => exact errorOf_eq_none_iff.trans (arrives_iff_follow fun _ => rfl).symm
  | responses => exact errorOf_eq_none_iff.trans (arrives_iff_follow fun _ => rfl).symm
  | headers => exact errorOf_eq_none_iff.trans (arrives_iff_follow fun _ => rfl).symm

end Components

/-- The computation succeeds only when all needs are met, and fails only with the error
    of one that is not. -/
structure Checks {α : Type} (c : Components) (x : Typing α) (needs : Set Need) : Prop where
  met : ∀ a, x.Yields a → ∀ m ∈ needs, c.fault? m = none
  fault : ∀ e, x.Fails e → ∃ m ∈ needs, c.fault? m = some e

namespace Checks

variable {α β : Type} {c : Components} {x : Typing α} {needs more : Set Need}

theorem congr (h : Checks c x needs) (hn : ∀ m, m ∈ needs ↔ m ∈ more) : Checks c x more :=
  Set.ext hn ▸ h

theorem pure (a : α) : Checks c (Pure.pure a : Typing α) ∅ where
  met _ _ m hm := absurd hm (Set.notMem_empty m)
  fault e h := absurd h (Logged.fails_pure a e)

theorem report (event : CompileEvent) : Checks c (Logged.report event : Typing Unit) ∅ where
  met _ _ m hm := absurd hm (Set.notMem_empty m)
  fault e h := absurd h (Logged.fails_report event e)

/-- The needs of a sequence are those of its parts. The second part may need different
    things after different values of the first. -/
theorem bind {f : α → Typing β} {after : α → Set Need} (hx : Checks c x needs)
    (hf : ∀ a, x.Yields a → Checks c (f a) (after a)) :
    Checks c (x >>= f) (needs ∪ {m | ∃ a, x.Yields a ∧ m ∈ after a}) where
  met b h := by
    rcases (Logged.yields_bind x f b).mp h with ⟨a, ha, hb⟩
    rintro m (hm | ⟨a', ha', hm⟩)
    · exact hx.met a ha m hm
    · -- A computation has one value, so what counts after it is what counts after this one.
      rw [ha'.unique ha] at hm
      exact (hf a ha).met b hb m hm
  fault e h := by
    rcases (Logged.fails_bind x f e).mp h with h | ⟨a, ha, h⟩
    · rcases hx.fault e h with ⟨m, hm, hfault⟩
      exact ⟨m, Or.inl hm, hfault⟩
    · rcases (hf a ha).fault e h with ⟨m, hm, hfault⟩
      exact ⟨m, Or.inr ⟨a, ha, hm⟩, hfault⟩

/-- A sequence whose second part always needs the same. -/
theorem andThen {f : α → Typing β} (hx : Checks c x needs)
    (hf : ∀ a, x.Yields a → Checks c (f a) more) : Checks c (x >>= f) (needs ∪ more) where
  met b h m hm := by
    rcases (Logged.yields_bind x f b).mp h with ⟨a, ha, _⟩
    exact (hx.bind hf).met b h m (hm.imp_right fun hm => ⟨a, ha, hm⟩)
  fault e h := by
    rcases ((hx.bind hf).fault e h) with ⟨m, hm | ⟨a, _, hm⟩, hfault⟩
    · exact ⟨m, Or.inl hm, hfault⟩
    · exact ⟨m, Or.inr hm, hfault⟩

/-- A sequence whose second part needs nothing. -/
theorem bindPure {f : α → Typing β} (hx : Checks c x needs)
    (hf : ∀ a, x.Yields a → Checks c (f a) ∅) : Checks c (x >>= f) needs :=
  (hx.andThen hf).congr fun _ => by simp only [Set.union_empty]

/-- A sequence whose first part needs nothing. -/
theorem pureBind {f : α → Typing β} (hx : Checks c x ∅)
    (hf : ∀ a, x.Yields a → Checks c (f a) needs) : Checks c (x >>= f) needs :=
  (hx.andThen hf).congr fun _ => by simp only [Set.empty_union]

theorem map (f : α → β) (hx : Checks c x needs) : Checks c (f <$> x) needs := by
  rw [← bind_pure_comp]
  exact hx.bindPure fun a _ => Checks.pure (f a)

theorem seq {g : Typing (α → β)} (hg : Checks c g needs) (hx : Checks c x more) :
    Checks c (g <*> x) (needs ∪ more) := by
  rw [seq_eq_bind_map]
  exact hg.andThen fun f _ => hx.map f

/-- A repeated step needs what it needs for each element. -/
theorem mapM {f : α → Typing β} {xs : List α} {needsOf : α → Set Need}
    (h : ∀ x ∈ xs, Checks c (f x) (needsOf x)) :
    Checks c (xs.mapM f) {m | ∃ x ∈ xs, m ∈ needsOf x} where
  met ys hys := by
    rintro m ⟨x, hx, hm⟩
    rcases Logged.exists_of_mem hys hx with ⟨y, _, hy⟩
    exact (h x hx).met y hy m hm
  fault e he := by
    rcases Logged.exists_of_fails_mapM he with ⟨x, hx, he⟩
    rcases (h x hx).fault e he with ⟨m, hm, hfault⟩
    exact ⟨m, ⟨x, hx, hm⟩, hfault⟩

/-- A step that can fail in one way only needs that not to happen. -/
theorem ofExcept {outcome : Except CompileError α} {m : Need}
    (h : errorOf outcome = c.fault? m) : Checks c (.ofExcept outcome : Typing α) {m} where
  met a ha m' hm' := by
    rw [Set.mem_singleton_iff.mp hm', ← h, errorOf_eq_none_iff]
    exact ⟨a, ha⟩
  fault e he := ⟨m, rfl, by rw [← h, errorOf_eq_some_iff]; exact he⟩

/-- What succeeds when everything it needs is met. -/
theorem exists_yields (h : Checks c x needs) (hm : ∀ m ∈ needs, c.fault? m = none) :
    ∃ a, x.Yields a := by
  rcases x.yields_or_fails with hx | ⟨e, he⟩
  · exact hx
  · rcases h.fault e he with ⟨m, hmem, hfault⟩
    rw [hm m hmem] at hfault
    exact absurd hfault (by simp only [reduceCtorEq, not_false_eq_true])

end Checks

/-- Naming the type of a reference needs an entry, whatever place it is named at. -/
theorem typeRef_checks (setting : Setting) (registry : Registry) (reference : String) :
    Checks setting.components (setting.typeRef reference) {.name registry reference} :=
  Checks.ofExcept (setting.components.errorOf_typeRef setting.options.space reference)

/-- Typing a slot looks at this reference, in the slot or anywhere below it. -/
inductive Slot.Mentions : Slot Schema → String → Prop where
  | here (reference : String) : Mentions (.reference reference) reference
  | inside {s : Schema} {slot : Slot Schema} {reference : String} (hs : slot ∈ s.visited)
      (h : slot.Mentions reference) : Mentions (.inline s) reference

/-- What typing needs for a slot: the types of all references it looks at can be named. -/
def Slot.needs (slot : Slot Schema) : Set Need :=
  {m | ∃ reference, slot.Mentions reference ∧ m = .name .schemas reference}

/-- What typing needs for several slots. -/
def slotsNeeds (slots : List (Slot Schema)) : Set Need :=
  {m | ∃ slot ∈ slots, m ∈ slot.needs}

/-- What typing needs for an inline schema. -/
def Schema.needs (s : Schema) : Set Need :=
  slotsNeeds s.visited

/-- A reference needs the one entry it names. -/
theorem Slot.needs_reference (reference : String) :
    (Slot.reference reference).needs = {.name .schemas reference} := by
  ext m
  constructor
  · rintro ⟨_, ⟨_⟩, rfl⟩
    rfl
  · rintro rfl
    exact ⟨reference, .here reference, rfl⟩

/-- An inline schema needs what stands in its visited slots needs. -/
theorem Slot.needs_inline (s : Schema) : (Slot.inline s).needs = s.needs := by
  ext m
  constructor
  · rintro ⟨reference, h, rfl⟩
    cases h with
    | inside hs h => exact ⟨_, hs, reference, h, rfl⟩
  · rintro ⟨slot, hs, reference, h, rfl⟩
    exact ⟨reference, .inside hs h, rfl⟩

theorem slotsNeeds_cons (slot : Slot Schema) (slots : List (Slot Schema)) :
    slotsNeeds (slot :: slots) = slot.needs ∪ slotsNeeds slots := by
  ext m
  simp [slotsNeeds]

theorem slotsNeeds_append (slots slots' : List (Slot Schema)) :
    slotsNeeds (slots ++ slots') = slotsNeeds slots ∪ slotsNeeds slots' := by
  ext m
  simp [slotsNeeds, or_and_right, exists_or]

section Schemas

variable {setting : Setting} {direction : Direction}

/-- The shape of a schema by the keyword that decides. -/
def Schema.typedShape (setting : Setting) (direction : Direction) (s : Schema) :
    Typing (Option Shape) :=
  match s.combination, s.enum with
  | some (combinator, members), _ => combine combinator <$> typeMembers setting direction members
  | none, some members => pure (s.literals members)
  | none, none =>
    if s.kind = some .array then
      match s.items with
      | some slot => Option.map Shape.array <$> typeSlot setting direction slot
      | none => pure none
    else if s.properties.isSome || s.isOpen then
      (fun own other => some (.object (own ++ other))) <$> s.typedOwn setting direction <*>
        s.typedFurther setting direction
    else pure (s.leaf setting.options.keepDates direction)

/-- A schema is typed in two steps: its shape, and what is put around the shape. -/
theorem typeSchema_eq (s : Schema) :
    typeSchema setting direction s = s.typedShape setting direction >>= s.node := by
  -- One case for each keyword that may decide; only the object takes more than unfolding.
  rcases s with ⟨type, format, nullable, description, deprecated, properties, required,
    additional, items, enum, _ | oneOf, _ | allOf, _ | anyOf⟩
  · cases enum with
    | some members => rfl
    | none =>
        -- The properties are matched on in definitions of their own here.
        rcases additional with _ | (_ | _) | slot <;> cases properties <;> cases items <;> rfl
  all_goals rfl

/-- Description and null are added without looking at a reference. -/
theorem node_checks (s : Schema) (shape : Option Shape) :
    Checks setting.components (s.node shape) ∅ := by
  cases shape with
  | none => exact (Checks.report _).pureBind fun _ _ => Checks.pure none
  | some shape => exact Checks.pure _

/-- A slot needs what its schema needs when it is one, and its entry when it is a reference.
    -/
theorem slot_checks_of {slot : Slot Schema}
    (hinline : ∀ s, Slot.inline s = slot →
      Checks setting.components (typeSchema setting direction s) s.needs) :
    Checks setting.components (typeSlot setting direction slot) slot.needs := by
  cases slot with
  | reference reference =>
      rw [Slot.needs_reference]
      exact (typeRef_checks setting .schemas reference).bindPure fun r _ => Checks.pure _
  | inline s =>
      rw [Slot.needs_inline]
      exact hinline s rfl

/-- The members of a combination need what each of them needs. -/
theorem members_checks_of {slots : List (Slot Schema)}
    (hinline : ∀ s, .inline s ∈ slots →
      Checks setting.components (typeSchema setting direction s) s.needs) :
    Checks setting.components (typeMembers setting direction slots) (slotsNeeds slots) := by
  induction slots with
  | nil => exact (Checks.pure []).congr fun m => by simp [slotsNeeds]
  | cons slot slots ih =>
      rw [slotsNeeds_cons]
      have hfirst : Checks setting.components (typeSlot setting direction slot) slot.needs :=
        slot_checks_of fun s hs => hinline s (hs ▸ List.mem_cons_self)
      have hrest := ih fun s hs => hinline s (List.mem_cons_of_mem slot hs)
      exact hfirst.andThen fun _ _ => hrest.bindPure fun _ _ => Checks.pure _

/-- A deprecated property is skipped, so nothing is needed for it. -/
theorem properties_checks_of {required : List String} {slots : List (String × Slot Schema)}
    (hinline : ∀ s, .inline s ∈ Schema.propertySlots slots →
      Checks setting.components (typeSchema setting direction s) s.needs) :
    Checks setting.components (typeProperties setting direction required slots)
      (slotsNeeds (Schema.propertySlots (slots.filter fun e => !e.2.isDeprecated))) := by
  induction slots with
  | nil => exact (Checks.pure []).congr fun m => by simp [slotsNeeds, Schema.propertySlots]
  | cons e slots ih =>
      rcases e with ⟨name, slot⟩
      have hrest := ih fun s hs => hinline s (List.mem_cons_of_mem slot hs)
      -- Whatever the first property adds, the others are typed after it.
      have hkept : ∀ own : List Property, Checks setting.components
          (pure own >>= fun own => typeProperties setting direction required slots >>=
            fun more => pure (own ++ more))
          (slotsNeeds (Schema.propertySlots (slots.filter fun e => !e.2.isDeprecated))) :=
        fun own => (Checks.pure own).pureBind fun own _ =>
          hrest.bindPure fun more _ => Checks.pure (own ++ more)
      unfold typeProperties
      cases slot with
      | reference reference =>
          rw [List.filter_cons_of_pos (by rfl), Schema.propertySlots, List.map_cons,
            slotsNeeds_cons, Slot.needs_reference]
          exact (typeRef_checks setting .schemas reference).andThen fun target _ => hkept _
      | inline s =>
          dsimp only
          by_cases hd : s.deprecated = true
          · rw [List.filter_cons_of_neg (by simp [Slot.isDeprecated, hd]), if_pos hd]
            exact (Checks.report _).pureBind fun _ _ => hkept _
          · rw [List.filter_cons_of_pos (by simp [Slot.isDeprecated, hd]), if_neg hd,
              Schema.propertySlots, List.map_cons, slotsNeeds_cons, Slot.needs_inline]
            exact (hinline s List.mem_cons_self).andThen fun value _ => hkept _

/-- The properties of the schema itself need those that are not deprecated. -/
theorem typedOwn_checks_of {s : Schema} (ih : ∀ t, .inline t ∈ s.slots →
      Checks setting.components (typeSchema setting direction t) t.needs) :
    Checks setting.components (s.typedOwn setting direction)
      (slotsNeeds (Schema.propertySlots
        ((s.properties.getD []).filter fun e => !e.2.isDeprecated))) := by
  unfold Schema.typedOwn
  split
  · next slots hslots =>
      rw [hslots, Option.getD_some]
      refine properties_checks_of fun t ht => ih t (Schema.mem_slots_of_properties ?_)
      rwa [hslots]
  · next hnone =>
      rw [hnone]
      exact (Checks.pure []).congr fun m => by simp [slotsNeeds, Schema.propertySlots]

/-- The schema of additional properties is a slot like any other, if there is one. -/
theorem typedFurther_checks_of {s : Schema} (ih : ∀ t, .inline t ∈ s.slots →
      Checks setting.components (typeSchema setting direction t) t.needs) :
    Checks setting.components (s.typedFurther setting direction)
      (slotsNeeds (Schema.additionalSlots s.additional)) := by
  -- In the other three cases no schema is there to look at.
  have hnone : ∀ qs : List Property, Checks setting.components (pure qs) (slotsNeeds []) :=
    fun qs => (Checks.pure qs).congr fun m => by simp [slotsNeeds]
  unfold Schema.typedFurther
  split
  · next slot hslot =>
      have hvalue : Checks setting.components (typeSlot setting direction slot) slot.needs := by
        refine slot_checks_of fun t heq => ih t (Schema.mem_slots_of_additional ?_)
        rw [hslot]
        exact List.mem_singleton.mpr heq
      rw [hslot]
      exact (hvalue.map indexProperties).congr fun m => by
        simp [slotsNeeds, Schema.additionalSlots]
  · next hyes =>
      rw [hyes]
      exact hnone _
  · next hno =>
      rw [hno]
      exact hnone _
  · next habsent =>
      rw [habsent]
      exact hnone _

/-- Typing an inline schema looks at the references in the slots that decide, and at no
    others. -/
theorem typeSchema_checks (s : Schema) :
    Checks setting.components (typeSchema setting direction s) s.needs := by
  induction s using Schema.inductionOn with
  | step s ih =>
      rw [typeSchema_eq]
      refine Checks.bindPure ?_ fun shape _ => node_checks s shape
      unfold Schema.typedShape Schema.needs Schema.visited
      -- The same keywords decide the shape and the slots that are visited.
      cases hc : s.combination with
      | some combination =>
          rcases combination with ⟨combinator, members⟩
          have hmembers := members_checks_of fun t ht =>
            ih t (Schema.mem_slots_of_combination hc ht)
          exact hmembers.map (combine combinator)
      | none =>
      cases he : s.enum with
      | some members => exact (Checks.pure _).congr fun m => by simp [slotsNeeds]
      | none =>
      simp only [Option.isSome_none, Bool.false_eq_true, if_false]
      by_cases hk : s.kind = some .array
      · rw [if_pos hk, if_pos hk]
        cases hi : s.items with
        | none => exact (Checks.pure _).congr fun m => by simp [slotsNeeds]
        | some slot =>
            have hitem : Checks setting.components (typeSlot setting direction slot)
                slot.needs :=
              slot_checks_of fun t heq => ih t (heq ▸ Schema.mem_slots_of_items hi)
            exact (hitem.map _).congr fun m => by simp [slotsNeeds]
      · rw [if_neg hk, if_neg hk]
        split
        · rw [slotsNeeds_append]
          exact ((typedOwn_checks_of ih).map _).seq (typedFurther_checks_of ih)
        -- What is left are the schemas that hold no others.
        · exact (Checks.pure _).congr fun m => by simp [slotsNeeds]

/-- Typing a slot looks at the references in it that decide, and at no others. -/
theorem typeSlot_checks (slot : Slot Schema) :
    Checks setting.components (typeSlot setting direction slot) slot.needs :=
  slot_checks_of fun s _ => typeSchema_checks s

end Schemas

end RouteTypes
