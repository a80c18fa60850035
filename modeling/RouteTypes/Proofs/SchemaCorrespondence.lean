import RouteTypes.Proofs.Comparison
import RouteTypes.Proofs.Needs
import RouteTypes.Proofs.Relabeling

/-!
# Corresponding Schemas

Schemas that are typed alike although they are not the same.

Typing does not look at everything in a schema. Of the `type` and `nullable` keywords it
only asks for the kind of value and whether `null` is allowed, and the schemas inside are
typed on their own. So two schemas correspond when they agree in what is asked and the
schemas inside them are related in turn (`Schema.Corresponds`). For a relation in which
related schemas always correspond, related schemas are typed alike.

The settings and directions of the two typings may differ as well, as long as a relabeling
turns the leaves that one gives into those that the other gives. The tree of the second
schema is then the relabeled tree of the first, and errors are the same, up to those that
are excused for references (`typeSchema_carries`).

Some differences are no matter of the schemas inside. A schema `Abridges` another when it is
typed alike in every setting and holds no schemas but some of the other's, and it is enough
that a schema corresponds to one that abridges the first (`typeSchema_carries_abridged`).

## Main definitions

* `Slot.Alike`, `Additional.Alike`, `SameKey`: Places with related contents.
* `Schema.Corresponds`: Two schemas that agree in what typing asks.
* `Schema.Abridges`: A schema that says the same with fewer schemas inside.
* `Relabeling.Fits`: A relabeling that makes up for the options of two callers.

## Theorems

* `leaf_relabel`: The shapes of schemas that hold no others.
* `typeSchema_carries_abridged`: Schemas that correspond once abridged are typed alike.
* `typeSchema_carries`, `typeSlot_carries`: So are those that correspond as they are.
-/

namespace RouteTypes

/-- Two slots with the same reference or with related definitions. -/
inductive Slot.Alike {α β : Type} (R : α → β → Prop) : Slot α → Slot β → Prop where
  | reference (pointer : String) : Alike R (.reference pointer) (.reference pointer)
  | inline {a : α} {b : β} (h : R a b) : Alike R (.inline a) (.inline b)

/-- Two answers to whether further keys are allowed, with related schemas for them. -/
inductive Additional.Alike {α β : Type} (R : α → β → Prop) :
    Additional α → Additional β → Prop where
  | allowed (yes : Bool) : Alike R (.allowed yes) (.allowed yes)
  | typed {slot : Slot α} {slot' : Slot β} (h : slot.Alike R slot') :
      Alike R (.typed slot) (.typed slot')

/-- Two entries with the same key and related values. -/
inductive SameKey {κ α β : Type} (R : α → β → Prop) : κ × α → κ × β → Prop where
  | mk (key : κ) {a : α} {b : β} (h : R a b) : SameKey R (key, a) (key, b)

section Reflexivity

variable {κ α : Type} {R : α → α → Prop}

theorem Slot.Alike.refl (h : ∀ a, R a a) (slot : Slot α) : slot.Alike R slot := by
  cases slot with
  | reference pointer => exact .reference pointer
  | inline a => exact .inline (h a)

theorem Additional.Alike.refl (h : ∀ a, R a a) (additional : Additional α) :
    additional.Alike R additional := by
  cases additional with
  | allowed yes => exact .allowed yes
  | typed slot => exact .typed (.refl h slot)

theorem SameKey.refl (h : ∀ a, R a a) (e : κ × α) : SameKey R e e :=
  .mk e.1 (h e.2)

theorem optionRel_refl (h : ∀ a, R a a) (a : Option α) : Option.Rel R a a := by
  cases a with
  | none => exact .none
  | some a => exact .some (h a)

end Reflexivity

/-- Related optional values are both there or both missing. -/
theorem isSome_eq_of_rel {α β : Type} {R : α → β → Prop} {a : Option α} {b : Option β}
    (h : Option.Rel R a b) : a.isSome = b.isSome := by
  cases h <;> rfl

/-- Two schemas that agree in what typing asks, and whose parts are related. -/
structure Schema.Corresponds (R : Schema → Schema → Prop) (s s' : Schema) : Prop where
  kind : s.kind = s'.kind
  isNullable : s.isNullable = s'.isNullable
  format : s.format = s'.format
  description : s.description = s'.description
  deprecated : s.deprecated = s'.deprecated
  properties : Option.Rel (List.Forall₂ (SameKey (Slot.Alike R))) s.properties s'.properties
  required : s.required = s'.required
  additional : Option.Rel (Additional.Alike R) s.additional s'.additional
  items : Option.Rel (Slot.Alike R) s.items s'.items
  enum : s.enum = s'.enum
  oneOf : Option.Rel (List.Forall₂ (Slot.Alike R)) s.oneOf s'.oneOf
  allOf : Option.Rel (List.Forall₂ (Slot.Alike R)) s.allOf s'.allOf
  anyOf : Option.Rel (List.Forall₂ (Slot.Alike R)) s.anyOf s'.anyOf

namespace Schema.Corresponds

variable {R : Schema → Schema → Prop} {s s' : Schema}

/-- Every schema corresponds to itself. -/
theorem refl (s : Schema) : s.Corresponds Eq s := by
  have hslot : ∀ slot : Slot Schema, slot.Alike Eq slot := Slot.Alike.refl fun _ => rfl
  have hslots : ∀ slots : List (Slot Schema), List.Forall₂ (Slot.Alike Eq) slots slots :=
    fun _ => List.forall₂_same.mpr fun slot _ => hslot slot
  have hproperties : ∀ slots : List (String × Slot Schema),
      List.Forall₂ (SameKey (Slot.Alike Eq)) slots slots :=
    fun _ => List.forall₂_same.mpr fun e _ => SameKey.refl hslot e
  exact {
    kind := rfl
    isNullable := rfl
    format := rfl
    description := rfl
    deprecated := rfl
    properties := optionRel_refl hproperties _
    required := rfl
    additional := optionRel_refl (Additional.Alike.refl fun _ => rfl) _
    items := optionRel_refl hslot _
    enum := rfl
    oneOf := optionRel_refl hslots _
    allOf := optionRel_refl hslots _
    anyOf := optionRel_refl hslots _ }

/-- Corresponding schemas are open to further keys alike. -/
theorem isOpen (h : s.Corresponds R s') : s.isOpen = s'.isOpen := by
  have hadditional := h.additional
  unfold Schema.isOpen
  generalize s.additional = additional at hadditional
  generalize s'.additional = additional' at hadditional
  cases hadditional with
  | none => rfl
  | some hsome => cases hsome <;> rfl

/-- They declare properties alike, if any. -/
theorem properties_isSome (h : s.Corresponds R s') :
    s.properties.isSome = s'.properties.isSome :=
  isSome_eq_of_rel h.properties

/-- The same combinator decides, and its members are related. -/
theorem combination (h : s.Corresponds R s') :
    Option.Rel (SameKey (List.Forall₂ (Slot.Alike R))) s.combination s'.combination := by
  have honeOf := h.oneOf
  have hallOf := h.allOf
  have hanyOf := h.anyOf
  unfold Schema.combination
  generalize s.oneOf = oneOf, s.allOf = allOf, s.anyOf = anyOf at honeOf hallOf hanyOf
  generalize s'.oneOf = oneOf', s'.allOf = allOf', s'.anyOf = anyOf' at honeOf hallOf hanyOf
  -- The combinators are tried in turn, and a keyword is missing on both sides or on neither.
  cases honeOf with
  | some hone => exact .some (.mk _ hone)
  | none =>
      cases hallOf with
      | some hall => exact .some (.mk _ hall)
      | none =>
          cases hanyOf with
          | some hany => exact .some (.mk _ hany)
          | none => exact .none

/-- Enumerations are written alike, because the kinds are the same. -/
theorem literals (h : s.Corresponds R s') (members : List EnumMember) :
    s.literals members = s'.literals members := by
  unfold Schema.literals
  rw [h.kind]

end Schema.Corresponds

/-- The type of a point in time. -/
def Options.timeType (options : Options) : Primitive :=
  if options.keepDates then .date else .string

/-- The relabeling turns what one caller asks for into what the other asks for. -/
structure Relabeling.Fits (ρ : Relabeling) (options options' : Options) : Prop where
  timeType : ρ.primitive options.timeType = options'.timeType
  space : ρ.space options.space = options'.space

/-- The relabeling that changes nothing fits two callers who ask for the same. -/
theorem Relabeling.fits_id (options : Options) : Relabeling.Fits {} options options where
  timeType := Relabeling.primitive_id _
  space := rfl

section Leaves

variable {ρ : Relabeling} {options options' : Options} {direction direction' : Direction}

/-- The built-in types of two schemas differ only in the type of a point in time. -/
theorem primitive_relabel (h : ρ.Fits options options') {s s' : Schema}
    (hkind : s.kind = s'.kind) (hformat : s.format = s'.format) :
    (s.primitive options.keepDates).map ρ.primitive = s'.primitive options'.keepDates := by
  unfold Schema.primitive
  rw [hkind, hformat]
  cases s'.kind with
  | none => rfl
  | some kind =>
      cases kind with
      | string =>
          -- Only a point in time has a type that depends on the caller.
          by_cases htime : (s'.format == some "date-time") = true
          · simp only [htime, Bool.and_true, Option.map_some]
            exact congrArg some h.timeType
          · simp only [htime, Bool.and_false, Bool.false_eq_true, if_false, Option.map_some]
            rfl
      | number | integer | boolean | array | object | null => rfl

/-- The shapes of two schemas that hold no others. -/
theorem leaf_relabel (h : ρ.Fits options options')
    (hbinary : ρ.binary direction.binary = direction'.binary) {s s' : Schema}
    (hkind : s.kind = s'.kind) (hformat : s.format = s'.format) :
    (s.leaf options.keepDates direction).map (·.relabel ρ)
      = s'.leaf options'.keepDates direction' := by
  unfold Schema.leaf
  rw [← primitive_relabel h hkind hformat, hformat]
  split
  · exact congrArg (fun kind => some (Shape.binary kind)) hbinary
  · rw [Option.map_map, Option.map_map]
    rfl

/-- References to entries that both documents have are named alike. -/
theorem typeRef_mapsTo {setting setting' : Setting}
    (hcontains : setting.components.contains = setting'.components.contains)
    (hspace : ρ.space setting.options.space = setting'.options.space) (pointer : String) :
    Logged.MapsTo ρ.reference (setting.typeRef pointer) (setting'.typeRef pointer) := by
  -- Both documents have the same entries, so both look-ups fail or succeed together.
  unfold Setting.typeRef Components.typeRef
  rw [hcontains, ← hspace]
  cases Pointer.parse pointer with
  | error e => exact .fail e
  | ok p =>
      dsimp only
      split
      · exact .pure rfl
      · exact .fail _

end Leaves

/-- A schema that is typed like the second one, with no schemas in it but some of those in
    the second. -/
structure Schema.Abridges (t s : Schema) : Prop where
  deprecated : t.deprecated = s.deprecated
  slots : ∀ slot ∈ t.slots, slot ∈ s.slots
  outcome_eq : ∀ setting direction,
    (typeSchema setting direction s).outcome = (typeSchema setting direction t).outcome

theorem Schema.Abridges.refl (s : Schema) : s.Abridges s where
  deprecated := rfl
  slots _ hslot := hslot
  outcome_eq _ _ := rfl

section Typing

variable {excused : CompileError → Prop} {R : Schema → Schema → Prop} {ρ : Relabeling}
  {setting setting' : Setting} {direction direction' : Direction}

/-- Two nodes around corresponding shapes. -/
theorem node_carries {s s' : Schema} (h : s.Corresponds R s') (shape : Option Shape) :
    Logged.Carries excused (Option.map (·.relabel ρ)) (s.node shape)
      (s'.node (shape.map (·.relabel ρ))) := by
  cases shape with
  | none =>
      -- The reports may differ, because a schema is reported with its `type` keyword.
      exact (Logged.Reduces.report _ _).bind fun _ _ _ _ _ => .pure rfl
  | some shape =>
      refine .pure ?_
      rw [← h.isNullable, ← h.description]
      rfl

variable (hrefs : ∀ r, Logged.Carries excused ρ.reference (setting.typeRef r) (setting'.typeRef r))
include hrefs

/-- Related slots are typed alike when the schemas in them are. -/
theorem slot_carries_of {slot slot' : Slot Schema} (h : slot.Alike R slot')
    (ih : ∀ s, Slot.inline s = slot → ∀ s', R s s' →
      Logged.Carries excused (Option.map (·.relabel ρ))
        (typeSchema setting direction s) (typeSchema setting' direction' s')) :
    Logged.Carries excused (Option.map (·.relabel ρ)) (typeSlot setting direction slot)
      (typeSlot setting' direction' slot') := by
  cases h with
  | reference pointer => exact (hrefs pointer).bind fun _ => .pure rfl
  | inline h => exact ih _ rfl _ h

/-- Members are typed alike when the schemas in them are, along both lists. -/
theorem members_carries_of {slots slots' : List (Slot Schema)}
    (h : List.Forall₂ (Slot.Alike R) slots slots')
    (ih : ∀ s, .inline s ∈ slots → ∀ s', R s s' → Logged.Carries excused (Option.map (·.relabel ρ))
      (typeSchema setting direction s) (typeSchema setting' direction' s')) :
    Logged.Carries excused (List.map (·.relabel ρ)) (typeMembers setting direction slots)
      (typeMembers setting' direction' slots') := by
  induction h with
  | nil => exact .pure rfl
  | @cons slot slot' slots slots' hslot _ hrest =>
      have hfirst : Logged.Carries excused (Option.map (·.relabel ρ))
          (typeSlot setting direction slot) (typeSlot setting' direction' slot') :=
        slot_carries_of hrefs hslot fun s hs => ih s (hs ▸ List.mem_cons_self)
      have hmore := hrest fun s hs => ih s (List.mem_cons_of_mem slot hs)
      refine hfirst.bind fun node => hmore.bind fun nodes => .pure ?_
      -- A member without a type adds nothing on either side.
      cases node with
      | none => rfl
      | some node => rfl

variable (hR : ∀ s s', R s s' → s.Corresponds R s')
  (hdeprecated : ∀ s s', R s s' → s.deprecated = s'.deprecated)
include hdeprecated

/-- Related properties are skipped together or typed alike. -/
theorem properties_carries_of {required : List String} {slots slots' : List (String × Slot Schema)}
    (h : List.Forall₂ (SameKey (Slot.Alike R)) slots slots')
    (ih : ∀ s, .inline s ∈ Schema.propertySlots slots → ∀ s', R s s' →
      Logged.Carries excused (Option.map (·.relabel ρ))
        (typeSchema setting direction s) (typeSchema setting' direction' s')) :
    Logged.Carries excused (List.map (·.relabel ρ))
      (typeProperties setting direction required slots)
      (typeProperties setting' direction' required slots') := by
  induction h with
  | nil => exact .pure rfl
  | @cons _ _ slots slots' hslot _ hrest =>
      rcases hslot with ⟨name, hslot⟩
      -- Whatever the first property adds, the others are typed after it.
      have hmore : ∀ own : List Property, Logged.Carries excused (List.map (·.relabel ρ))
          (typeProperties setting direction required slots >>= fun more => pure (own ++ more))
          (typeProperties setting' direction' required slots' >>= fun more =>
            pure (own.map (·.relabel ρ) ++ more)) := by
        intro own
        have hothers := hrest fun s hs => ih s (List.mem_cons_of_mem _ hs)
        exact hothers.bind fun more => .pure List.map_append
      unfold typeProperties
      cases hslot with
      | reference pointer =>
          refine (hrefs pointer).bind fun target => ?_
          exact Logged.Carries.bind (.pure (fields_relabel ρ required name _)) hmore
      | @inline s s' h =>
          dsimp only
          rw [← hdeprecated s s' h]
          split
          · refine (Logged.Reduces.report _ _).bind fun _ _ _ _ _ => ?_
            exact Logged.Carries.bind (.pure rfl) hmore
          · have hvalue := ih s List.mem_cons_self s' h
            refine hvalue.bind fun value => ?_
            exact Logged.Carries.bind (.pure (fields_relabel ρ required name value)) hmore

/-- The declared properties are typed alike when the schemas in them are. -/
theorem typedOwn_carries_of {s s' : Schema} (h : s.Corresponds R s')
    (ih : ∀ t, .inline t ∈ s.slots → ∀ t', R t t' →
      Logged.Carries excused (Option.map (·.relabel ρ))
        (typeSchema setting direction t) (typeSchema setting' direction' t')) :
    Logged.Carries excused (List.map (·.relabel ρ)) (s.typedOwn setting direction)
      (s'.typedOwn setting' direction') := by
  have hproperties := h.properties
  unfold Schema.typedOwn
  rw [← h.required]
  generalize hs : s.properties = properties at hproperties ⊢
  generalize s'.properties = properties' at hproperties ⊢
  cases hproperties with
  | none => exact .pure rfl
  | some hslots =>
      -- What stands in the properties stands in a slot of the schema, so the hypothesis covers it.
      refine properties_carries_of hrefs hdeprecated hslots fun t ht => ih t ?_
      refine Schema.mem_slots_of_properties ?_
      rwa [hs]

omit hdeprecated in
/-- The properties for further keys are typed alike when the schema for them is. -/
theorem typedFurther_carries_of {s s' : Schema} (h : s.Corresponds R s')
    (ih : ∀ t, .inline t ∈ s.slots → ∀ t', R t t' →
      Logged.Carries excused (Option.map (·.relabel ρ))
        (typeSchema setting direction t) (typeSchema setting' direction' t')) :
    Logged.Carries excused (List.map (·.relabel ρ)) (s.typedFurther setting direction)
      (s'.typedFurther setting' direction') := by
  have hadditional := h.additional
  unfold Schema.typedFurther
  generalize hs : s.additional = additional at hadditional ⊢
  generalize s'.additional = additional' at hadditional ⊢
  cases hadditional with
  | none => exact .pure rfl
  | some hsome =>
      cases hsome with
      | allowed yes =>
          cases yes with
          | false => exact .pure rfl
          | true => exact .pure (indexProperties_relabel ρ _)
      | @typed slot slot' hslot =>
          have hvalue : Logged.Carries excused (Option.map (·.relabel ρ))
              (typeSlot setting direction slot) (typeSlot setting' direction' slot') := by
            refine slot_carries_of hrefs hslot fun t heq => ih t ?_
            refine Schema.mem_slots_of_additional ?_
            rw [hs]
            exact List.mem_singleton.mpr heq
          exact hvalue.map fun v v' hv => by rw [indexProperties_relabel, hv]

variable (hfits : ρ.Fits setting.options setting'.options)
  (hbinary : ρ.binary direction.binary = direction'.binary)
include hfits hbinary

/-- Corresponding schemas have the same shape, but for the labels. -/
theorem typedShape_carries_of {s s' : Schema} (h : s.Corresponds R s')
    (ih : ∀ t, .inline t ∈ s.slots → ∀ t', R t t' →
      Logged.Carries excused (Option.map (·.relabel ρ))
        (typeSchema setting direction t) (typeSchema setting' direction' t')) :
    Logged.Carries excused (Option.map (·.relabel ρ)) (s.typedShape setting direction)
      (s'.typedShape setting' direction') := by
  have hcombination := h.combination
  unfold Schema.typedShape
  rw [← h.enum, ← h.kind, ← h.isOpen, ← h.properties_isSome]
  generalize hc : s.combination = combination at hcombination ⊢
  generalize s'.combination = combination' at hcombination ⊢
  -- The keywords are tried in the order in which they decide.
  cases hcombination with
  | some hsome =>
      rcases hsome with ⟨combinator, hmembers⟩
      have hnodes := members_carries_of hrefs hmembers fun t ht =>
        ih t (Schema.mem_slots_of_combination hc ht)
      exact hnodes.map fun ns ns' hns => by rw [combine_relabel, hns]
  | none =>
      cases s.enum with
      | some members =>
          dsimp only
          rw [← h.literals]
          exact .pure (literals_relabel ρ s members)
      | none =>
          dsimp only
          -- An array without items comes to nothing on both sides.
          by_cases hk : s.kind = some .array
          · rw [if_pos hk, if_pos hk]
            have hitems := h.items
            generalize hi : s.items = items at hitems ⊢
            generalize s'.items = items' at hitems ⊢
            cases hitems with
            | none => exact .pure rfl
            | some hslot =>
                have hitem := slot_carries_of hrefs hslot fun t heq =>
                  ih t (heq ▸ Schema.mem_slots_of_items hi)
                refine hitem.map fun v v' hv => ?_
                rw [← hv]
                cases v with
                | none => rfl
                | some v => rfl
          · rw [if_neg hk, if_neg hk]
            split
            · have hown := typedOwn_carries_of hrefs hdeprecated h ih
              have hfurther := typedFurther_carries_of hrefs h ih
              rw [seq_eq_bind_map, seq_eq_bind_map]
              -- With the declared properties fixed, what is left to add is a function.
              refine Logged.Reduces.bind (R := fun add add' => ∀ other,
                (add other).map (·.relabel ρ) = add' (other.map (·.relabel ρ))) ?_ ?_
              · refine hown.map fun own own' heq other => ?_
                rw [← heq, Option.map_some, Shape.relabel_object, List.map_append]
              · intro add add' _ _ hadd
                exact hfurther.map fun other other' heq => by rw [hadd, heq]
            · exact .pure (leaf_relabel hfits hbinary h.kind h.format)

omit hdeprecated

/-- Schemas that correspond once the first is abridged are typed alike, but for the
    labels. -/
theorem typeSchema_carries_abridged
    (habridged : ∀ s s', R s s' → ∃ t : Schema, t.Abridges s ∧ t.Corresponds R s') (s : Schema) :
    ∀ s', R s s' → Logged.Carries excused (Option.map (·.relabel ρ))
      (typeSchema setting direction s) (typeSchema setting' direction' s') := by
  have hdeprecated : ∀ s s', R s s' → s.deprecated = s'.deprecated := by
    intro s s' h
    rcases habridged s s' h with ⟨t, habridges, ht⟩
    exact habridges.deprecated.symm.trans ht.deprecated
  -- The relation says that related schemas have related schemas in them, so the schemas
  -- inside are compared first. Those of the abridged schema are among them.
  induction s using Schema.inductionOn with
  | step s ih =>
      intro s' h
      rcases habridged s s' h with ⟨t, habridges, ht⟩
      have hshape := typedShape_carries_of hrefs hdeprecated hfits hbinary ht fun u hu =>
        ih u (habridges.slots _ hu)
      refine Logged.Reduces.congr_left (habridges.outcome_eq setting direction) ?_
      rw [typeSchema_eq, typeSchema_eq]
      exact hshape.bind fun shape => node_carries ht shape

include hR

/-- Related schemas are typed alike, but for the labels. -/
theorem typeSchema_carries (s : Schema) : ∀ s', R s s' →
    Logged.Carries excused (Option.map (·.relabel ρ)) (typeSchema setting direction s)
      (typeSchema setting' direction' s') :=
  typeSchema_carries_abridged hrefs hfits hbinary
    (fun s s' h => ⟨s, .refl s, hR s s' h⟩) s

/-- Related slots are typed alike, but for the labels. -/
theorem typeSlot_carries {slot slot' : Slot Schema} (h : slot.Alike R slot') :
    Logged.Carries excused (Option.map (·.relabel ρ)) (typeSlot setting direction slot)
      (typeSlot setting' direction' slot') :=
  slot_carries_of hrefs h fun s _ => typeSchema_carries hrefs hR hfits hbinary s

end Typing

end RouteTypes
