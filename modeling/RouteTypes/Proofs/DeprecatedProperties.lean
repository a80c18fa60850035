import RouteTypes.Proofs.TypingCorrespondence

/-!
# Deprecated Properties

Deprecated properties leave nothing behind.

A property whose inline schema is deprecated is skipped before its schema is typed. Neither
its type nor an error in it can be noticed, and the only other question that is asked about
the properties of a schema is whether the keyword is there at all. So these properties may
be deleted from a document, at any depth, as long as the keyword stays, even with no
property left.

Two steps are kept apart. Deleting the deprecated properties of one schema leaves a schema
that is typed alike, with no schemas in it but some of those that were there before
(`Schema.trimmed_abridges`). Deleting them everywhere makes of each schema one that
corresponds to the trimmed one (`Schema.trimmed_corresponds`), and typing corresponding
schemas is compared already. What a document is compiled to follows from there.

## Main definitions

* `Schema.trimmed`: A schema without its own deprecated properties.
* `Schema.pruned`: A schema without any, in itself and in all schemas in it.
* `Document.withoutDeprecatedProperties`: A document of pruned schemas.

## Theorems

* `Schema.trimmed_abridges`: A trimmed schema is typed alike.
* `Schema.properties_pruned`: What becomes of the properties of a schema.
* `Schema.trimmed_corresponds`: A pruned schema corresponds to the trimmed one.
* `compile_withoutDeprecatedProperties`: Deprecated properties are not noticed.
-/

namespace RouteTypes

/-- The schema without its own deprecated properties. The keyword stays, perhaps empty. -/
def Schema.trimmed (s : Schema) : Schema :=
  { s with properties := s.properties.map fun slots => slots.filter fun e => !e.2.isDeprecated }

mutual

/-- What stands in the slot, without deprecated properties. -/
def Slot.pruned : Slot Schema → Slot Schema
  | .reference pointer => .reference pointer
  | .inline s => .inline s.pruned
termination_by structural slot => slot

/-- The schema without deprecated properties, in itself and in all schemas in it. -/
def Schema.pruned : Schema → Schema
  | ⟨type, format, nullable, description, deprecated, properties, required, additional, items,
      enum, oneOf, allOf, anyOf⟩ => {
    type, format, nullable, description, deprecated, required, enum
    properties :=
      match properties with
      | some slots => some (prunedProperties slots)
      | none => none
    additional :=
      match additional with
      | some (.typed slot) => some (.typed slot.pruned)
      | some (.allowed yes) => some (.allowed yes)
      | none => none
    items :=
      match items with
      | some slot => some slot.pruned
      | none => none
    oneOf :=
      match oneOf with
      | some members => some (prunedMembers members)
      | none => none
    allOf :=
      match allOf with
      | some members => some (prunedMembers members)
      | none => none
    anyOf :=
      match anyOf with
      | some members => some (prunedMembers members)
      | none => none }
termination_by structural s => s

/-- The members without deprecated properties in them. -/
def prunedMembers : List (Slot Schema) → List (Slot Schema)
  | [] => []
  | slot :: rest => slot.pruned :: prunedMembers rest
termination_by structural slots => slots

/-- The properties that are not deprecated, without deprecated ones in them. -/
def prunedProperties : List (String × Slot Schema) → List (String × Slot Schema)
  | [] => []
  | (name, slot) :: rest =>
    if slot.isDeprecated then prunedProperties rest
    else (name, slot.pruned) :: prunedProperties rest
termination_by structural slots => slots

end

/-- The document without deprecated properties in any of its schemas. -/
def Document.withoutDeprecatedProperties (document : Document) : Document :=
  document.mapSchemas Schema.pruned

section Trimming

variable {setting : Setting} {direction : Direction}

/-- A deprecated property is reported, and the others follow. -/
theorem typeProperties_deprecated {required : List String} {s : Schema} (name : String)
    (slots : List (String × Slot Schema)) (hd : s.deprecated = true) :
    typeProperties setting direction required ((name, .inline s) :: slots)
      = Logged.report (.propertySkipped name) >>= fun _ =>
        typeProperties setting direction required slots := by
  rw [typeProperties]
  simp only [if_pos hd, pure_bind, List.nil_append, bind_pure]

/-- Deprecated properties may be missing: skipping them is all that is done with them. -/
theorem typeProperties_trimmed (required : List String) (slots : List (String × Slot Schema)) :
    Logged.Matches Eq (typeProperties setting direction required slots)
      (typeProperties setting direction required
        (slots.filter fun e => !e.2.isDeprecated)) := by
  induction slots with
  | nil => exact .refl _
  | cons e slots ih =>
      rcases e with ⟨name, slot⟩
      -- Whatever the first property adds, the others are typed after it.
      have hmore : ∀ own own' : List Property, own = own' → Logged.Matches Eq
          (typeProperties setting direction required slots >>= fun more => pure (own ++ more))
          (typeProperties setting direction required
            (slots.filter fun e => !e.2.isDeprecated) >>= fun more => pure (own' ++ more)) :=
        fun own own' hown => ih.bind fun more more' _ _ heq => .pure (hown ▸ heq ▸ rfl)
      rw [List.filter_cons]
      -- A reference is never deprecated, so it is kept and typed in both.
      cases slot with
      | reference pointer =>
          have hkept : (!Slot.isDeprecated (.reference pointer)) = true := rfl
          rw [if_pos hkept]
          unfold typeProperties
          refine (Logged.Reduces.refl (setting.typeRef pointer)).bind fun target _ _ _ htarget => ?_
          exact (Logged.Reduces.pure (htarget ▸ rfl)).bind fun own own' _ _ => hmore own own'
      | inline s =>
          by_cases hd : s.deprecated = true
          -- The deprecated property is reported in the first, and the second does not have it.
          · have hdropped : ¬ (!Slot.isDeprecated (.inline s)) = true := by
              simp [Slot.isDeprecated, hd]
            rw [if_neg hdropped, typeProperties_deprecated name slots hd]
            exact .skip (fun e he => absurd he (Logged.fails_report _ e)) fun _ _ => ih
          · have hkept : (!Slot.isDeprecated (.inline s)) = true := by
              simp [Slot.isDeprecated, hd]
            rw [if_pos hkept]
            unfold typeProperties
            dsimp only
            rw [if_neg hd, if_neg hd]
            refine (Logged.Reduces.refl (typeSchema setting direction s)).bind
              fun value _ _ _ hvalue => ?_
            exact (Logged.Reduces.pure (hvalue ▸ rfl)).bind fun own own' _ _ => hmore own own'

/-- The properties of the schema itself are typed alike without those that are deprecated. -/
theorem typedOwn_trimmed (s : Schema) :
    (s.typedOwn setting direction).outcome = (s.trimmed.typedOwn setting direction).outcome := by
  have hproperties : s.trimmed.properties
      = s.properties.map fun slots => slots.filter fun e => !e.2.isDeprecated := rfl
  unfold Schema.typedOwn
  rw [hproperties]
  cases s.properties with
  | none => rfl
  | some slots => exact (typeProperties_trimmed s.required slots).outcome_eq

/-- A trimmed schema has the shape of the schema: which keyword decides is the same. -/
theorem typedShape_trimmed (s : Schema) :
    (s.typedShape setting direction).outcome
      = (s.trimmed.typedShape setting direction).outcome := by
  -- No other keyword is touched, and neither is whether there are properties.
  have hcombination : s.trimmed.combination = s.combination := rfl
  have henum : s.trimmed.enum = s.enum := rfl
  have hkind : s.trimmed.kind = s.kind := rfl
  have hitems : s.trimmed.items = s.items := rfl
  have hproperties : s.trimmed.properties.isSome = s.properties.isSome := Option.isSome_map
  have hopen : s.trimmed.isOpen = s.isOpen := rfl
  unfold Schema.typedShape
  rw [hcombination, henum, hkind, hitems, hproperties, hopen]
  cases s.combination with
  | some combination => rfl
  | none =>
      cases s.enum with
      | some members => rfl
      | none =>
          dsimp only
          split
          · rfl
          · split
            · -- Only here the properties are looked at.
              have hown : (s.typedOwn setting direction).outcome
                  = (s.trimmed.typedOwn setting direction).outcome := typedOwn_trimmed s
              simp only [seq_eq_bind_map, Logged.outcome_bind, Logged.outcome_map, hown]
              rfl
            · rfl

/-- A trimmed schema is typed alike, and holds no schema that was not there before. -/
theorem Schema.trimmed_abridges (s : Schema) : s.trimmed.Abridges s where
  deprecated := rfl
  slots slot hslot := by
    -- The other keywords are the same, so only a slot of a property is to be found again.
    have hproperties : ∀ slot ∈ propertySlots (s.trimmed.properties.getD []),
        slot ∈ propertySlots (s.properties.getD []) := by
      unfold trimmed
      cases s.properties with
      | none => exact fun _ h => h
      | some slots => exact fun _ h => (List.filter_sublist.map Prod.snd).subset h
    unfold slots at hslot ⊢
    simp only [List.mem_append] at hslot ⊢
    exact hslot.imp_left (Or.imp_left (Or.imp_left (Or.imp_left (Or.imp_left (hproperties slot)))))
  outcome_eq setting direction := by
    have hnode : ∀ shape, s.trimmed.node shape = s.node shape := fun shape => by
      cases shape <;> rfl
    rw [typeSchema_eq, typeSchema_eq, Logged.outcome_bind, Logged.outcome_bind,
      typedShape_trimmed]
    simp only [hnode]

end Trimming

section Pruning

/-- Members are pruned one by one. -/
theorem prunedMembers_eq (slots : List (Slot Schema)) :
    prunedMembers slots = slots.map Slot.pruned := by
  induction slots with
  | nil => rfl
  | cons slot slots ih => rw [prunedMembers, ih, List.map_cons]

/-- The properties that are kept are pruned one by one. -/
theorem prunedProperties_eq (slots : List (String × Slot Schema)) :
    prunedProperties slots
      = (slots.filter fun e => !e.2.isDeprecated).map fun e => (e.1, e.2.pruned) := by
  induction slots with
  | nil => rfl
  | cons e slots ih =>
      rcases e with ⟨name, slot⟩
      rw [prunedProperties, List.filter_cons, ih]
      by_cases hd : slot.isDeprecated = true
      · have hdropped : ¬ (!slot.isDeprecated) = true := by simp [hd]
        rw [if_pos hd, if_neg hdropped]
      · have hkept : (!slot.isDeprecated) = true := by simp [hd]
        rw [if_neg hd, if_pos hkept, List.map_cons]

/-- The keyword stays, with the properties that are not deprecated, and these are pruned in
    turn. -/
theorem Schema.properties_pruned (s : Schema) :
    s.pruned.properties = s.trimmed.properties.map fun slots =>
      slots.map fun e => (e.1, e.2.pruned) := by
  rcases s with ⟨type, format, nullable, description, deprecated, _ | properties, required,
    additional, items, enum, oneOf, allOf, anyOf⟩
  · rfl
  · exact congrArg some (prunedProperties_eq properties)

/-- A deprecated property goes with all that is in it, a broken reference here, and leaves
    an empty map behind, however deep it stands. -/
example :
    Schema.pruned {
      items := some (.inline {
        properties := some [("old", .inline {
          deprecated := true
          properties := some [("gone", .reference "#/nowhere")] })] }) }
      = { items := some (.inline { properties := some [] }) } := rfl

/-- The second schema is the first without deprecated properties. -/
def Schema.Prunes (s s' : Schema) : Prop :=
  s' = s.pruned

/-- What stands in a slot is pruned, and a reference stays. -/
theorem Slot.alike_pruned (slot : Slot Schema) : slot.Alike Schema.Prunes slot.pruned := by
  cases slot with
  | reference pointer => exact .reference pointer
  | inline s => exact .inline rfl

/-- The members of a combinator are pruned one by one. -/
theorem alike_prunedMembers (members : Option (List (Slot Schema))) :
    Option.Rel (List.Forall₂ (Slot.Alike Schema.Prunes)) members
      (members.map prunedMembers) := by
  refine rel_optionMap (fun slots => ?_) members
  rw [prunedMembers_eq]
  exact List.forall₂_map_right_iff.mpr (List.forall₂_same.mpr fun slot _ => slot.alike_pruned)

/-- A pruned schema differs from the trimmed one in the schemas inside. -/
theorem Schema.trimmed_corresponds (s : Schema) : s.trimmed.Corresponds Prunes s.pruned := by
  have hproperties : Option.Rel (List.Forall₂ (SameKey (Slot.Alike Prunes)))
      s.trimmed.properties s.pruned.properties := by
    rw [s.properties_pruned]
    refine rel_optionMap (fun slots => ?_) _
    exact List.forall₂_map_right_iff.mpr
      (List.forall₂_same.mpr fun e _ => .mk e.1 e.2.alike_pruned)
  -- Every keyword is matched on, since pruning a schema is defined by its keywords.
  rcases s with ⟨type, format, nullable, description, deprecated, properties, required,
    additional, items, enum, oneOf, allOf, anyOf⟩
  exact {
    kind := rfl
    isNullable := rfl
    format := rfl
    description := rfl
    deprecated := rfl
    properties := hproperties
    required := rfl
    additional := by
      rcases additional with _ | yes | slot
      · exact .none
      · exact .some (.allowed yes)
      · exact .some (.typed slot.alike_pruned)
    items := by
      cases items with
      | none => exact .none
      | some slot => exact .some slot.alike_pruned
    enum := rfl
    oneOf := by cases oneOf <;> exact alike_prunedMembers _
    allOf := by cases allOf <;> exact alike_prunedMembers _
    anyOf := by cases anyOf <;> exact alike_prunedMembers _ }

end Pruning

section Documents

/-- A document and its pruned document differ in their schemas. -/
theorem Document.alike_withoutDeprecatedProperties (document : Document) :
    document.Alike Schema.Prunes document.withoutDeprecatedProperties := by
  have hprunes : ∀ s, Schema.Prunes s s.pruned := fun _ => rfl
  exact document.alike_mapSchemas hprunes

/-- In the settings of a document and of its pruned document, pruned schemas are typed like
    those they were made from. -/
theorem Document.translates_withoutDeprecatedProperties (document : Document)
    (options : Options) :
    (document.setting options).Translates Schema.Prunes {}
      (document.withoutDeprecatedProperties.setting options) := by
  have hcomponents := document.alike_withoutDeprecatedProperties.components
  have hrefs : ∀ r, Logged.MapsTo (Relabeling.reference {})
      ((document.setting options).typeRef r)
      ((document.withoutDeprecatedProperties.setting options).typeRef r) :=
    fun r => typeRef_mapsTo hcomponents.contains_eq rfl r
  have habridged : ∀ s s', Schema.Prunes s s' →
      ∃ t : Schema, t.Abridges s ∧ t.Corresponds Schema.Prunes s' := by
    -- The trimmed schema stands between the two: it has the type of one and the form of the other.
    rintro s _ rfl
    exact ⟨s.trimmed, s.trimmed_abridges, s.trimmed_corresponds⟩
  exact {
    components := hcomponents
    kind := fun s s' h => by
      subst h
      exact s.trimmed_corresponds.kind
    space := rfl
    references := hrefs
    slots := fun direction slot slot' h => slot_carries_of hrefs h fun s _ =>
      typeSchema_carries_abridged hrefs (Relabeling.fits_id options) rfl habridged s }

/-- Deprecated properties are not noticed. Without them, at any depth and whatever is in
    them, a document is compiled into the same texts or refused with the same error. -/
theorem compile_withoutDeprecatedProperties (document : Document) (options : Options) :
    (document.withoutDeprecatedProperties.compile options).outcome
      = (document.compile options).outcome :=
  (compile_outcome_eq document.alike_withoutDeprecatedProperties
    (document.translates_withoutDeprecatedProperties options)).symm

end Documents

end RouteTypes
