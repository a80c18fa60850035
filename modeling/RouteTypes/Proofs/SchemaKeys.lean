import Mathlib.Data.List.Nodup
import RouteTypes.Proofs.DistinctKeys
import RouteTypes.Proofs.DocumentTrees
import RouteTypes.TypeTree.Render

/-!
# Schema Keys

The objects of a typed schema have each of their keys once.

The properties of a schema have distinct names to begin with. Typing keeps their order and
leaves some out, and the key for all others is no name, so the names in the object of a
schema are distinct, and induction carries this to all objects below (`typeSchema_keysDistinct`).
Definitions in the components add nothing to it: the object around a parameter has a
single property, and the type of any other definition is that of a schema.

The keys are compared as names and not as they are written. That is the same, because a
name can be read back from its text: a key in quotes starts with one, and a quote or
backslash inside stands after a backslash.

## Main definitions

* `Shape.KeysDistinct`: An object has each of its keys once.
* `TypeNode.KeysDistinct`, `Property.KeysDistinct`: All objects of a tree, and of a value.

## Theorems

* `PropertyName.render_injective`: Distinct names are written as distinct keys.
* `Shape.keysDistinct_iff_written`: So the names of an object may be compared for its keys.
* `typeProperties_names`: Typed properties keep their names and their order.
* `typeSchema_keysDistinct`, `typeSlot_keysDistinct`: The objects of a schema.
* `typeEntryAt_keysDistinct`: The objects of a declaration.
-/

namespace RouteTypes

section Writing

/-- What was escaped can be read back: a backslash always stands before the character it
    belongs to. -/
theorem escapeQuoted_injective {cs cs' : List Char}
    (h : Text.escapeQuoted cs = Text.escapeQuoted cs') : cs = cs' := by
  induction cs generalizing cs' with
  | nil =>
      cases cs' with
      | nil => rfl
      | cons c' rest' =>
          unfold Text.escapeQuoted at h
          split at h <;> exact absurd h.symm (List.cons_ne_nil _ _)
  | cons c rest ih =>
      cases cs' with
      | nil =>
          unfold Text.escapeQuoted at h
          split at h <;> exact absurd h (List.cons_ne_nil _ _)
      | cons c' rest' =>
          unfold Text.escapeQuoted at h
          by_cases hc : c = '\\' ∨ c = '\''
          · by_cases hc' : c' = '\\' ∨ c' = '\''
            · rw [if_pos hc, if_pos hc', List.cons.injEq, List.cons.injEq] at h
              rw [h.2.1, ih h.2.2]
            · -- An escaped character starts with a backslash, one that stands for itself not.
              rw [if_pos hc, if_neg hc', List.cons.injEq] at h
              exact absurd (Or.inl h.1.symm) hc'
          · by_cases hc' : c' = '\\' ∨ c' = '\''
            · rw [if_neg hc, if_pos hc', List.cons.injEq] at h
              exact absurd (Or.inl h.1) hc
            · rw [if_neg hc, if_neg hc', List.cons.injEq] at h
              rw [h.1, ih h.2]

/-- So can a quoted text: both quotation marks are cut off first. -/
theorem quoted_injective {name name' : String} (h : Text.quoted name = Text.quoted name') :
    name = name' := by
  unfold Text.quoted at h
  -- The quotation mark at the end is one character of both texts, as that at the start is.
  rw [String.ofList_inj, List.append_cancel_right_eq, List.cons.injEq] at h
  exact String.toList_inj.mp (escapeQuoted_injective h.2)

/-- A key in quotes starts with one, any other with a character of names. -/
theorem objectKey_head (name : String) :
    ∃ c, (Text.objectKey name).toList.head? = some c ∧ c ≠ '[' ∧
      (c = '\'' ↔ Text.needsQuotes name = true) := by
  unfold Text.objectKey
  by_cases hq : Text.needsQuotes name = true
  · rw [if_pos hq]
    refine ⟨'\'', ?_, by decide, iff_of_true rfl hq⟩
    rw [Text.quoted, String.toList_ofList, List.cons_append, List.head?_cons]
  -- Without quotes the key is the name, which starts with a character names may start with.
  · have hstart := hq
    unfold Text.needsQuotes at hstart
    rw [if_neg hq]
    cases hname : name.toList with
    | nil => simp only [hname, not_true_eq_false] at hstart
    | cons c rest =>
        simp only [hname, Bool.or_eq_true, Bool.not_eq_true', not_or, Bool.not_eq_false] at hstart
        have hother : ∀ d, Text.isNameStart d = false → c ≠ d := by
          rintro d hd rfl
          exact absurd (hd ▸ hstart.1) Bool.false_ne_true
        exact ⟨c, rfl, hother '[' (by decide), iff_of_false (hother '\'' (by decide)) hq⟩

/-- Distinct names are written as distinct keys. -/
theorem PropertyName.render_injective : Function.Injective PropertyName.render := by
  -- A bracket starts the key for all others, and no key of a name.
  have hindex : ∀ name, Text.objectKey name ≠ PropertyName.index.render := by
    intro name h
    rcases objectKey_head name with ⟨c, hc, hne, _⟩
    rw [h] at hc
    exact hne (Option.some.inj hc).symm
  intro a b h
  cases a with
  | index =>
      cases b with
      | index => rfl
      | field name' => exact absurd h.symm (hindex name')
  | field name =>
      cases b with
      | index => exact absurd h (hindex name)
      | field name' =>
          change Text.objectKey name = Text.objectKey name' at h
          rcases objectKey_head name with ⟨c, hc, _, hquoted⟩
          rcases objectKey_head name' with ⟨c', hc', _, hquoted'⟩
          rw [h, hc', Option.some.injEq] at hc
          -- Both are in quotes, or none is.
          have hsame : Text.needsQuotes name = Text.needsQuotes name' := by
            rw [Bool.eq_iff_iff, ← hquoted, ← hquoted', hc]
          unfold Text.objectKey at h
          rw [hsame] at h
          split at h
          · rw [quoted_injective h]
          · rw [h]

end Writing

/-- No two properties of the object have one name. -/
def Shape.KeysDistinct : Shape → Prop
  | .object properties => (properties.map (·.name)).Nodup
  | .primitive _ | .binary _ | .literals _ | .combined _ _ | .array _ | .reference _
  | .status _ | .format _ => True

/-- All objects of the tree have distinct keys. -/
def TypeNode.KeysDistinct (n : TypeNode) : Prop :=
  ∀ m ∈ n.nodes, m.shape.KeysDistinct

/-- All objects in the values of the property have distinct keys. -/
def Property.KeysDistinct (q : Property) : Prop :=
  ∀ v ∈ q.values, v.KeysDistinct

/-- Distinct names are what makes distinct keys in the text of an object. -/
theorem Shape.keysDistinct_iff_written (properties : List Property) :
    (Shape.object properties).KeysDistinct ↔ (properties.map (·.name.render)).Nodup := by
  have hwritten : properties.map (·.name.render)
      = (properties.map (·.name)).map PropertyName.render := by
    rw [List.map_map]
    rfl
  rw [hwritten, List.nodup_map_iff PropertyName.render_injective]
  rfl

section Trees

variable {setting : Setting} {direction : Direction}

/-- The keys of a tree are distinct when those at its root are, and those of its children. -/
theorem TypeNode.keysDistinct_iff (n : TypeNode) :
    n.KeysDistinct ↔ n.shape.KeysDistinct ∧ ∀ c ∈ n.shape.children, c.KeysDistinct :=
  n.forall_mem_nodes

/-- A reference has no keys. -/
theorem TypeNode.keysDistinct_reference {n : TypeNode} {r : TypeRef}
    (hn : n.shape = .reference r) : n.KeysDistinct := by
  refine n.keysDistinct_iff.mpr ⟨?_, fun c hc => ?_⟩
  · rw [hn]
    trivial
  · rw [hn] at hc
    exact absurd hc List.not_mem_nil

/-- An object has distinct keys when its names are distinct, and the keys in each value. -/
theorem TypeNode.keysDistinct_object {n : TypeNode} {qs : List Property}
    (hn : n.shape = .object qs) (hnames : (qs.map (·.name)).Nodup)
    (hvalues : ∀ q ∈ qs, q.KeysDistinct) : n.KeysDistinct := by
  refine n.keysDistinct_iff.mpr ⟨?_, fun c hc => ?_⟩
  · rw [hn]
    exact hnames
  · rw [hn] at hc
    rcases List.mem_flatMap.mp hc with ⟨q, hq, hc⟩
    exact hvalues q hq c hc

theorem Property.keysDistinct_field {name : String} {required : Bool}
    {description : Option String} {v : TypeNode} (h : v.KeysDistinct) :
    (Property.field name required description v).KeysDistinct :=
  fun _ hw => List.mem_singleton.mp hw ▸ h

/-- A value without parts that is no object. -/
theorem TypeNode.keysDistinct_word {n : TypeNode} (h : n.shape.children = [])
    (hn : n.shape.KeysDistinct) : n.KeysDistinct :=
  n.keysDistinct_iff.mpr ⟨hn, fun _ hc => absurd (h ▸ hc) List.not_mem_nil⟩

theorem TypeNode.KeysDistinct.describe {v : TypeNode} (h : v.KeysDistinct)
    (description : Option String) : (describe description v).KeysDistinct := by
  cases description with
  | none => exact h
  | some text => exact (TypeNode.keysDistinct_iff _).mpr (v.keysDistinct_iff.mp h)

/-- Typed properties keep their names and their order. -/
theorem typeProperties_names {required : List String} {slots : List (String × Slot Schema)}
    {qs : List Property} (h : (typeProperties setting direction required slots).Yields qs) :
    (qs.map (·.name)).Sublist (slots.map fun e => PropertyName.field e.1) := by
  induction slots generalizing qs with
  | nil =>
      rw [typeProperties, Logged.yields_pure] at h
      rw [← h]
      exact List.nil_sublist _
  | cons e slots ih =>
      rcases e with ⟨name, slot⟩
      rcases typeProperties_cons h with ⟨v, rest, _, hrest, rfl⟩
      rw [List.map_append, List.map_cons]
      -- A property without type is left out, which leaves a part of the names.
      cases v with
      | none => exact (ih hrest).cons _
      | some w => exact (ih hrest).cons_cons _

/-- The properties of a schema keep their names and their order when they are typed. -/
theorem typedOwn_names {s : Schema} {qs : List Property}
    (h : (s.typedOwn setting direction).Yields qs) :
    (qs.map (·.name)).Sublist
      ((s.properties.getD []).map fun e => PropertyName.field e.1) := by
  unfold Schema.typedOwn at h
  cases hslots : s.properties with
  | none =>
      rw [hslots, Logged.yields_pure] at h
      rw [← h]
      exact List.nil_sublist _
  | some slots =>
      rw [hslots] at h
      exact typeProperties_names h

/-- There is one property for all further keys at most. -/
theorem typedFurther_names {s : Schema} {qs : List Property}
    (h : (s.typedFurther setting direction).Yields qs) :
    (qs.map (·.name)).Sublist [PropertyName.index] := by
  have hindex : ∀ value, ((indexProperties value).map (·.name)).Sublist [PropertyName.index] :=
    names_optional fun _ => rfl
  unfold Schema.typedFurther at h
  split at h
  · rcases (Logged.yields_map _ _ _).mp h with ⟨value, _, rfl⟩
    exact hindex value
  · rw [← (Logged.yields_pure _ _).mp h]
    exact hindex _
  all_goals
    rw [← (Logged.yields_pure _ _).mp h]
    exact List.nil_sublist _

/-- Distinct names are the names of distinct fields. -/
theorem nodup_fields {names : List String} (h : names.Nodup) :
    (names.map PropertyName.field).Nodup :=
  h.map fun _ _ heq => PropertyName.field.inj heq

/-- The object of a typed schema has distinct keys: those of its properties, and none of
    them is the one for all others. -/
theorem typeSchema_shape_keysDistinct {s : Schema} (hs : s.Keyed) {n : TypeNode}
    (h : (typeSchema setting direction s).Yields (some n)) : n.shape.KeysDistinct := by
  -- Description and null are added to the shape, and neither adds a key.
  rcases typeSchema_becomes h with ⟨shape, hshape, rfl⟩
  change shape.KeysDistinct
  cases hshape with
  | @object own further _ _ _ _ hown hfurther =>
      rcases hs with ⟨hnames, _⟩
      have hfields := nodup_fields hnames
      rw [List.map_map] at hfields
      change ((own ++ further).map (·.name)).Nodup
      rw [List.map_append]
      refine List.nodup_append.mpr ⟨(typedOwn_names hown).nodup hfields,
        (typedFurther_names hfurther).nodup (List.nodup_singleton _), fun a ha b hb hab => ?_⟩
      -- The names of fields and the key for all others cannot meet.
      rcases List.mem_map.mp ((typedOwn_names hown).subset ha) with ⟨e, _, rfl⟩
      rw [List.mem_singleton.mp ((typedFurther_names hfurther).subset hb)] at hab
      exact absurd hab (by simp only [reduceCtorEq, not_false_eq_true])
  | combined | literals | array | binary | primitive => trivial

/-- What stands in a slot has distinct keys if an inline schema has: a reference has none. -/
theorem slot_keysDistinct_of {slot : Slot Schema}
    (hinline : ∀ s, Slot.inline s = slot → ∀ n,
      (typeSchema setting direction s).Yields (some n) → n.KeysDistinct)
    {n : TypeNode} (h : (typeSlot setting direction slot).Yields (some n)) :
    n.KeysDistinct := by
  cases slot with
  | reference pointer =>
      simp only [typeSlot, Logged.yields_bind, Logged.yields_pure, Option.some.injEq] at h
      rcases h with ⟨target, _, rfl⟩
      exact TypeNode.keysDistinct_reference rfl
  | inline s => exact hinline s rfl n h

/-- All objects of a typed schema have distinct keys when the schema is keyed. -/
theorem typeSchema_keysDistinct (s : Schema) : s.Keyed → ∀ n,
    (typeSchema setting direction s).Yields (some n) → n.KeysDistinct := by
  induction s using Schema.inductionOn with
  | step s ih =>
      intro hs n hn
      -- The induction is on the schema. It reaches the slots, and what is typed from them.
      refine n.keysDistinct_iff.mpr ⟨typeSchema_shape_keysDistinct hs hn, fun child hchild => ?_⟩
      -- A child stands for any value, and has no keys, or it is typed from a slot of the schema.
      rcases (typeSchema_children hn).2 child hchild with rfl | ⟨slot, hslot, hyields⟩
      · exact (TypeNode.keysDistinct_iff _).mpr
          ⟨trivial, fun c hc => absurd hc List.not_mem_nil⟩
      · have hkeyed := hs.slot (Schema.mem_slots_of_mem_visited hslot)
        refine slot_keysDistinct_of (fun t ht => ?_) hyields
        subst ht
        exact ih t (Schema.mem_slots_of_mem_visited hslot) hkeyed

/-- The objects of a slot have distinct keys when its schema is keyed. -/
theorem typeSlot_keysDistinct {slot : Slot Schema} (hslot : slot.All Schema.Keyed) {n : TypeNode}
    (h : (typeSlot setting direction slot).Yields (some n)) : n.KeysDistinct := by
  refine slot_keysDistinct_of (fun s hs => ?_) h
  subst hs
  exact typeSchema_keysDistinct s hslot

end Trees

section Definitions

variable {setting : Setting} {direction : Direction} {n : TypeNode}

/-- So have those of a slot that may be missing. -/
theorem typeOptional_keysDistinct {slot : Option (Slot Schema)}
    (hslot : ∀ s ∈ slot, s.All Schema.Keyed)
    (h : (typeOptional setting direction slot).Yields (some n)) : n.KeysDistinct := by
  cases slot with
  | none =>
      rw [typeOptional, Logged.yields_pure] at h
      exact absurd h (by simp only [reduceCtorEq, not_false_eq_true])
  | some slot => exact typeSlot_keysDistinct (hslot slot rfl) h

/-- What is chosen from keyed content is keyed, whether by its media type or as the first. -/
theorem Content.chosen_keyed {content : Content} (h : content.Keyed) :
    ∀ s ∈ content.chosen.bind (·.schema), s.All Schema.Keyed := by
  intro s hs
  rcases Option.bind_eq_some_iff.mp hs with ⟨media, hmedia, hs⟩
  unfold Content.chosen at hmedia
  split at hmedia
  · next key found hfind =>
      obtain rfl := Option.some.inj hmedia
      exact h (key, found) (List.mem_of_find?_eq_some hfind) s hs
  · rcases Option.map_eq_some_iff.mp hmedia with ⟨e, he, rfl⟩
    exact h e (List.mem_of_head? he) s hs

/-- The form that is sent is keyed, since it is one of the entries with a schema. -/
theorem Content.form_keyed {content : Content} (h : content.Keyed) {f : BodyFormat × MediaType}
    (hf : content.form = some f) : ∀ s ∈ f.2.schema, s.All Schema.Keyed := by
  have hmedia : ∀ mediaType media, content.withSchema mediaType = some media →
      ∀ s ∈ media.schema, s.All Schema.Keyed := by
    intro mediaType media hm
    rcases Option.filter_eq_some_iff.mp hm with ⟨hget, _⟩
    exact h (mediaType, media) (OrderedMap.mem_of_get? hget)
  unfold Content.form at hf
  split at hf
  · next media hm =>
      obtain rfl := Option.some.inj hf
      exact hmedia _ media hm
  · rcases Option.map_eq_some_iff.mp hf with ⟨media, hm, rfl⟩
    exact hmedia _ media hm

/-- The objects of a parameter have distinct keys. The object around it has one property. -/
theorem typeParameter_keysDistinct {p : Parameter} (hp : p.Keyed)
    (h : (typeParameter setting p).Yields (some n)) : n.KeysDistinct := by
  simp only [typeParameter, Logged.yields_bind, Logged.yields_pure] at h
  rcases h with ⟨value, hvalue, hmap⟩
  rcases Option.map_eq_some_iff.mp hmap with ⟨v, rfl, rfl⟩
  refine TypeNode.keysDistinct_object rfl (List.nodup_singleton _) fun q hq => ?_
  rw [List.mem_singleton.mp hq]
  exact Property.keysDistinct_field (typeOptional_keysDistinct hp hvalue)

/-- The objects of a body have distinct keys, with any description. -/
theorem typeBody_keysDistinct {b : RequestBody} (hb : b.Keyed)
    (h : (typeBody setting b).Yields (some n)) : n.KeysDistinct := by
  simp only [typeBody, Logged.yields_bind, Logged.yields_pure] at h
  rcases h with ⟨value, hvalue, hmap⟩
  rcases Option.map_eq_some_iff.mp hmap with ⟨v, rfl, rfl⟩
  exact (typeOptional_keysDistinct (Content.chosen_keyed hb) hvalue).describe _

/-- The objects of a response have distinct keys: its type is that of its content. -/
theorem typeResponse_keysDistinct {r : Response} (hr : r.Keyed)
    (h : (typeResponse setting r).Yields (some n)) : n.KeysDistinct := by
  simp only [typeResponse, Logged.yields_bind, Logged.yields_pure] at h
  rcases h with ⟨value, hvalue, hmap⟩
  rcases Option.map_eq_some_iff.mp hmap with ⟨v, rfl, rfl⟩
  exact (typeOptional_keysDistinct (Content.chosen_keyed hr.content) hvalue).describe _

theorem typeHeader_keysDistinct {x : Header} (hx : x.Keyed)
    (h : (typeHeader setting x).Yields (some n)) : n.KeysDistinct := by
  simp only [typeHeader, Logged.yields_bind, Logged.yields_pure] at h
  rcases h with ⟨value, hvalue, hmap⟩
  rcases Option.map_eq_some_iff.mp hmap with ⟨v, rfl, rfl⟩
  exact (typeOptional_keysDistinct hx hvalue).describe _

/-- The objects of an entry have distinct keys if those of a definition of its kind have. -/
theorem typeKey_keysDistinct {α : Type} {P : α → Prop} {inline : α → Typing (Option TypeNode)}
    (hinline : ∀ a, P a → ∀ m, (inline a).Yields (some m) → m.KeysDistinct)
    {entries : OrderedMap String (Slot α)} (hentries : entries.All (·.All P)) {key : String}
    (h : (typeKey setting inline entries key).Yields (some n)) : n.KeysDistinct := by
  unfold typeKey at h
  split at h
  · next slot hget =>
      have hslot := hentries (key, slot) (OrderedMap.mem_of_get? hget)
      cases slot with
      -- An entry that is a reference is typed as one, and its target is not looked into.
      | reference pointer =>
          simp only [typeEntry, Logged.yields_bind, Logged.yields_pure, Option.some.injEq] at h
          rcases h with ⟨target, _, rfl⟩
          exact TypeNode.keysDistinct_reference rfl
      | inline value => exact hinline value hslot n h
  · exact absurd ((Logged.yields_pure _ _).mp h) (by simp only [reduceCtorEq, not_false_eq_true])

/-- The objects of a declaration have distinct keys. -/
theorem typeEntryAt_keysDistinct (hkeyed : setting.components.Keyed) {registry : Registry}
    {key : String} (h : (setting.typeEntryAt registry key).Yields (some n)) :
    n.KeysDistinct := by
  cases registry with
  | schemas => exact typeKey_keysDistinct (fun s => typeSchema_keysDistinct s) hkeyed.schemas h
  | parameters =>
      exact typeKey_keysDistinct (fun _ hp _ => typeParameter_keysDistinct hp) hkeyed.parameters h
  | requestBodies =>
      exact typeKey_keysDistinct (fun _ hb _ => typeBody_keysDistinct hb) hkeyed.requestBodies h
  | responses =>
      exact typeKey_keysDistinct (fun _ hr _ => typeResponse_keysDistinct hr) hkeyed.responses h
  | headers =>
      exact typeKey_keysDistinct (fun _ hx _ => typeHeader_keysDistinct hx) hkeyed.headers h

end Definitions

end RouteTypes
