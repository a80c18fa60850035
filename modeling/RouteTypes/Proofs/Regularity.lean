import RouteTypes.Proofs.EntryForms
import RouteTypes.Proofs.Retention
import RouteTypes.Proofs.SchemaKeys

/-!
# The Regularity of Typed Documents

Which trees a typed document can hold, and where in them a type can stand.

The text of a type is put together without looking at its surroundings twice: several
values of a property are joined as they are, and an empty list of members would be
written as nothing. That is safe because typing builds regular trees only. Enumerations
and combinations have members, properties of objects have one value, a property for
further keys comes last. Three types are not ordinary: that of anything stands for
further keys only, and a status or an encoding is only the value of its own entry.

What is demanded of a type depends on where it stands, so the nodes of a document are
given with their places (`Api.Stands`). Below an ordinary node only the shape decides
which places there are and what they allow (`Shape.Regular`), so the argument is one
lemma for a typed schema, one for each form of an entry, and an induction along the way
from the root of a tree to a node.

## Main definitions

* `Shape.IsOrdinary`: A type that may stand anywhere.
* `Shape.Regular`, `TypeNode.Regular`: A shape and the places right below it, and a tree.
* `Place`, `Api.Stands`: Where a node stands in a typed document.
* `Api.Regular`: A typed document holds regular trees, with each type in its place.

## Theorems

* `typeSlot_regular`: The tree of a typed slot is ordinary and regular.
* `Api.mem_nodes_iff`: Every node of a document stands somewhere.
* `Api.Stands.regular`: A node is allowed where it stands.
* `toApi_regular`: A typed document is regular.
-/

namespace RouteTypes

/-- The type may stand anywhere: it is not that of anything, no status and no encoding. -/
def Shape.IsOrdinary : Shape → Prop
  | .primitive type => type ≠ .any
  | .status _ | .format _ => False
  | .binary _ | .literals _ | .object _ | .combined _ _ | .array _ | .reference _ => True

/-- The property is a field with one ordinary value. -/
def Property.IsField (q : Property) : Prop :=
  ∃ name v, q.name = .field name ∧ q.values = [v] ∧ v.shape.IsOrdinary

/-- There are members where members are needed, and what stands right below is ordinary,
    except for the value of further keys. The property for those comes after the fields. -/
def Shape.Regular : Shape → Prop
  | .literals members => members ≠ []
  | .combined _ members => members ≠ [] ∧ ∀ m ∈ members, m.shape.IsOrdinary
  | .array item => item.shape.IsOrdinary
  | .object properties => ∃ fields further, properties = fields ++ further ∧
      (∀ q ∈ fields, q.IsField) ∧
      (further = [] ∨ ∃ v, further = [.index v] ∧
        (v.shape.IsOrdinary ∨ v.shape = .primitive .any))
  | .primitive _ | .binary _ | .reference _ | .status _ | .format _ => True

/-- All nodes of the tree have a regular shape. -/
def TypeNode.Regular (n : TypeNode) : Prop :=
  ∀ m ∈ n.nodes, m.shape.Regular

namespace TypeNode

/-- A tree is regular when its root is and what stands below. -/
theorem regular_iff (n : TypeNode) :
    n.Regular ↔ n.shape.Regular ∧ ∀ c ∈ n.shape.children, c.Regular :=
  n.forall_mem_nodes

/-- A shape without parts makes a regular tree when it is regular itself. -/
theorem regular_of_leaf {n : TypeNode} (hn : n.shape.Regular) (hc : n.shape.children = []) :
    n.Regular :=
  n.regular_iff.mpr ⟨hn, fun _ h => absurd (hc ▸ h) List.not_mem_nil⟩

/-- An object of fields is regular when their values are. -/
theorem regular_of_fields {n : TypeNode} {qs : List Property} (hn : n.shape = .object qs)
    (hfields : ∀ q ∈ qs, q.IsField) (hvalues : ∀ q ∈ qs, ∀ v ∈ q.values, v.Regular) :
    n.Regular := by
  refine n.regular_iff.mpr ⟨?_, fun c hc => ?_⟩
  · rw [hn]
    exact ⟨qs, [], (List.append_nil qs).symm, hfields, Or.inl rfl⟩
  · rw [hn] at hc
    rcases List.mem_flatMap.mp hc with ⟨q, hq, hv⟩
    exact hvalues q hq c hv

end TypeNode

section Schemas

variable {setting : Setting} {direction : Direction} {n : TypeNode}

/-- No schema has the type of anything. -/
theorem Schema.primitive_ne_any {s : Schema} {keepDates : Bool} {type : Primitive}
    (h : s.primitive keepDates = some type) : type ≠ .any := by
  rintro rfl
  unfold primitive at h
  split at h <;> first | exact absurd h (by decide) | skip
  split at h <;> exact absurd h (by decide)

/-- The type of a schema is ordinary, whatever stands below it. -/
theorem typeSchema_isOrdinary {s : Schema} (h : (typeSchema setting direction s).Yields (some n)) :
    n.shape.IsOrdinary := by
  rcases typeSchema_becomes h with ⟨shape, hshape, rfl⟩
  change shape.IsOrdinary
  cases hshape with
  | primitive _ _ hp => exact Schema.primitive_ne_any hp
  | combined | literals | array | object | binary => trivial

/-- So is the type of a slot, also when it is a reference. -/
theorem typeSlot_isOrdinary {slot : Slot Schema}
    (h : (typeSlot setting direction slot).Yields (some n)) : n.shape.IsOrdinary := by
  cases slot with
  | reference pointer =>
      simp only [typeSlot, Logged.yields_bind, Logged.yields_pure, Option.some.injEq] at h
      rcases h with ⟨target, _, rfl⟩
      trivial
  | inline s => exact typeSchema_isOrdinary h

/-- The properties of a typed schema are fields. -/
theorem typedOwn_isField {s : Schema} {qs : List Property}
    (h : (s.typedOwn setting direction).Yields qs) : ∀ q ∈ qs, q.IsField := by
  intro q hq
  rcases List.mem_map.mp ((typedOwn_names h).subset (List.mem_map_of_mem hq)) with ⟨e, _, hname⟩
  rcases exists_of_mem_typedOwn h hq with ⟨v, hvalues, slot, _, hv⟩
  exact ⟨e.1, v, hname.symm, hvalues, typeSlot_isOrdinary hv⟩

/-- The property for further keys has an ordinary value, or that of anything. -/
theorem typedFurther_regular {s : Schema} {qs : List Property}
    (h : (s.typedFurther setting direction).Yields qs) :
    qs = [] ∨ ∃ v, qs = [.index v] ∧ (v.shape.IsOrdinary ∨ v.shape = .primitive .any) := by
  refine (typedFurther_eq h).imp_right fun ⟨v, hqs⟩ => ⟨v, hqs, ?_⟩
  have hmem : Property.index v ∈ qs := hqs ▸ List.mem_singleton.mpr rfl
  rcases exists_of_mem_typedFurther h hmem with ⟨w, hvalues, hw⟩
  obtain rfl : v = w := List.singleton_inj.mp hvalues
  -- The value is that of anything only when further keys are allowed without a schema.
  rcases hw with rfl | ⟨slot, _, hv⟩
  · exact Or.inr rfl
  · exact Or.inl (typeSlot_isOrdinary hv)

/-- The shape of a typed schema is regular, whatever stands further below. -/
theorem typeSchema_shape_regular {s : Schema}
    (h : (typeSchema setting direction s).Yields (some n)) : n.shape.Regular := by
  rcases typeSchema_becomes h with ⟨shape, hshape, rfl⟩
  change shape.Regular
  cases hshape with
  | combined _ hm hne =>
      refine ⟨hne, fun m hmem => ?_⟩
      rcases exists_of_mem_members hm hmem with ⟨slot, _, hv⟩
      exact typeSlot_isOrdinary hv
  | literals _ _ hne => exact fun hnil => hne (List.map_eq_nil_iff.mp hnil)
  | array _ _ _ _ ht => exact typeSlot_isOrdinary ht
  | object _ _ _ _ hown hfurther =>
      exact ⟨_, _, rfl, typedOwn_isField hown, typedFurther_regular hfurther⟩
  | binary | primitive => trivial

/-- The tree of a slot is regular when those of all schemas that may stand in it are. -/
theorem slot_regular_of {slot : Slot Schema}
    (hinline : ∀ s, Slot.inline s = slot → ∀ n,
      (typeSchema setting direction s).Yields (some n) → n.Regular)
    (h : (typeSlot setting direction slot).Yields (some n)) : n.Regular := by
  cases slot with
  | reference pointer =>
      simp only [typeSlot, Logged.yields_bind, Logged.yields_pure, Option.some.injEq] at h
      rcases h with ⟨target, _, rfl⟩
      exact TypeNode.regular_of_leaf trivial rfl
  | inline s => exact hinline s rfl n h

/-- The tree of a typed schema is regular. -/
theorem typeSchema_regular (s : Schema) : ∀ n,
    (typeSchema setting direction s).Yields (some n) → n.Regular := by
  induction s using Schema.inductionOn with
  -- By induction on the schema: the root is looked at alone, and below it stand typed slots.
  | step s ih =>
      intro n hn
      refine n.regular_iff.mpr ⟨typeSchema_shape_regular hn, fun child hchild => ?_⟩
      rcases (typeSchema_children hn).2 child hchild with rfl | ⟨slot, hslot, hyields⟩
      · exact TypeNode.regular_of_leaf trivial rfl
      · exact slot_regular_of
          (fun t ht => ih t (ht ▸ Schema.mem_slots_of_mem_visited hslot)) hyields

/-- The tree of a typed slot is regular. -/
theorem typeSlot_regular {slot : Slot Schema}
    (h : (typeSlot setting direction slot).Yields (some n)) : n.Regular :=
  slot_regular_of (fun s _ => typeSchema_regular s) h

end Schemas

section Forms

variable {setting : Setting} {n : TypeNode} {q : Property}

theorem Setting.Types.isOrdinary (h : setting.Types n) : n.shape.IsOrdinary := by
  rcases h with ⟨direction, slot, v, description, hv, rfl⟩
  have hordinary : v.shape.IsOrdinary := typeSlot_isOrdinary hv
  exact hordinary

theorem Setting.Types.regular (h : setting.Types n) : n.Regular := by
  rcases h with ⟨direction, slot, v, description, hv, rfl⟩
  -- The node itself is another one, but its shape and its children are the same.
  exact (TypeNode.regular_iff _).mpr (v.regular_iff.mp (typeSlot_regular hv))

theorem Setting.TypesField.isField (h : setting.TypesField q) : q.IsField := by
  rcases h with ⟨name, required, description, v, rfl, hv⟩
  exact ⟨name, v, rfl, rfl, hv.isOrdinary⟩

theorem Setting.TypesField.regular (h : setting.TypesField q) : ∀ v ∈ q.values, v.Regular := by
  rcases h with ⟨name, required, description, v, rfl, hv⟩
  exact fun w hw => List.mem_singleton.mp hw ▸ hv.regular

/-- An object of fields for typed slots is regular. -/
theorem Setting.object_regular {qs : List Property} (h : ∀ q ∈ qs, setting.TypesField q) :
    TypeNode.Regular { shape := .object qs } :=
  TypeNode.regular_of_fields rfl (fun q hq => (h q hq).isField) fun q hq => (h q hq).regular

/-- A declaration is ordinary and regular. -/
theorem Setting.Declares.regular (h : setting.Declares n) :
    n.shape.IsOrdinary ∧ n.Regular := by
  cases h with
  | value h => exact ⟨h.isOrdinary, h.regular⟩
  | parameter h =>
      exact ⟨trivial, Setting.object_regular fun q hq => List.mem_singleton.mp hq ▸ h⟩

/-- The merged wrappers of request parameters: references, then one object at most, and
    `null` is a value of none of them. -/
def TypeNode.AreMerged (values : List TypeNode) : Prop :=
  ∃ references objects, values = references ++ objects ∧
    (∀ v ∈ references, v.nullable = false ∧ ∃ r, v.shape = .reference r) ∧
    (objects = [] ∨ ∃ v qs, objects = [v] ∧ v.nullable = false ∧ v.shape = .object qs)

/-- What stands in an entry of an operation: something ordinary, or a status or an
    encoding as the only value of the entry for it. -/
def Property.Allows (q : Property) (n : TypeNode) : Prop :=
  n.shape.IsOrdinary ∨
    (∃ code, n.shape = .status code ∧ q.name = .field "status" ∧ q.values = [n]) ∨
    ∃ encoding, n.shape = .format encoding ∧ q.name = .field "reqFormat" ∧ q.values = [n]

/-- The values of an entry are allowed in it and regular. -/
theorem Setting.IsEntry.regular (h : setting.IsEntry q) :
    ∀ v ∈ q.values, q.Allows v ∧ v.Regular := by
  intro v hv
  cases h with
  | merged _ hwrappers hfields =>
      rcases List.mem_append.mp hv with hv | hv
      · have htypes := (hwrappers v hv).types
        exact ⟨Or.inl htypes.isOrdinary, htypes.regular⟩
      · rw [(mem_fieldsObject hv).2]
        exact ⟨Or.inl trivial, Setting.object_regular hfields⟩
  | status code =>
      rw [List.mem_singleton.mp hv]
      exact ⟨Or.inr (Or.inl ⟨code, rfl, rfl, rfl⟩), TypeNode.regular_of_leaf trivial rfl⟩
  | format encoding =>
      rw [List.mem_singleton.mp hv]
      exact ⟨Or.inr (Or.inr ⟨encoding, rfl, rfl, rfl⟩), TypeNode.regular_of_leaf trivial rfl⟩
  | responseBody h | requestBody h =>
      rw [List.mem_singleton.mp hv]
      exact ⟨Or.inl h.isOrdinary, h.regular⟩
  | responseHeaders hfields =>
      rw [List.mem_singleton.mp hv]
      exact ⟨Or.inl trivial, Setting.object_regular hfields⟩

/-- An entry has a value. -/
theorem Setting.IsEntry.values_ne_nil (h : setting.IsEntry q) : q.values ≠ [] := by
  cases h with
  | merged _ _ _ hne => exact hne
  | status | format | responseBody | requestBody | responseHeaders => exact List.cons_ne_nil _ _

/-- Only the entries for parameters have several values. -/
theorem Setting.IsEntry.merged_of_several (h : setting.IsEntry q) (hq : 1 < q.values.length) :
    (q.name = .field "reqHeaders" ∨ q.name = .field "query") ∧
      TypeNode.AreMerged q.values := by
  cases h with
  | @merged name required wrappers fields hname hwrappers =>
      refine ⟨hname.imp (congrArg _) (congrArg _), wrappers, fieldsObject fields, rfl, ?_, ?_⟩
      · intro v hv
        rcases hwrappers v hv with ⟨pointer, target, description, _, rfl⟩
        exact ⟨rfl, target, rfl⟩
      · unfold fieldsObject
        split
        · exact Or.inl rfl
        · exact Or.inr ⟨_, fields, rfl, rfl, rfl⟩
  | status | format | responseBody | requestBody | responseHeaders =>
      exact absurd hq (Nat.lt_irrefl 1)

end Forms

section Places

/-- Where a node stands in a typed document: as a declaration, as a value of an entry of
    an operation, or below another node. -/
inductive Place where
  | declaration (type : NamedType)
  | entry (operation : TypedOperation) (entry : Property)
  | property (property : Property)
  | member
  | item

/-- The node stands at a place of the typed document. -/
inductive Api.Stands (api : Api) : Place → TypeNode → Prop where
  | declaration {t : NamedType} (ht : t ∈ api.types) : Stands api (.declaration t) t.value
  | entry {p : TypedPath} {o : TypedOperation} {q : Property} {v : TypeNode}
      (hp : p ∈ api.paths) (ho : o ∈ p.operations) (hq : q ∈ o.entries) (hv : v ∈ q.values) :
      Stands api (.entry o q) v
  | property {place : Place} {n : TypeNode} {qs : List Property} {q : Property} {v : TypeNode}
      (h : Stands api place n) (hn : n.shape = .object qs) (hq : q ∈ qs) (hv : v ∈ q.values) :
      Stands api (.property q) v
  | member {place : Place} {n : TypeNode} {combinator : Combinator} {members : List TypeNode}
      {m : TypeNode} (h : Stands api place n) (hn : n.shape = .combined combinator members)
      (hm : m ∈ members) : Stands api .member m
  | item {place : Place} {n item : TypeNode} (h : Stands api place n)
      (hn : n.shape = .array item) : Stands api .item item

variable {api : Api}

/-- Below a node that stands somewhere its children do. -/
theorem Api.Stands.child {place : Place} {n c : TypeNode} (h : api.Stands place n)
    (hc : c ∈ n.shape.children) : ∃ place', api.Stands place' c := by
  cases hn : n.shape with
  | object qs =>
      rw [hn] at hc
      rcases List.mem_flatMap.mp hc with ⟨q, hq, hv⟩
      exact ⟨_, .property h hn hq hv⟩
  | combined combinator members =>
      rw [hn] at hc
      exact ⟨_, .member h hn hc⟩
  | array item =>
      rw [hn] at hc
      rw [List.mem_singleton.mp hc]
      exact ⟨_, .item h hn⟩
  | primitive | binary | literals | reference | status | format =>
      rw [hn] at hc
      exact absurd hc List.not_mem_nil

/-- So do all nodes of its tree. -/
theorem Api.Stands.node (n : TypeNode) : ∀ place, api.Stands place n →
    ∀ m ∈ n.nodes, ∃ place', api.Stands place' m := by
  induction n using TypeNode.inductionOn with
  | step n ih =>
      intro place h m hm
      rw [TypeNode.nodes_eq] at hm
      rcases List.mem_cons.mp hm with rfl | hm
      · exact ⟨place, h⟩
      · rcases List.mem_flatMap.mp hm with ⟨c, hc, hm⟩
        rcases h.child hc with ⟨place', hplace⟩
        exact ih c hc place' hplace m hm

/-- Every node of a typed document stands somewhere in it. -/
theorem Api.exists_place {n : TypeNode} (hn : n ∈ api.nodes) :
    ∃ place, api.Stands place n := by
  rcases Api.mem_nodes.mp hn with ⟨t, ht, hn⟩ | ⟨p, hp, o, ho, q, hq, v, hv, hn⟩
  · exact Stands.node t.value _ (.declaration ht) n hn
  · exact Stands.node v _ (.entry hp ho hq hv) n hn

/-- What a place allows. -/
def Place.Allows : Place → TypeNode → Prop
  | .entry _ q, n => q.Allows n
  | .property q, n => n.shape.IsOrdinary ∨ q.name = .index ∧ n.shape = .primitive .any
  | .declaration _, n | .member, n | .item, n => n.shape.IsOrdinary

variable {document : Document} {options : Options}

/-- A node of a typed document is allowed where it stands, and its tree is regular. -/
theorem Api.Stands.regular (h : (document.toApi options).Yields api) {place : Place}
    {n : TypeNode} (hn : api.Stands place n) : place.Allows n ∧ n.Regular := by
  induction hn with
  | declaration ht => exact (toApi_declares h _ ht).regular
  | entry hp ho hq hv => exact (toApi_isEntry h _ hp _ ho _ hq).regular _ hv
  -- A field of the object, or the property for further keys, which may be that of anything.
  | @property place n qs q v _ hn hq hv ih =>
      rcases n.regular_iff.mp ih.2 with ⟨hshape, hchildren⟩
      rw [hn] at hshape hchildren
      refine ⟨?_, hchildren v (List.mem_flatMap.mpr ⟨q, hq, hv⟩)⟩
      rcases hshape with ⟨fields, further, rfl, hfields, hfurther⟩
      rcases List.mem_append.mp hq with hq | hq
      · rcases hfields q hq with ⟨_, w, _, hvalues, hw⟩
        rw [hvalues] at hv
        exact Or.inl (List.mem_singleton.mp hv ▸ hw)
      · rcases hfurther with rfl | ⟨w, rfl, hw⟩
        · exact absurd hq List.not_mem_nil
        · rw [List.mem_singleton.mp hq] at hv ⊢
          rw [List.mem_singleton.mp hv]
          exact hw.imp_right fun hany => ⟨rfl, hany⟩
  -- The members of a regular shape are ordinary.
  | @member place n combinator members m _ hn hm ih =>
      rcases n.regular_iff.mp ih.2 with ⟨hshape, hchildren⟩
      rw [hn] at hshape hchildren
      exact ⟨hshape.2 m hm, hchildren m hm⟩
  | @item place n item _ hn ih =>
      rcases n.regular_iff.mp ih.2 with ⟨hshape, hchildren⟩
      rw [hn] at hshape hchildren
      exact ⟨hshape, hchildren item (List.mem_singleton.mpr rfl)⟩

/-- A typed document holds regular trees, with each type in its place. -/
structure Api.Regular (api : Api) : Prop where
  /-- Every node has a place, at any depth. -/
  placed : ∀ n ∈ api.nodes, ∃ place, api.Stands place n
  /-- An entry of an operation has a value. -/
  entry_values : ∀ p ∈ api.paths, ∀ o ∈ p.operations, ∀ q ∈ o.entries, q.values ≠ []
  /-- An entry with several values is one for parameters, and they are merged wrappers. -/
  entry_several : ∀ p ∈ api.paths, ∀ o ∈ p.operations, ∀ q ∈ o.entries, 1 < q.values.length →
    (q.name = .field "reqHeaders" ∨ q.name = .field "query") ∧ TypeNode.AreMerged q.values
  /-- A property of an object has one value. -/
  property_value : ∀ place n qs, api.Stands place n → n.shape = .object qs →
    ∀ q ∈ qs, ∃ v, q.values = [v]
  /-- The property for further keys is the last one and required. -/
  property_index : ∀ place n qs, api.Stands place n → n.shape = .object qs →
    (∀ q ∈ qs.dropLast, q.name ≠ .index) ∧ ∀ q ∈ qs, q.name = .index → q.required = true
  literals : ∀ place n members, api.Stands place n → n.shape = .literals members → members ≠ []
  combined : ∀ place n combinator members, api.Stands place n →
    n.shape = .combined combinator members → members ≠ []
  /-- The type of anything is the value of a property for further keys. -/
  any : ∀ place n, api.Stands place n → n.shape = .primitive .any →
    ∃ q, place = .property q ∧ q.name = .index
  /-- A status is the only value of the entry for the status. -/
  status : ∀ place n code, api.Stands place n → n.shape = .status code →
    ∃ o q, place = .entry o q ∧ q.name = .field "status" ∧ q.values = [n]
  /-- An encoding is the only value of the entry for the encoding. -/
  format : ∀ place n encoding, api.Stands place n → n.shape = .format encoding →
    ∃ o q, place = .entry o q ∧ q.name = .field "reqFormat" ∧ q.values = [n]

/-- A regular shape has properties with one value, and further keys come last. -/
theorem Shape.Regular.properties {qs : List Property} (h : (Shape.object qs).Regular) :
    (∀ q ∈ qs, ∃ v, q.values = [v]) ∧ (∀ q ∈ qs.dropLast, q.name ≠ .index) ∧
      ∀ q ∈ qs, q.name = .index → q.required = true := by
  rcases h with ⟨fields, further, rfl, hfields, hfurther⟩
  have hname : ∀ q ∈ fields, q.name ≠ .index := by
    intro q hq hindex
    rcases hfields q hq with ⟨name, _, hname, _⟩
    rw [hname] at hindex
    exact absurd hindex (by simp only [reduceCtorEq, not_false_eq_true])
  rcases hfurther with rfl | ⟨w, rfl, _⟩
  · rw [List.append_nil]
    refine ⟨fun q hq => ?_, fun q hq => hname q ((List.dropLast_sublist fields).subset hq),
      fun q hq hindex => absurd hindex (hname q hq)⟩
    rcases hfields q hq with ⟨_, v, _, hvalues, _⟩
    exact ⟨v, hvalues⟩
  · rw [List.dropLast_concat]
    refine ⟨fun q hq => ?_, hname, fun q hq hindex => ?_⟩
    · rcases List.mem_append.mp hq with hq | hq
      · rcases hfields q hq with ⟨_, v, _, hvalues, _⟩
        exact ⟨v, hvalues⟩
      · rw [List.mem_singleton.mp hq]
        exact ⟨w, rfl⟩
    · rcases List.mem_append.mp hq with hq | hq
      · exact absurd hindex (hname q hq)
      · rw [List.mem_singleton.mp hq]
        rfl

section Exceptions

variable {place : Place} {n : TypeNode}

/-- The type of anything is only allowed for further keys. -/
theorem Place.Allows.any (h : place.Allows n) (hn : n.shape = .primitive .any) :
    ∃ q, place = .property q ∧ q.name = .index := by
  cases place with
  | property q =>
      rcases h with h | ⟨hname, _⟩
      · rw [hn] at h
        exact absurd rfl h
      · exact ⟨q, rfl, hname⟩
  | entry | declaration | member | item =>
      -- At every other place something ordinary stands, and the type of anything is not.
      simp [Allows, Property.Allows, hn, Shape.IsOrdinary] at h

/-- A status is only allowed in the entry for it. -/
theorem Place.Allows.status (h : place.Allows n) {code : Nat} (hn : n.shape = .status code) :
    ∃ o q, place = .entry o q ∧ q.name = .field "status" ∧ q.values = [n] := by
  cases place with
  | entry o q =>
      rcases h with h | ⟨_, _, hname, hvalues⟩ | ⟨_, h, _⟩
      · rw [hn] at h
        exact absurd h id
      · exact ⟨o, q, rfl, hname, hvalues⟩
      · rw [hn] at h
        cases h
  | property | declaration | member | item => simp [Allows, hn, Shape.IsOrdinary] at h

/-- An encoding is only allowed in the entry for it. -/
theorem Place.Allows.format (h : place.Allows n) {encoding : BodyFormat}
    (hn : n.shape = .format encoding) :
    ∃ o q, place = .entry o q ∧ q.name = .field "reqFormat" ∧ q.values = [n] := by
  cases place with
  | entry o q =>
      rcases h with h | ⟨_, h, _⟩ | ⟨_, _, hname, hvalues⟩
      · rw [hn] at h
        exact absurd h id
      · rw [hn] at h
        cases h
      · exact ⟨o, q, rfl, hname, hvalues⟩
  | property | declaration | member | item => simp [Allows, hn, Shape.IsOrdinary] at h

end Exceptions

/-- A typed document is regular. -/
theorem toApi_regular (h : (document.toApi options).Yields api) : api.Regular := by
  -- The shape of a node is regular wherever it stands, which is all that the statements on objects
  -- need.
  have hshape : ∀ {place n}, api.Stands place n → n.shape.Regular := fun hn =>
    (hn.regular h).2 _ (TypeNode.mem_nodes_self _)
  refine {
    placed := fun n hn => Api.exists_place hn
    entry_values := fun p hp o ho q hq => (toApi_isEntry h p hp o ho q hq).values_ne_nil
    entry_several := fun p hp o ho q hq hseveral =>
      (toApi_isEntry h p hp o ho q hq).merged_of_several hseveral
    property_value := fun place n qs hn hobject => ?_
    property_index := fun place n qs hn hobject => ?_
    literals := fun place n members hn hliterals => ?_
    combined := fun place n combinator members hn hcombined => ?_
    any := fun place n hn hany => (hn.regular h).1.any hany
    status := fun place n code hn hstatus => (hn.regular h).1.status hstatus
    format := fun place n encoding hn hformat => (hn.regular h).1.format hformat }
  · exact (Shape.Regular.properties (hobject ▸ hshape hn)).1
  · exact (Shape.Regular.properties (hobject ▸ hshape hn)).2
  · have hregular := hshape hn
    rwa [hliterals] at hregular
  · have hregular := hshape hn
    rw [hcombined] at hregular
    exact hregular.1

/-- An inline parameter with an enumeration. -/
def pageParameter : Slot Parameter :=
  .inline
    { name := "page", location := .query
      schema := some (.inline { enum := some [.integer 1, .integer 2] }) }

/-- The content of a form. -/
def petForm : MediaType where
  schema := some (.reference "#/components/schemas/Pet")

/-- An operation with a referred and an inline query parameter, and a form. -/
def regularOperation : Operation where
  parameters := [.reference "#/components/parameters/Limit", pageParameter]
  requestBody := some (.inline { content := { entries := [("multipart/form-data", petForm)] } })
  responses := { entries := [("201", .inline {})] }

/-- A document with this operation, and an object that is open to further keys. -/
def regularDocument : Document where
  paths := { entries := [("/pets", { operations := { entries := [(.post, regularOperation)] } })] }
  components :=
    { schemas := { entries := [("Pet", .inline { additional := some (.allowed true) })] }
      parameters := { entries := [("Limit", pageParameter)] } }

theorem toApi_regular_sample :
    ∃ api, (regularDocument.toApi {}).Yields api ∧ api.Regular ∧
      ∃ p ∈ api.paths, ∃ o ∈ p.operations,
        o.entries.map (fun q => (q.name, q.values.length)) =
          [(.field "query", 2), (.field "status", 1), (.field "reqFormat", 1),
            (.field "reqBody", 1)] := by
  have h : (regularDocument.toApi {}).Yields _ := rfl
  exact ⟨_, h, toApi_regular h, _, List.mem_cons_self, _, List.mem_cons_self, rfl⟩

end Places

end RouteTypes
