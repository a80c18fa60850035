import RouteTypes.Proofs.Lookups
import RouteTypes.Proofs.Pointers

/-!
# Accepted Documents

Which documents are accepted when nothing is wrong with their references.

In a document that is well referenced the names of the components are distinct, every
reference that is looked at is written as a pointer, points to an entry of the registry
of its place, and narrows only where a schema stands, and chains of references end. One
would expect that it is accepted. All types can indeed be named, and all parameters,
bodies and responses can be looked up. What is left is the kind of a path parameter,
which names a directory: for it the schema is looked up too, and a schema that is
narrowed cannot be. A document that is well referenced is thus accepted exactly when no
path parameter has such a schema (`accepted_iff`); where the same reference belongs to a
parameter sent elsewhere nothing is wrong with it.

## Main definitions

* `Document.WellReferenced`: Nothing is wrong with the references of the document.
* `Components.Narrows`: Following a reference meets a property.

## Theorems

* `Components.arrives_of_not_narrows`: A chain that ends and never narrows arrives.
* `Document.WellReferenced.arrives`: What is looked up is found, unless it is narrowed.
* `accepted_iff`: When a well referenced document is accepted.
-/

namespace RouteTypes

/-- Following the reference meets a text that narrows to a property, at once or after
    some entries. -/
inductive Components.Narrows (c : Components) : String → Prop where
  | here {reference : String} {p : Pointer} (hp : Pointer.parse reference = .ok p)
      (h : p.property.isSome = true) : Narrows c reference
  | later {reference next : String} {p : Pointer} (hp : Pointer.parse reference = .ok p)
      (he : c.slot? p.registry p.key = some (.reference next)) (h : Narrows c next) :
      Narrows c reference

/-- Nothing is wrong with the names and the references of the document. -/
structure Document.WellReferenced (document : Document) : Prop where
  /-- No two components have the same type name. -/
  names : (document.components.entryKeys.map entryName).Nodup
  /-- Every reference that is looked at is a pointer to an entry of the registry of its
      place, and narrows to a property only if that is the registry of schemas. -/
  written : ∀ m ∈ document.needs, ∃ p, Pointer.IsWritten m.reference p ∧
    p.registry = m.registry ∧ (p.property.isSome = true → m.registry = .schemas) ∧
    (p.registry, p.key) ∈ document.components.entryKeys
  /-- Entries that are references are followed to a definition. -/
  ends : ∀ e ∈ document.components.entryKeys, document.components.Ends e

namespace Components

variable {c : Components} {registry : Registry} {reference : String} {p : Pointer}

-- What is narrowed has no definition of its own, so the chain stops there.
theorem not_narrows_of_arrives (h : c.Arrives registry reference) : ¬ c.Narrows reference := by
  -- The induction is on the chain. At each of its entries narrowing would have to stop it or go on
  -- along it.
  induction h with
  | last hp he =>
      intro hn
      cases hn with
      | here hp' h =>
          obtain rfl := Except.ok.inj (hp.symm.trans hp')
          exact absurd h (by simp only [Option.isSome_none, Bool.false_eq_true,
            not_false_eq_true])
      | later hp' he' _ =>
          obtain rfl := Except.ok.inj (hp.symm.trans hp')
          exact absurd (he.symm.trans he') (by simp only [Option.some.injEq, reduceCtorEq,
            not_false_eq_true])
  | step hp he _ ih =>
      intro hn
      cases hn with
      | here hp' h =>
          obtain rfl := Except.ok.inj (hp.symm.trans hp')
          exact absurd h (by simp only [Option.isSome_none, Bool.false_eq_true,
            not_false_eq_true])
      | later hp' he' hn =>
          obtain rfl := Except.ok.inj (hp.symm.trans hp')
          obtain rfl := Slot.reference.inj (Option.some.inj (he.symm.trans he'))
          exact ih hn

/-- A reference whose chain never narrows names no property, so it is a registry and a key. -/
theorem eq_of_not_narrows (hp : Pointer.parse reference = .ok p) (hn : ¬ c.Narrows reference) :
    p = { registry := p.registry, key := p.key } := by
  have hnone : p.property = none :=
    Option.not_isSome_iff_eq_none.mp fun h => hn (.here hp h)
  rcases p with ⟨r, key, property⟩
  obtain rfl := hnone
  rfl

/-- A chain that ends, stays in its registry and never narrows arrives at a definition. -/
theorem arrives_of_not_narrows {e : Registry × String}
    (hentries : ∀ key next, c.slot? registry key = some (.reference next) →
      ∃ q, Pointer.parse next = .ok q ∧ q.registry = registry)
    (hends : c.Ends e) (hp : Pointer.parse reference = .ok p) (hr : p.registry = registry)
    (he : e = (p.registry, p.key)) (hn : ¬ c.Narrows reference) :
    c.Arrives registry reference := by
  -- The induction is on how the entry ends, which is never in a cycle.
  induction hends generalizing reference p with
  | inline hdefinition =>
      subst hr he
      exact .last (eq_of_not_narrows hp hn ▸ hp) hdefinition
  | reference hpoints _ ih =>
      have hplain := eq_of_not_narrows hp hn
      subst hr he
      rcases hpoints with ⟨next, q, hnext, hq, heq⟩
      rcases hentries p.key next hnext with ⟨q', hq', hregistry⟩
      obtain rfl := Except.ok.inj (hq.symm.trans hq')
      exact .step (hplain ▸ hp) hnext (ih hq hregistry heq fun h => hn (.later hp hnext h))

/-- Where no entry narrows, no chain does. -/
theorem not_narrows_of_plain
    (hentries : ∀ key next, c.slot? registry key = some (.reference next) →
      ∃ q, Pointer.parse next = .ok q ∧ q.registry = registry ∧ q.property = none)
    (hp : Pointer.parse reference = .ok p) (hr : p.registry = registry)
    (hnone : p.property = none) : ¬ c.Narrows reference := by
  intro hn
  -- The induction is on the way to the property. No reference on it is plain and narrows.
  induction hn generalizing p with
  | here hp' h =>
      obtain rfl := Except.ok.inj (hp.symm.trans hp')
      rw [hnone] at h
      exact absurd h (by simp only [Option.isSome_none, Bool.false_eq_true, not_false_eq_true])
  | later hp' he _ ih =>
      obtain rfl := Except.ok.inj (hp.symm.trans hp')
      rcases hentries _ _ (hr ▸ he) with ⟨q, hq, hregistry, hproperty⟩
      exact ih hq hregistry hproperty

end Components

section Documents

variable {document : Document}

/-- In a well referenced document an entry that is a reference points into its own
    registry, and narrows only if it is a schema. -/
theorem Document.WellReferenced.entry (h : document.WellReferenced) {registry : Registry}
    {key next : String} (he : document.components.slot? registry key = some (.reference next)) :
    ∃ q, Pointer.parse next = .ok q ∧ q.registry = registry ∧
      (q.property.isSome = true → registry = .schemas) := by
  rcases h.written _ (Or.inl (Components.mem_needs_of_reference he)) with ⟨q, hq, hr, hs, _⟩
  exact ⟨q, Pointer.parse_eq_ok_iff.mpr hq, hr, hs⟩

/-- A definition that a well referenced document looks up is found, unless it is that of
    a schema that is narrowed. -/
theorem Document.WellReferenced.arrives (h : document.WellReferenced) {registry : Registry}
    {r : String} (hm : .definition registry r ∈ document.needs)
    (hn : registry = .schemas → ¬ document.components.Narrows r) :
    document.components.Arrives registry r := by
  rcases h.written _ hm with ⟨p, hw, hr, hs, hmem⟩
  have hp := Pointer.parse_eq_ok_iff.mpr hw
  have hnot : ¬ document.components.Narrows r := by
    by_cases hschemas : registry = .schemas
    · exact hn hschemas
    · -- Only a place for a schema may narrow, so in this registry nothing does.
      have hplain : ∀ key next,
          document.components.slot? registry key = some (.reference next) →
          ∃ q, Pointer.parse next = .ok q ∧ q.registry = registry ∧ q.property = none := by
        intro key next hnext
        rcases h.entry hnext with ⟨q, hq, hregistry, hproperty⟩
        exact ⟨q, hq, hregistry,
          Option.not_isSome_iff_eq_none.mp fun hsome => hschemas (hproperty hsome)⟩
      exact Components.not_narrows_of_plain hplain hp hr
        (Option.not_isSome_iff_eq_none.mp fun hsome => hschemas (hs hsome))
  refine Components.arrives_of_not_narrows (fun key next hnext => ?_) (h.ends _ hmem) hp hr rfl hnot
  rcases h.entry hnext with ⟨q, hq, hregistry, _⟩
  exact ⟨q, hq, hregistry⟩

/-- A document with distinct names, whose references are pointers to entries of the right
    registries and lead to definitions, is accepted exactly when following the schema of
    no path parameter meets a property. -/
theorem accepted_iff (h : document.WellReferenced) (options : Options) :
    (∃ c, (document.compile options).Yields c) ↔
      ∀ r, document.LooksUp .schemas r → ¬ document.components.Narrows r := by
  rw [compile_succeeds_iff]
  constructor
  · rintro ⟨_, hmet⟩ r hkind
    -- What is looked up was found, and a chain that arrives has not narrowed.
    have hfound := hmet _ (definition_mem_needs_iff.mpr hkind)
    exact Components.not_narrows_of_arrives
      (Components.fault?_definition_eq_none_iff.mp hfound)
  · intro hkinds
    refine ⟨h.names, fun m hm => ?_⟩
    -- To name a type takes an entry, which there is; to look one up takes a chain as well.
    cases m with
    | name registry r =>
        rcases h.written _ hm with ⟨p, hw, _, _, hmem⟩
        exact Components.fault?_name_eq_none_iff.mpr ⟨p, Pointer.parse_eq_ok_iff.mpr hw, hmem⟩
    | definition registry r =>
        refine Components.fault?_definition_eq_none_iff.mpr (h.arrives hm fun hschemas => ?_)
        subst hschemas
        exact hkinds r (definition_mem_needs_iff.mp hm)

end Documents

/-- A document whose only reference is the schema of a path parameter. -/
def identifiedPets (reference : String) : Document where
  paths :=
    { entries := [("/pets/{id}",
        { answeredItem with parameters := [.inline
            { name := "id", location := .path, required := some true,
              schema := some (.reference reference) }] })]
      nodup := by simp }
  components :=
    { schemas :=
        { entries := [("Pet", .inline
            { type := some (.single "object"),
              properties := some [("id", .inline { type := some (.single "string") })] }),
            ("Id", .inline { type := some (.single "string") })] } }

/-- Everything the document needs is asked of that one reference. -/
theorem identifiedPets_needs {reference : String} {m : Need}
    (h : m ∈ (identifiedPets reference).needs) :
    m.registry = .schemas ∧ m.reference = reference := by
  -- The components hold no references at all.
  have hcomponents : m ∉ (identifiedPets reference).components.needs := by
    rintro ⟨registry, h⟩
    cases registry with
    | schemas =>
        rcases h with ⟨e, he, h⟩
        have hslot : m ∈ slotsNeeds [.inline { type := some (.single "string") }] ∨
            m ∈ slotsNeeds ([] : List (Slot Schema)) := by
          rcases List.mem_cons.mp he with rfl | he
          · exact Or.inl h
          · obtain rfl := List.mem_singleton.mp he
            exact Or.inr h
        rw [slotsNeeds_cons, Slot.needs_inline] at hslot
        rcases hslot with (⟨_, hs, _⟩ | ⟨_, hs, _⟩) | ⟨_, hs, _⟩
        · exact absurd hs List.not_mem_nil
        · exact absurd hs List.not_mem_nil
        · exact absurd hs List.not_mem_nil
    | parameters | requestBodies | responses | headers =>
        rcases h with ⟨_, he, _⟩
        exact absurd he List.not_mem_nil
  -- A need belongs to the operation, or to the kind of the path parameter.
  rcases h with h | ⟨e, he, h⟩
  · exact absurd h hcomponents
  obtain rfl := List.mem_singleton.mp he
  rcases h with ⟨o, ho, _, h⟩ | ⟨_, slot, hslot, h⟩
  · obtain rfl := List.mem_singleton.mp ho
    rcases h with ⟨slot, hslot, h⟩ | ⟨_, slot, hsuccess, h⟩
    · obtain rfl := List.mem_singleton.mp hslot
      rcases h with ⟨s, hs, r, hr, rfl⟩
      obtain rfl := Option.some.inj hs
      cases hr
      exact ⟨rfl, rfl⟩
    · obtain rfl := (Prod.mk.inj (Option.some.inj hsuccess)).2
      rcases h with (h | ⟨response, hresponse, h⟩) | ⟨s, hs, _⟩
      · exact absurd h (Set.notMem_empty m)
      · obtain rfl := hresponse
        rcases h with ⟨s, hs, _⟩ | ⟨_, he, _⟩
        · cases hs
        · exact absurd he List.not_mem_nil
      · cases hs
  · obtain rfl := List.mem_singleton.mp hslot
    rcases h with h | ⟨p, r, hp, _, hs, rfl⟩
    · exact absurd h (Set.notMem_empty m)
    · obtain rfl := hp
      obtain rfl := Slot.reference.inj (Option.some.inj hs)
      exact ⟨rfl, rfl⟩

/-- Its references are in order when that one is. -/
theorem identifiedPets_wellReferenced {reference : String} {p : Pointer}
    (hp : Pointer.parse reference = .ok p) (hr : p.registry = .schemas)
    (hkey : p.key = "Pet" ∨ p.key = "Id") : (identifiedPets reference).WellReferenced where
  -- The document has two schemas and no other entries.
  names := by
    change (List.map entryName [(.schemas, "Pet"), (.schemas, "Id")]).Nodup
    decide
  written := by
    intro m hm
    rcases identifiedPets_needs hm with ⟨hregistry, hreference⟩
    refine ⟨p, ?_, hr.trans hregistry.symm, fun _ => hregistry, ?_⟩
    · rw [hreference]
      exact Pointer.parse_eq_ok_iff.mp hp
    · change (p.registry, p.key) ∈ [(Registry.schemas, "Pet"), (.schemas, "Id")]
      rw [hr]
      rcases hkey with hkey | hkey
      · rw [hkey]
        exact List.mem_cons_self
      · rw [hkey]
        exact List.mem_cons_of_mem _ List.mem_cons_self
  ends := by
    intro e he
    change e ∈ [(Registry.schemas, "Pet"), (.schemas, "Id")] at he
    rcases List.mem_cons.mp he with rfl | he
    · exact .inline rfl
    · obtain rfl := List.mem_singleton.mp he
      exact .inline rfl

/-- With the schema as a whole the document is accepted. -/
theorem identified_pets_accepted :
    (identifiedPets "#/components/schemas/Id").WellReferenced ∧
      ∃ c, ((identifiedPets "#/components/schemas/Id").compile {}).Yields c := by
  have hp : Pointer.parse "#/components/schemas/Id" = .ok { registry := .schemas, key := "Id" } :=
    rfl
  have hwell := identifiedPets_wellReferenced hp rfl (Or.inr rfl)
  refine ⟨hwell, (accepted_iff hwell {}).mpr fun r hkind => ?_⟩
  -- The only reference that is looked up leads to a definition at once.
  have hr := (identifiedPets_needs (definition_mem_needs_iff.mpr hkind)).2
  change r = _ at hr
  rw [hr]
  exact Components.not_narrows_of_arrives (.last hp rfl)

/-- The kind of a path parameter whose schema is a property is no reason to refuse a
    document, but it is one. -/
theorem narrowed_kind_refused :
    (identifiedPets "#/components/schemas/Pet/properties/id").WellReferenced ∧
      ((identifiedPets "#/components/schemas/Pet/properties/id").compile {}).Fails
        (.invalidReference "#/components/schemas/Pet/properties/id" .narrowed) ∧
      ¬ ∃ c, ((identifiedPets "#/components/schemas/Pet/properties/id").compile {}).Yields c := by
  have hp : Pointer.parse "#/components/schemas/Pet/properties/id"
      = .ok { registry := .schemas, key := "Pet", property := some "id" } := rfl
  have hfails : ((identifiedPets "#/components/schemas/Pet/properties/id").compile {}).Fails
      (.invalidReference "#/components/schemas/Pet/properties/id" .narrowed) := rfl
  refine ⟨identifiedPets_wellReferenced hp rfl (Or.inl rfl), hfails, ?_⟩
  rintro ⟨c, hc⟩
  exact hc.not_fails _ hfails

end RouteTypes
