import RouteTypes.Proofs.Lookups
import RouteTypes.Proofs.Origins

/-!
# References in Their Places

Whether a reference points into the registry that belongs to its place.

A place for a schema should hold a reference to a schema, a place for a parameter one to
a parameter, and so on. This is checked where a definition is looked up, and only there:
the type that a reference names is accepted as soon as some registry has the entry. So a
misplaced parameter, body or response of an operation is refused, with an error that
says so. A misplaced reference in a schema or among the headers of a response, or one
that stands for another component, is not refused; it ends up in the output under the
name of what it points to (`misplaced_property_accepted`).

In a document that is accepted all references are therefore in place exactly when those
are that are named and never looked up (`references_in_place_iff`).

## Main definitions

* `Need.InPlace`: The reference points into the registry of its place.

## Theorems

* `Components.fault?_definition_of_misplaced`: A misplaced reference is an error when
  looked up.
* `misplaced_refused`: A document that looks one up is refused, and with which error.
* `references_in_place_iff`: When all references of an accepted document are in place.
-/

namespace RouteTypes

/-- The reference points into the registry that belongs to its place. -/
def Need.InPlace (m : Need) : Prop :=
  ∃ p, Pointer.parse m.reference = .ok p ∧ p.registry = m.registry

/-- A reference into another registry is refused. The registry is looked at before the entries
    are. -/
theorem follow_of_misplaced {α : Type} {registry : Registry}
    {entries : OrderedMap String (Slot α)} {reference : String} {p : Pointer}
    (hp : Pointer.parse reference = .ok p) (hr : p.registry ≠ registry) :
    follow registry entries reference
      = .error (.invalidReference reference (.wrongRegistry registry)) := by
  have hkey : definitionKey registry reference
      = .error (.invalidReference reference (.wrongRegistry registry)) := by
    unfold definitionKey
    rw [hp]
    dsimp only
    rw [if_pos hr]
  unfold follow followSteps
  rw [hkey]

namespace Components

variable {c : Components} {registry : Registry} {reference : String} {p : Pointer}

/-- A reference that leads to a definition is in place. -/
theorem inPlace_of_arrives (h : c.Arrives registry reference) :
    (Need.definition registry reference).InPlace := by
  cases h with
  | last hp _ => exact ⟨_, hp, rfl⟩
  | step hp _ _ => exact ⟨_, hp, rfl⟩

/-- A misplaced reference is an error for that reason when its definition is looked up. -/
theorem fault?_definition_of_misplaced (hp : Pointer.parse reference = .ok p)
    (hr : p.registry ≠ registry) :
    c.fault? (.definition registry reference)
      = some (.invalidReference reference (.wrongRegistry registry)) := by
  change c.followFault? registry reference = _
  cases registry with
  -- Every registry is followed in its own map, and the answer is the same in all.
  | schemas => exact errorOf_eq_some_iff.mpr (follow_of_misplaced hp hr)
  | parameters => exact errorOf_eq_some_iff.mpr (follow_of_misplaced hp hr)
  | requestBodies => exact errorOf_eq_some_iff.mpr (follow_of_misplaced hp hr)
  | responses => exact errorOf_eq_some_iff.mpr (follow_of_misplaced hp hr)
  | headers => exact errorOf_eq_some_iff.mpr (follow_of_misplaced hp hr)

/-- When only a type is named, the registry of the place makes no difference. -/
theorem fault?_name_eq_none_iff_of_parse (hp : Pointer.parse reference = .ok p) :
    c.fault? (.name registry reference) = none ↔ (p.registry, p.key) ∈ c.entryKeys := by
  rw [fault?_name_eq_none_iff]
  constructor
  · rintro ⟨p', hp', hmem⟩
    obtain rfl := Except.ok.inj (hp.symm.trans hp')
    exact hmem
  · intro hmem
    exact ⟨p, hp, hmem⟩

end Components

section Documents

variable {document : Document} {options : Options} {registry : Registry} {r : String}

/-- A document that looks up a misplaced reference is refused. If nothing else is wrong
    with it, the error is that the reference is misplaced. -/
theorem misplaced_refused {p : Pointer} (hlookup : document.LooksUp registry r)
    (hp : Pointer.parse r = .ok p) (hr : p.registry ≠ registry) :
    (∃ error, (document.compile options).Fails error) ∧
      ((document.components.entryKeys.map entryName).Nodup →
        (∀ m ∈ document.needs, m ≠ .definition registry r →
          document.components.fault? m = none) →
        (document.compile options).Fails (.invalidReference r (.wrongRegistry registry))) := by
  have hfault := Components.fault?_definition_of_misplaced (c := document.components) hp hr
  -- The need is among those of the document, and its fault makes the compilation fail.
  have hrefused : ∃ error, (document.compile options).Fails error := by
    refine compile_fails_iff.mpr (Or.inr ⟨_, definition_mem_needs_iff.mpr hlookup, ?_⟩)
    rw [hfault]
    simp only [ne_eq, reduceCtorEq, not_false_eq_true]
  refine ⟨hrefused, fun hnames hothers => ?_⟩
  rcases hrefused with ⟨error, herror⟩
  -- The error is that of a name or of a need, and nothing but this need is left.
  rcases compile_fails herror with hclash | ⟨_, m, hm, hfault'⟩
  · rw [(checkNames_eq_ok_iff _).mpr hnames] at hclash
    exact absurd hclash (by simp only [reduceCtorEq, not_false_eq_true])
  · by_cases heq : m = .definition registry r
    · rw [heq, hfault, Option.some.injEq] at hfault'
      rw [hfault']
      exact herror
    · rw [hothers m hm heq] at hfault'
      exact absurd hfault' (by simp only [reduceCtorEq, not_false_eq_true])

/-- The references of a document that is typed are all in place exactly when those are
    that are named and never looked up. These are all references there are: what is in
    the output was named in the document. A misplaced reference that is looked up makes
    every compilation fail, as misplaced if nothing else is wrong. One that is only named
    is no fault as long as it leads to an entry of some registry. -/
theorem references_in_place_iff (document : Document) (options : Options) :
    (∀ api, (document.toApi options).Yields api →
      (∀ n ∈ api.nodes, ∀ r, n.shape = .reference r →
        (document.setting options).Comes document.needs r) ∧
      ((∀ m ∈ document.needs, m.InPlace) ↔
        ∀ registry r, .name registry r ∈ document.needs →
          ¬ document.LooksUp registry r → (Need.name registry r).InPlace)) ∧
    ∀ registry r p, Pointer.parse r = .ok p → p.registry ≠ registry →
      (document.LooksUp registry r →
        (∃ error, (document.compile options).Fails error) ∧
        ((document.components.entryKeys.map entryName).Nodup →
          (∀ m ∈ document.needs, m ≠ .definition registry r →
            document.components.fault? m = none) →
          (document.compile options).Fails (.invalidReference r (.wrongRegistry registry)))) ∧
      (document.components.fault? (.name registry r) = none ↔
        (p.registry, p.key) ∈ document.components.entryKeys) := by
  refine ⟨fun api hapi => ⟨toApi_comesFrom hapi, ?_⟩, fun registry r p hp hr => ?_⟩
  · have hcompiled : (document.compile options).Yields api.compilation :=
      compile_yields_iff.mpr ⟨api, hapi, rfl⟩
    -- What is looked up was found, and only references in place are.
    have hlookups : ∀ registry r, document.LooksUp registry r →
        (Need.definition registry r).InPlace := by
      intro registry r hlookup
      have hmet := (compile_met hcompiled).2 _ (definition_mem_needs_iff.mpr hlookup)
      exact Components.inPlace_of_arrives (Components.fault?_definition_eq_none_iff.mp hmet)
    constructor
    · intro hall registry r hname _
      exact hall _ hname
    · intro hnames m hm
      cases m with
      | definition registry r => exact hlookups registry r (definition_mem_needs_iff.mp hm)
      | name registry r =>
          by_cases hlookup : document.LooksUp registry r
          · exact hlookups registry r hlookup
          · exact hnames registry r hm hlookup
  · exact ⟨fun hlookup => misplaced_refused hlookup hp hr,
      Components.fault?_name_eq_none_iff_of_parse hp⟩

end Documents

/-- A path with a schema among its parameters. -/
def misplacedParameter : Document where
  paths :=
    { entries := [("/pets",
        { answeredItem with parameters := [.reference "#/components/schemas/Id"] })] }
  components :=
    { schemas := { entries := [("Id", .inline { type := some (.single "string") })] } }

theorem misplaced_parameter_refused :
    misplacedParameter.LooksUp .parameters "#/components/schemas/Id" ∧
      ∃ error, (misplacedParameter.compile {}).Fails error := by
  have hp : Pointer.parse "#/components/schemas/Id" = .ok { registry := .schemas, key := "Id" } :=
    rfl
  have hlookup : misplacedParameter.LooksUp .parameters "#/components/schemas/Id" :=
    Or.inl ⟨_, _, ⟨_, _, List.mem_cons_self, List.mem_cons_self, rfl⟩, List.mem_cons_self⟩
  have hchecked := (references_in_place_iff misplacedParameter {}).2 _ _ _ hp
    (by decide : Registry.schemas ≠ .parameters)
  exact ⟨hlookup, (hchecked.1 hlookup).1⟩

/-- A schema with a parameter for a property. -/
def misplacedProperty : Document where
  components :=
    { schemas := { entries := [("Pet", .inline
        { type := some (.single "object"),
          properties := some [("limit", .reference "#/components/parameters/Limit")] })] },
      parameters := { entries := [("Limit", .inline
        { name := "limit", location := .query,
          schema := some (.inline { type := some (.single "integer") }) })] } }

/-- What that document is typed into: the property is whatever the parameter is. -/
def misplacedPropertyApi : Api where
  baseUrl := ""
  space := "Types"
  types := [
    declarationOf .schemas "Pet" { shape := .object [.field "limit" false none
      (TypeRef.node { space := "Types", name := "Limit" })] },
    declarationOf .parameters "Limit" { shape := .object [.field "limit" false none
      { shape := .primitive .number }] }]
  paths := []

/-- A property of a schema that refers to a parameter is accepted and typed as the
    parameter. -/
theorem misplaced_property_accepted :
    (misplacedProperty.toApi {}).Yields misplacedPropertyApi ∧
      TypeRef.node { space := "Types", name := "Limit" } ∈ misplacedPropertyApi.nodes ∧
      .name .schemas "#/components/parameters/Limit" ∈ misplacedProperty.needs ∧
      ¬ (Need.name .schemas "#/components/parameters/Limit").InPlace := by
  have hp : Pointer.parse "#/components/parameters/Limit"
      = .ok { registry := .parameters, key := "Limit" } := rfl
  refine ⟨rfl, ?_, Or.inl ⟨.schemas, _, List.mem_cons_self, ?_⟩, ?_⟩
  · exact List.mem_append_left _ (List.mem_cons_of_mem _ List.mem_cons_self)
  -- The property stands in the schema at once, so no step leads to it.
  · exact ⟨.reference "#/components/parameters/Limit", List.mem_cons_self, _, .here _, rfl⟩
  · rintro ⟨p, hp', hr⟩
    obtain rfl := Except.ok.inj (hp.symm.trans hp')
    exact absurd hr (by decide)

end RouteTypes
