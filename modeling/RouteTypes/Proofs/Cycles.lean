import RouteTypes.Proofs.Lookups
import Mathlib.Logic.Relation

/-!
# Reference Cycles

What becomes of components that only refer to each other.

Entries that are references are declared as other names for what they refer to. The
entry they refer to has to exist, but it is not looked at, so a loop of such entries is
declared like any other: every one of them is another name for the next. A loop is
noticed only when a definition is looked up through it, which happens for parameters,
request bodies, responses and the schemas of path parameters that operations use. So a
document with a loop is refused for that reason only if one of these does not arrive at
a definition (`endless_refused_iff`). Schemas are never looked up for their own sake,
and a loop of schemas goes through (`schema_loop_accepted`).

## Main definitions

* `Components.IsEndless`: A reference that is followed and never reaches a definition.
* `Api.Renames`: An entry is declared as another name for an entry that it refers to.

## Theorems

* `Components.not_ends_of_closed`: A closed set of references never reaches a definition.
* `declared_of_reference`: An entry that is a reference is declared as another name.
* `endless_refused_iff`: When a document with an endless entry is refused.
-/

namespace RouteTypes

open Relation (ReflTransGen)

namespace Components

variable {c : Components} {e e' : Registry × String}

/-- The entry is a reference, and following references from it never reaches a
    definition. -/
def IsEndless (c : Components) (e : Registry × String) : Prop :=
  (∃ r, c.slot? e.1 e.2 = some (.reference r)) ∧ ¬ c.Ends e

-- To be used for loops: what only refers to itself is never left.
theorem not_ends_of_closed {loop : Set (Registry × String)}
    (hreference : ∀ e ∈ loop, ∃ r, c.slot? e.1 e.2 = some (.reference r))
    (hclosed : ∀ e ∈ loop, ∀ e', c.PointsTo e e' → e' ∈ loop) : ∀ e ∈ loop, ¬ c.Ends e := by
  intro e he hends
  -- A definition at the end of the chain would stand at an entry of the loop.
  induction hends with
  | inline hdefinition =>
      rcases hreference _ he with ⟨r, hr⟩
      rw [hr] at hdefinition
      exact absurd hdefinition (by simp only [Option.some.injEq, reduceCtorEq, not_false_eq_true])
  | reference hpoints _ ih => exact ih (hclosed _ he _ hpoints)

-- The shortest loop of two, in one registry or across two.
theorem isEndless_of_pair {r r' : String} {p p' : Pointer}
    (hp : Pointer.parse r = .ok p) (hp' : Pointer.parse r' = .ok p')
    (hr : c.slot? p.registry p.key = some (.reference r'))
    (hr' : c.slot? p'.registry p'.key = some (.reference r)) :
    c.IsEndless (p.registry, p.key) := by
  let loop : Set (Registry × String) := {(p.registry, p.key), (p'.registry, p'.key)}
  have hloop : ∀ e ∈ loop, ¬ c.Ends e := by
    refine not_ends_of_closed ?_ ?_
    · rintro e (rfl | rfl)
      · exact ⟨r', hr⟩
      · exact ⟨r, hr'⟩
    · rintro e (rfl | rfl) e' ⟨next, q, hnext, hq, rfl⟩
      · obtain rfl := Slot.reference.inj (Option.some.inj (hr.symm.trans hnext))
        obtain rfl := Except.ok.inj (hp'.symm.trans hq)
        exact Or.inr rfl
      · obtain rfl := Slot.reference.inj (Option.some.inj (hr'.symm.trans hnext))
        obtain rfl := Except.ok.inj (hp.symm.trans hq)
        exact Or.inl rfl
  exact ⟨⟨r', hr⟩, hloop _ (Or.inl rfl)⟩

/-- What reaches an entry that ends ends itself. -/
theorem ends_of_reaches (h : ReflTransGen c.PointsTo e e') (hends : c.Ends e') : c.Ends e := by
  induction h using ReflTransGen.head_induction_on with
  | refl => exact hends
  | head hpoints _ ih => exact .reference hpoints ih

/-- A definition that can be looked up lies at the end of a chain that ends. -/
theorem ends_of_arrives {registry : Registry} {reference : String}
    (h : c.Arrives registry reference) {p : Pointer} (hp : Pointer.parse reference = .ok p) :
    c.Ends (p.registry, p.key) := by
  -- The induction is on the chain, for whatever pointer its first text is.
  induction h generalizing p with
  | last hp' he =>
      obtain rfl := Except.ok.inj (hp'.symm.trans hp)
      exact .inline he
  | @step reference key next hp' he h ih =>
      obtain rfl := Except.ok.inj (hp'.symm.trans hp)
      have hnext : ∃ q, Pointer.parse next = .ok q := by
        cases h with
        | last hq _ => exact ⟨_, hq⟩
        | step hq _ _ => exact ⟨_, hq⟩
      rcases hnext with ⟨q, hq⟩
      exact .reference ⟨next, q, he, hq, rfl⟩ (ih hq)

/-- A reference stands at an entry. -/
theorem mem_entryKeys_of_reference {r : String}
    (h : c.slot? e.1 e.2 = some (.reference r)) : e ∈ c.entryKeys := by
  rw [mem_entryKeys_iff, h]
  rfl

/-- What stands at an entry that does not end is a reference. -/
theorem isEndless_of_not_ends (he : e ∈ c.entryKeys) (hends : ¬ c.Ends e) : c.IsEndless e := by
  rw [mem_entryKeys_iff, Option.isSome_iff_exists] at he
  rcases he with ⟨slot, hslot⟩
  cases slot with
  | reference r => exact ⟨⟨r, hslot⟩, hends⟩
  | inline _ => exact absurd (.inline hslot) hends

end Components

/-- An entry that is a reference is typed as the type it names. -/
theorem typeEntryAt_reference {setting : Setting} {registry : Registry} {key r : String}
    (h : setting.components.slot? registry key = some (.reference r)) :
    setting.typeEntryAt registry key
      = setting.typeRef r >>= fun target => pure (some target.node) := by
  -- In every registry the key leads to the same slot as the outline.
  have hkey : ∀ {α : Type} (inline : α → Typing (Option TypeNode))
      (entries : OrderedMap String (Slot α)),
      (entries.get? key).map Slot.outline = some (.reference r) →
      typeKey setting inline entries key
        = setting.typeRef r >>= fun target => pure (some target.node) := by
    intro α inline entries hentry
    unfold typeKey
    rw [Slot.get?_of_outline hentry]
    rfl
  cases registry with
  | schemas => exact hkey _ _ h
  | parameters => exact hkey _ _ h
  | requestBodies => exact hkey _ _ h
  | responses => exact hkey _ _ h
  | headers => exact hkey _ _ h

/-- The entry is declared as nothing but another name for an entry that it refers to. -/
def Api.Renames (api : Api) (c : Components) (e : Registry × String) : Prop :=
  ∃ e' target, c.PointsTo e e' ∧ target.name = entryName e' ∧
    ∃ t ∈ api.types, (t.registry, t.key) = e ∧ t.name = entryName e ∧
      t.value.shape = .reference target

section Documents

variable {document : Document} {options : Options} {e : Registry × String}

/-- An entry that is a reference is declared as another name for what it refers to, and
    that is an entry as well. -/
theorem declared_of_reference {api : Api} (h : (document.toApi options).Yields api) {r : String}
    (hr : document.components.slot? e.1 e.2 = some (.reference r)) :
    api.Renames document.components e ∧
      ∀ e', document.components.PointsTo e e' → e' ∈ document.components.entryKeys := by
  have he := Components.mem_entryKeys_of_reference hr
  have htypes := (toApi_yields h).2.1
  rcases typeEntryAt_yields_of htypes he with ⟨value, hvalue⟩
  have hyields := hvalue
  rw [typeEntryAt_reference hr] at hyields
  simp only [Logged.yields_bind, Logged.yields_pure] at hyields
  rcases hyields with ⟨target, htarget, rfl⟩
  -- The reference was looked at, so it leads to an entry.
  rcases Components.typeRef_eq_ok_iff.mp htarget with ⟨p, hp, hmem, hname⟩
  refine ⟨⟨(p.registry, p.key), target, ⟨r, p, hr, hp, rfl⟩, ?_,
    declarationOf e.1 e.2 target.node, ?_, rfl, rfl, rfl⟩, ?_⟩
  · rw [hname]
    rfl
  · rw [typeComponents_yields htypes]
    refine List.mem_filterMap.mpr ⟨e, he, ?_⟩
    exact Setting.declaration_of_yields hvalue
  · -- The entry holds one reference, which leads to one place.
    rintro _ ⟨r', p', hr', hp', rfl⟩
    rw [hr, Option.some.injEq, Slot.reference.injEq] at hr'
    rw [← hr', hp, Except.ok.injEq] at hp'
    rw [← hp']
    exact hmem

/-- From an endless entry of a document that is accepted only endless entries are
    reached. -/
theorem isEndless_of_reaches {api : Api} (h : (document.toApi options).Yields api)
    (he : document.components.IsEndless e) {e' : Registry × String}
    (hreach : ReflTransGen document.components.PointsTo e e') :
    document.components.IsEndless e' := by
  -- The induction is on the way. Each entry on it is a reference that leads to another entry.
  induction hreach with
  | refl => exact he
  | tail _ hpoints ih =>
      rcases ih with ⟨⟨r, hr⟩, hends⟩
      have hmem := (declared_of_reference h hr).2 _ hpoints
      exact Components.isEndless_of_not_ends hmem fun hc => hends (.reference hpoints hc)

/-- A document that holds an endless entry is refused for the reasons that any document
    is: two names are the same, a type is named after an entry that does not exist, or a
    definition is looked up and not found. So it is refused when a definition is looked
    up through the endless entry. Otherwise that entry and all that are reached from it
    are declared, each as another name for the next. -/
theorem endless_refused_iff (he : document.components.IsEndless e) (options : Options) :
    ((∃ error, (document.compile options).Fails error) ↔
      ¬ (document.components.entryKeys.map entryName).Nodup ∨
      (∃ registry r, .name registry r ∈ document.needs ∧
        ∀ p, Pointer.parse r = .ok p → (p.registry, p.key) ∉ document.components.entryKeys) ∨
      ∃ registry r, document.LooksUp registry r ∧
        ¬ document.components.Arrives registry r) ∧
    (∀ registry r p, document.LooksUp registry r → Pointer.parse r = .ok p →
      ReflTransGen document.components.PointsTo e (p.registry, p.key) →
      ∃ error, (document.compile options).Fails error) ∧
    ∀ api, (document.toApi options).Yields api →
      ∀ e', ReflTransGen document.components.PointsTo e e' → api.Renames document.components e' := by
  have hrefused : (∃ error, (document.compile options).Fails error) ↔
      ¬ (document.components.entryKeys.map entryName).Nodup ∨
      (∃ registry r, .name registry r ∈ document.needs ∧
        ∀ p, Pointer.parse r = .ok p → (p.registry, p.key) ∉ document.components.entryKeys) ∨
      ∃ registry r, document.LooksUp registry r ∧
        ¬ document.components.Arrives registry r := by
    -- An error is a name that is taken or a need that is not met, of one of two kinds.
    rw [compile_fails_iff, Need.exists_iff]
    simp only [ne_eq, Components.fault?_name_eq_none_iff,
      Components.fault?_definition_eq_none_iff, definition_mem_needs_iff, not_exists, not_and]
  refine ⟨hrefused, fun registry r p hlookup hp hreach => ?_, fun api hapi e' hreach => ?_⟩
  · -- A definition that is found would end the chain of the endless entry.
    refine hrefused.mpr (Or.inr (Or.inr ⟨registry, r, hlookup, fun harrives => ?_⟩))
    exact he.2 (Components.ends_of_reaches hreach (Components.ends_of_arrives harrives hp))
  · rcases isEndless_of_reaches hapi he hreach with ⟨⟨r, hr⟩, _⟩
    exact (declared_of_reference hapi hr).1

end Documents

/-- Two responses that refer to each other, and an operation that answers with one. -/
def loopedResponses : Document where
  paths :=
    { entries := [("/pets", { operations := { entries := [(.get,
        { responses := { entries := [("200", .reference "#/components/responses/A")] } })] } })] }
  components :=
    { responses :=
        { entries := [("A", .reference "#/components/responses/B"),
            ("B", .reference "#/components/responses/A")] } }

/-- With a loop of responses that an operation looks up the document is refused. -/
theorem response_loop_refused :
    loopedResponses.components.IsEndless (.responses, "A") ∧
      ∃ error, (loopedResponses.compile {}).Fails error := by
  have hp : Pointer.parse "#/components/responses/A" = .ok { registry := .responses, key := "A" } :=
    rfl
  have hloop : loopedResponses.components.IsEndless (.responses, "A") :=
    Components.isEndless_of_pair hp rfl rfl rfl
  -- The operation is not deprecated, so its response is looked up.
  have hlookup : loopedResponses.LooksUp .responses "#/components/responses/A" :=
    ⟨_, _, ⟨_, _, List.mem_cons_self, List.mem_cons_self, rfl⟩, 200, rfl⟩
  exact ⟨hloop, (endless_refused_iff hloop {}).2.1 _ _ _ hlookup hp .refl⟩

/-- Two schemas that refer to each other. -/
def loopedSchemas : Document where
  components :=
    { schemas :=
        { entries := [("A", .reference "#/components/schemas/B"),
            ("B", .reference "#/components/schemas/A")] } }

/-- What they are typed into: two names for each other. -/
def loopedSchemasApi : Api where
  baseUrl := ""
  space := "Types"
  types := [declarationOf .schemas "A" (TypeRef.node { space := "Types", name := "B" }),
    declarationOf .schemas "B" (TypeRef.node { space := "Types", name := "A" })]
  paths := []

/-- A loop of schemas is accepted, and both are declared as each other. -/
theorem schema_loop_accepted :
    loopedSchemas.components.IsEndless (.schemas, "A") ∧
      (loopedSchemas.toApi {}).Yields loopedSchemasApi ∧
      ∃ c, (loopedSchemas.compile {}).Yields c := by
  refine ⟨?_, rfl, _, compile_yields_iff.mpr ⟨loopedSchemasApi, rfl, rfl⟩⟩
  have hp : Pointer.parse "#/components/schemas/A" = .ok { registry := .schemas, key := "A" } := rfl
  exact Components.isEndless_of_pair hp rfl rfl rfl

end RouteTypes
