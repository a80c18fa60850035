import RouteTypes.Proofs.Chains
import RouteTypes.Proofs.DocumentTrees

/-!
# What a Typed Document Keeps

Which parts of a document are typed, and in which order.

Parts are left out on four levels: paths, operations, entries of the components and
properties. On each level the document alone says which ones stay. An operation stays
when it is not deprecated and has a response for a code of success, a path when one of
its operations does, an entry when it is a reference or its definition has a type, and a
property when it is not deprecated and has a type. What stays stands in the order of the
document and once, so the result matches the filtered list element by element.

All four levels go through one lemma on steps that are repeated and may give nothing
(`Logged.yields_mapM_filter`), except properties, which are typed by a recursion of their
own and need the same argument again (`typeProperties_retains`).

## Main definitions

* `IsSuccessCode`: A status code of success.
* `Operation.IsKept`, `PathItem.kept`: The operations that stay.
* `Slot.isRetained`: The properties that stay.
* `TypedPath.Retains`, `NamedType.Retains`, `Property.Retains`: What a part of the result
  has from the part of the document it stands for.
* `Schema.Retained`: The properties of an object are those of its schema that stay.
* `Api.Retains`: A typed document keeps what it should, in order.

## Theorems

* `Operation.success?_isSome_iff`: Which operations have a successful response.
* `typePaths_retains`, `typeComponents_retains`, `typeSchema_retained`: The four levels.
* `toApi_retains`: A document that is typed keeps all of that.
-/

namespace RouteTypes

/-- When every step says by a test whether it gives something, what is kept stands beside
    the elements that pass the test. -/
theorem Logged.yields_mapM_filter {ω ε α β : Type} {f : α → Logged ω ε (Option β)}
    {xs : List α} {ys : List (Option β)} (h : (xs.mapM f).Yields ys) (keeps : α → Bool)
    (hkeeps : ∀ x ∈ xs, ∀ y, (f x).Yields y → y.isSome = keeps x) :
    List.Forall₂ (fun x b => (f x).Yields (some b)) (xs.filter keeps) (ys.filterMap id) := by
  rw [yields_mapM] at h
  -- Each result stands beside the element that it comes from, and both are kept or both left out.
  induction h with
  | nil => exact .nil
  | @cons x y xs ys hxy _ ih =>
      have hrest := ih fun x' hx' => hkeeps x' (List.mem_cons_of_mem x hx')
      have hx := hkeeps x List.mem_cons_self y hxy
      cases y with
      | none =>
          rw [List.filter_cons_of_neg (by rw [← hx]; exact Bool.false_ne_true)]
          exact hrest
      | some b =>
          rw [List.filter_cons_of_pos (by rw [← hx]; rfl)]
          exact .cons hxy hrest

section Operations

/-- A status code of success: `20` or `30` and one more digit. -/
def IsSuccessCode (code : String) : Prop :=
  ∃ digit : Char, digit.isDigit = true ∧ (code = "20".push digit ∨ code = "30".push digit)

/-- The status of a code is read when it is one of success. -/
theorem successStatus_isSome_iff (code : String) :
    (successStatus code).isSome = true ↔ IsSuccessCode code := by
  have hpush : ∀ digit, (code = "20".push digit ↔ code.toList = ['2', '0', digit]) ∧
      (code = "30".push digit ↔ code.toList = ['3', '0', digit]) := fun digit => by
    simp only [← String.toList_inj, String.toList_push]
    exact ⟨Iff.rfl, Iff.rfl⟩
  unfold IsSuccessCode
  simp only [hpush]
  unfold successStatus
  constructor
  · intro h
    split at h
    · next first last hcode =>
        split at h
        · next hdigit =>
            rw [hcode]
            -- The code has three characters, of which the first two are fixed.
            rcases hdigit with ⟨rfl | rfl, hlast⟩
            · exact ⟨last, hlast, Or.inl rfl⟩
            · exact ⟨last, hlast, Or.inr rfl⟩
        · exact absurd h (by decide)
    · exact absurd h (by decide)
  · rintro ⟨digit, hdigit, hcode | hcode⟩
    · simp [hcode, hdigit]
    · simp [hcode, hdigit]

/-- The operation stays: it is not deprecated and answers with a code of success. -/
def Operation.IsKept (o : Operation) : Prop :=
  o.deprecated = false ∧ ∃ code ∈ o.responses.keys, IsSuccessCode code

/-- An operation has a successful response when one of its codes is one of success. -/
theorem Operation.success?_isSome_iff (o : Operation) :
    o.success?.isSome = true ↔ ∃ code ∈ o.responses.keys, IsSuccessCode code := by
  unfold success? OrderedMap.keys
  simp only [List.findSome?_isSome_iff, Option.isSome_map, successStatus_isSome_iff, List.mem_map]
  constructor
  · rintro ⟨e, he, hcode⟩
    exact ⟨e.1, ⟨e, he, rfl⟩, hcode⟩
  · rintro ⟨_, ⟨e, he, rfl⟩, hcode⟩
    exact ⟨e, he, hcode⟩

instance (o : Operation) : Decidable o.IsKept :=
  decidable_of_iff (o.deprecated = false ∧ o.success?.isSome = true)
    (and_congr_right fun _ => o.success?_isSome_iff)

/-- The operations of a path that stay. -/
def PathItem.kept (item : PathItem) : List (Method × Operation) :=
  item.operations.entries.filter fun e => e.2.IsKept

end Operations

section Paths

variable {setting : Setting}

/-- A path of the result has the template of its item and an operation for each one that
    stays. -/
structure TypedPath.Retains (setting : Setting) (e : String × PathItem) (p : TypedPath) :
    Prop where
  template : p.template = e.1
  operations : List.Forall₂
    (fun e' o => o.method = e'.1 ∧ (typeOperation setting e.2 e'.1 e'.2).Yields (some o))
    e.2.kept p.operations

/-- An operation is typed exactly when it stays. -/
theorem typePathOperation_isSome {template : String} {item : PathItem} {method : Method}
    {operation : Operation} {r : Option TypedOperation}
    (h : (typePathOperation setting template item method operation).Yields r) :
    r.isSome = decide operation.IsKept := by
  rw [typePathOperation_yields_iff] at h
  rw [Bool.eq_iff_iff, decide_eq_true_eq]
  unfold Operation.IsKept
  rw [← Operation.success?_isSome_iff]
  -- A deprecated operation is left out before its responses are looked at.
  by_cases hd : operation.deprecated = true
  · rw [if_pos hd] at h
    simp [h, hd]
  · rw [if_neg hd] at h
    rcases typeOperation_yields_iff.mp h with
      ⟨_, _, ⟨hs, rfl⟩ | ⟨_, _, _, _, hs, _, _, rfl⟩⟩
    · simp [hs]
    · simp [hs, hd]

/-- The operations that are kept are typed, in their order. -/
theorem operations_retain {template : String} {item : PathItem}
    {results : List (Option TypedOperation)}
    (h : (item.operations.entries.mapM fun e =>
      typePathOperation setting template item e.1 e.2).Yields results) :
    List.Forall₂
      (fun e o => o.method = e.1 ∧ (typeOperation setting item e.1 e.2).Yields (some o))
      item.kept (results.filterMap id) := by
  have hkept := Logged.yields_mapM_filter h (fun e => decide e.2.IsKept)
    fun e _ r hr => typePathOperation_isSome hr
  -- An operation that is typed has the method that it stands under.
  refine hkept.imp fun e o hyields => ?_
  have hop := (typePathOperation_yields hyields).2
  exact ⟨typeOperation_method hop, hop⟩

/-- A path is typed exactly when one of its operations stays. -/
theorem typePath_isSome {template : String} {item : PathItem} {r : Option TypedPath}
    (h : (typePath setting template item).Yields r) : r.isSome = !item.kept.isEmpty := by
  simp only [typePath, Logged.yields_bind] at h
  rcases h with ⟨results, hresults, h⟩
  -- As many operations are typed as stay.
  have hlength := (operations_retain hresults).length_eq
  have hempty : item.kept.isEmpty = (results.filterMap id).isEmpty := by
    rw [Bool.eq_iff_iff, List.isEmpty_iff_length_eq_zero, List.isEmpty_iff_length_eq_zero,
      hlength]
  rw [hempty]
  split at h
  · next hnone =>
      simp only [Logged.yields_bind, Logged.yields_report, Logged.yields_pure, true_and,
        exists_const] at h
      rw [← h, hnone]
      rfl
  · next hsome =>
      simp only [Logged.yields_bind, Logged.yields_pure] at h
      rcases h with ⟨declared, _, rfl⟩
      rw [Bool.eq_false_iff.mpr hsome]
      rfl

/-- A typed path keeps the operations that stay. -/
theorem typePath_retains {template : String} {item : PathItem} {p : TypedPath}
    (h : (typePath setting template item).Yields (some p)) :
    p.Retains setting (template, item) := by
  simp only [typePath, Logged.yields_bind] at h
  rcases h with ⟨results, hresults, h⟩
  -- A path without an operation that stays comes to nothing.
  split at h
  · simp only [Logged.yields_bind, Logged.yields_report, Logged.yields_pure, reduceCtorEq,
      and_false, exists_const] at h
  · simp only [Logged.yields_bind, Logged.yields_pure, Option.some.injEq] at h
    rcases h with ⟨declared, _, rfl⟩
    exact ⟨rfl, operations_retain hresults⟩

/-- The paths with an operation that stays are typed, in their order. -/
theorem typePaths_retains {paths : OrderedMap String PathItem} {ps : List TypedPath}
    (h : (typePaths setting paths).Yields ps) :
    List.Forall₂ (fun e p => p.Retains setting e)
      (paths.entries.filter fun e => !e.2.kept.isEmpty) ps := by
  simp only [typePaths, Logged.yields_bind, Logged.yields_pure] at h
  rcases h with ⟨results, hresults, rfl⟩
  have hkept := Logged.yields_mapM_filter hresults (fun e => !e.2.kept.isEmpty)
    fun e _ r hr => typePath_isSome hr
  exact hkept.imp fun e p hp => typePath_retains hp

end Paths

section Components

variable {setting : Setting}

/-- A declaration of the result has the registry and key of its entry, the name made of
    the key, and the type of what stands there. -/
structure NamedType.Retains (setting : Setting) (e : Registry × String) (t : NamedType) :
    Prop where
  registry : t.registry = e.1
  key : t.key = e.2
  name : t.name = Text.typeName e.2
  value : (setting.typeEntryAt e.1 e.2).Yields (some t.value)

/-- The entries with a type are declared, in their order. -/
theorem typeComponents_retains {types : List NamedType}
    (h : (typeComponents setting).Yields types) :
    List.Forall₂ (fun e t => t.Retains setting e)
      (setting.components.entryKeys.filter fun e => setting.components.hasType e.1 e.2)
      types := by
  rw [typeComponents_yields h]
  have hentries : ∀ e ∈ setting.components.entryKeys,
      ∃ value, (setting.typeEntryAt e.1 e.2).Yields value :=
    fun e he => typeEntryAt_yields_of h he
  generalize setting.components.entryKeys = entries at hentries
  induction entries with
  -- Only that each entry can be typed is kept of the components.
  | nil => exact .nil
  | cons e entries ih =>
      have hrest := ih fun e' he' => hentries e' (List.mem_cons_of_mem e he')
      rcases hentries e List.mem_cons_self with ⟨value, hvalue⟩
      have hsome := typeEntryAt_isSome hvalue
      have hdeclaration := Setting.declaration_of_yields hvalue
      cases value with
      | none =>
          rw [List.filter_cons_of_neg (by rw [← hsome]; exact Bool.false_ne_true),
            List.filterMap_cons_none hdeclaration]
          exact hrest
      | some value =>
          rw [List.filter_cons_of_pos (by rw [← hsome]; rfl),
            List.filterMap_cons_some hdeclaration]
          exact .cons ⟨rfl, rfl, rfl, hvalue⟩ hrest

/-- An entry that is a reference has a type. -/
theorem Components.hasType_of_reference {c : Components} {registry : Registry}
    {key pointer : String} (h : c.slot? registry key = some (.reference pointer)) :
    c.hasType registry key = true := by
  cases registry with
  -- A reference of any registry is typed as its name.
  | schemas | parameters | requestBodies | responses | headers =>
      simp only [hasType, Slot.get?_of_outline h]
      rfl

end Components

section Properties

variable {setting : Setting} {direction : Direction}

/-- The property stays: it is not deprecated and has a type. -/
def Slot.isRetained (slot : Slot Schema) : Bool :=
  !slot.isDeprecated && slot.hasType

/-- A typed property has the name of the one in the document, is required when that name
    is listed, and has the type of what stands there. -/
structure Property.Retains (setting : Setting) (direction : Direction) (required : List String)
    (e : String × Slot Schema) (q : Property) : Prop where
  name : q.name = .field e.1
  required_iff : q.required = true ↔ e.1 ∈ required
  value : ∃ v, q.values = [v] ∧ (typeSlot setting direction e.2).Yields (some v)

/-- The properties that stay are typed, in their order. -/
theorem typeProperties_retains {required : List String} {slots : List (String × Slot Schema)}
    {qs : List Property} (h : (typeProperties setting direction required slots).Yields qs) :
    List.Forall₂ (Property.Retains setting direction required)
      (slots.filter fun e => e.2.isRetained) qs := by
  induction slots generalizing qs with
  | nil =>
      rw [typeProperties, Logged.yields_pure] at h
      rw [← h]
      exact .nil
  | cons e slots ih =>
      rcases e with ⟨name, slot⟩
      rcases typeProperties_cons h with ⟨v, rest, hv, hrest, rfl⟩
      by_cases hd : slot.isDeprecated = true
      · -- A deprecated property is not even typed.
        rw [if_pos hd] at hv
        rw [hv, List.filter_cons_of_neg (by simp [Slot.isRetained, hd])]
        exact ih hrest
      · rw [if_neg hd] at hv
        have hsome := typeSlot_isSome hv
        cases v with
        | none =>
            rw [List.filter_cons_of_neg (by simp [Slot.isRetained, ← hsome])]
            exact ih hrest
        | some v =>
            rw [List.filter_cons_of_pos (by simp [Slot.isRetained, hd, ← hsome])]
            exact .cons ⟨rfl, List.contains_iff_mem, v, rfl, hv⟩ (ih hrest)

/-- Every property that is not deprecated is typed, whether it stays or not. -/
theorem exists_of_not_deprecated {required : List String} {slots : List (String × Slot Schema)}
    {qs : List Property} (h : (typeProperties setting direction required slots).Yields qs) :
    ∀ e ∈ slots, e.2.isDeprecated = false →
      ∃ v, (typeSlot setting direction e.2).Yields v ∧ v.isSome = e.2.hasType := by
  induction slots generalizing qs with
  | nil => exact fun e he => absurd he List.not_mem_nil
  | cons e slots ih =>
      rcases e with ⟨name, slot⟩
      rcases typeProperties_cons h with ⟨v, rest, hv, hrest, _⟩
      intro e he hd
      rcases List.mem_cons.mp he with rfl | he
      · rw [if_neg (Bool.eq_false_iff.mp hd)] at hv
        exact ⟨v, hv, typeSlot_isSome hv⟩
      · exact ih hrest e he hd

/-- All further keys give no property or one. -/
theorem typedFurther_eq {s : Schema} {qs : List Property}
    (h : (s.typedFurther setting direction).Yields qs) : qs = [] ∨ ∃ v, qs = [.index v] := by
  -- Further keys give a property exactly when their value has a type.
  have hindex : ∀ value, indexProperties value = [] ∨ ∃ v, indexProperties value = [.index v] := by
    intro value
    cases value with
    | none => exact Or.inl rfl
    | some v => exact Or.inr ⟨v, rfl⟩
  unfold Schema.typedFurther at h
  split at h
  · rcases (Logged.yields_map _ _ _).mp h with ⟨value, _, rfl⟩
    exact hindex value
  · exact (Logged.yields_pure _ _).mp h ▸ hindex _
  all_goals exact Or.inl ((Logged.yields_pure _ _).mp h).symm

/-- The properties of an object are those of its schema that stay, then one for further
    keys at most. Those that do not stay are deprecated or have no type. -/
structure Schema.Retained (setting : Setting) (direction : Direction) (s : Schema)
    (qs : List Property) : Prop where
  properties : ∃ own further, qs = own ++ further ∧
    List.Forall₂ (Property.Retains setting direction s.required)
      ((s.properties.getD []).filter fun e => e.2.isRetained) own ∧
    (further = [] ∨ ∃ v, further = [.index v])
  typed : ∀ e ∈ s.properties.getD [], e.2.isDeprecated = false →
    ∃ v, (typeSlot setting direction e.2).Yields v ∧ v.isSome = e.2.hasType

/-- The properties that a schema is typed with are those that it keeps. -/
theorem typedOwn_retained {s : Schema} {own further : List Property}
    (hown : (s.typedOwn setting direction).Yields own)
    (hfurther : (s.typedFurther setting direction).Yields further) :
    s.Retained setting direction (own ++ further) := by
  unfold Schema.typedOwn at hown
  cases hslots : s.properties with
  | none =>
      rw [hslots, Logged.yields_pure] at hown
      refine ⟨⟨own, further, rfl, ?_, typedFurther_eq hfurther⟩, fun e he => ?_⟩
      · rw [hslots, ← hown]
        exact .nil
      · rw [hslots] at he
        exact absurd he List.not_mem_nil
  | some slots =>
      rw [hslots] at hown
      refine ⟨⟨own, further, rfl, ?_, typedFurther_eq hfurther⟩, ?_⟩
      · rw [hslots]
        exact typeProperties_retains hown
      · rw [hslots]
        exact exists_of_not_deprecated hown

/-- A schema that is typed as an object keeps its properties, in their order. -/
theorem typeSchema_retained {s : Schema} {n : TypeNode}
    (h : (typeSchema setting direction s).Yields (some n)) {qs : List Property}
    (hn : n.shape = .object qs) : s.Retained setting direction qs := by
  rcases typeSchema_becomes h with ⟨shape, hshape, rfl⟩
  change shape = .object qs at hn
  cases hshape with
  | object _ _ _ _ hown hfurther =>
      cases hn
      exact typedOwn_retained hown hfurther
  | combined | literals | array | binary | primitive => cases hn

end Properties

/-- A typed document keeps what it should, in the order of the document: the paths and
    operations that stay, the entries that are references or have a type, and for every
    schema that is typed as an object the properties that stay. -/
structure Api.Retains (api : Api) (document : Document) (options : Options) : Prop where
  paths : List.Forall₂ (fun e p => p.Retains (document.setting options) e)
    (document.paths.entries.filter fun e => !e.2.kept.isEmpty) api.paths
  types : List.Forall₂ (fun e t => t.Retains (document.setting options) e)
    (document.components.entryKeys.filter fun e => document.components.hasType e.1 e.2) api.types
  /-- The entries that are left out are typed as well, and have no type. -/
  typed : ∀ e ∈ document.components.entryKeys,
    ∃ v, ((document.setting options).typeEntryAt e.1 e.2).Yields v ∧
      v.isSome = document.components.hasType e.1 e.2
  references : ∀ registry key pointer,
    document.components.slot? registry key = some (.reference pointer) →
      document.components.hasType registry key = true
  objects : ∀ direction s n qs,
    (typeSchema (document.setting options) direction s).Yields (some n) →
      n.shape = .object qs → s.Retained (document.setting options) direction qs

/-- A document that is typed keeps what it should. -/
theorem toApi_retains {document : Document} {options : Options} {api : Api}
    (h : (document.toApi options).Yields api) : api.Retains document options := by
  rcases toApi_yields h with ⟨_, htypes, hpaths, _, _⟩
  refine {
    paths := typePaths_retains hpaths
    types := typeComponents_retains htypes
    typed := fun e he => ?_
    references := fun _ _ _ => Components.hasType_of_reference
    objects := fun _ _ _ _ hn hshape => typeSchema_retained hn hshape }
  rcases typeEntryAt_yields_of htypes he with ⟨v, hv⟩
  exact ⟨v, hv, typeEntryAt_isSome hv⟩

/-- A schema with a deprecated property, one without a type, two others and further
    keys. -/
def retainingSchema : Schema where
  properties := some [
    ("old", .inline { type := some (.single "string"), deprecated := true }),
    ("empty", .inline {}),
    ("owner", .reference "#/components/schemas/Pet"),
    ("name", .inline { type := some (.single "string") })]
  required := ["name"]
  additional := some (.allowed true)

/-- A document with an entry that has no type, an operation that is deprecated, one that
    only answers with an error, and a path on which nothing stays. -/
def retainingDocument : Document where
  paths :=
    { entries := [
        ("/closed", { operations := { entries := [(.get, { deprecated := true, responses :=
          { entries := [("204", .inline {})] } })] } }),
        ("/pets", { operations := { entries := [
          (.post, { responses := { entries := [("404", .inline {}), ("201", .inline {})] } }),
          (.put, { responses := { entries := [("404", .inline {})] } }),
          (.get, { responses := { entries := [("302", .inline {})] } })] } })] }
  components :=
    { schemas := { entries := [("Pet", .inline retainingSchema), ("Void", .inline {})] }
      headers := { entries := [("Limit", .reference "#/components/schemas/Pet")] } }

theorem toApi_retains_sample :
    ∃ api, (retainingDocument.toApi {}).Yields api ∧ api.Retains retainingDocument {} ∧
      api.paths.map (·.template) = ["/pets"] ∧
      api.paths.map (·.operations.map (·.method)) = [[.post, .get]] ∧
      api.types.map (·.name) = ["Pet", "Limit"] :=
  ⟨_, rfl, toApi_retains rfl, rfl, rfl, rfl⟩

end RouteTypes
