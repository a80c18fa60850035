import RouteTypes.Proofs.OutputPaths
import RouteTypes.Proofs.TypingCorrespondence

/-!
# Spellings of Nullability

Two ways to say that a value may be `null`.

Older documents set a flag beside the type, newer ones list `null` among the types. What
kind of value a schema describes and whether `null` is allowed besides are two questions
about the same keywords. For a list with one kind and `null` in it, in any order and as
often as wanted, both have the answers that they have for that kind with the flag
(`NullSpelling.kind_eq`, `NullSpelling.allowsNull_eq`).

Typing asks nothing else about these keywords, so a schema may be spelled in the other way
wherever it stands. A respelled schema corresponds to the original when the schemas inside
do, and that carries over to documents with any number of schemas respelled in them, at
any depth (`compile_respelled`).

## Main definitions

* `NullSpelling`: The keywords as they are, or in the newer spelling.
* `Schema.Respelled`: A schema with some of the schemas in it respelled.

## Theorems

* `Schema.Respelled.corresponds`: Respelled schemas are typed alike.
* `compile_respelled`: The spelling of nullability makes no difference.
-/

namespace RouteTypes

namespace Kind

theorem ofName?_name (kind : Kind) : ofName? kind.name = some kind := by
  cases kind <;> rfl

theorem name_ne_null {kind : Kind} (h : kind ≠ .null) : kind.name ≠ "null" := by
  cases kind with
  | null => exact absurd rfl h
  | string | number | integer | boolean | array | object => decide

end Kind

namespace TypeSpec

variable {kind : Kind} {names : List String}

/-- A list with one kind and `null` in it describes that kind. -/
theorem kind_multiple (hkind : kind ≠ .null)
    (hnames : ∀ name ∈ names, name = kind.name ∨ name = "null") (hmem : kind.name ∈ names) :
    (multiple names).kind = some kind := by
  have hfound : kind ∈ names.filterMap Kind.ofName? :=
    List.mem_filterMap.mpr ⟨kind.name, hmem, kind.ofName?_name⟩
  -- Only the kind and `null` are found in the list, and `null` does not count.
  have hfirst : (names.filterMap Kind.ofName?).find? (· ≠ .null) = some kind := by
    cases hfind : (names.filterMap Kind.ofName?).find? (· ≠ .null) with
    | none =>
        rw [List.find?_eq_none] at hfind
        exact absurd (decide_eq_true hkind) (hfind kind hfound)
    | some other =>
        have hother := List.find?_some hfind
        rcases List.mem_filterMap.mp (List.mem_of_find?_eq_some hfind) with ⟨name, hname, hof⟩
        rcases hnames name hname with rfl | rfl
        · rw [← hof]
          exact kind.ofName?_name
        · obtain rfl := Option.some.inj hof
          exact absurd hother (by decide)
  unfold TypeSpec.kind
  dsimp only
  rw [hfirst]

/-- Such a list allows `null`, because it has at least two names. -/
theorem allowsNull_multiple (hkind : kind ≠ .null) (hmem : kind.name ∈ names)
    (hnull : "null" ∈ names) : (multiple names).allowsNull = true := by
  -- The kind has another name than `null`, so the list holds two names.
  have hlength : names.length > 1 := by
    rcases names with _ | ⟨first, _ | ⟨second, rest⟩⟩
    · exact absurd hmem List.not_mem_nil
    · rw [List.mem_singleton] at hmem hnull
      exact absurd (hmem.trans hnull.symm) (Kind.name_ne_null hkind)
    · exact Nat.succ_lt_succ (Nat.succ_pos _)
  unfold allowsNull
  rw [Bool.and_eq_true, decide_eq_true_eq, List.contains_iff_mem]
  exact ⟨hlength, hnull⟩

end TypeSpec

/-- The `type` and `nullable` keywords of a schema, as they are or in the newer spelling:
    in place of one kind with the flag a list of this kind and `null`, with any flag. -/
inductive NullSpelling : Option TypeSpec → Bool → Option TypeSpec → Bool → Prop where
  | kept (type : Option TypeSpec) (nullable : Bool) : NullSpelling type nullable type nullable
  | listed (kind : Kind) {names : List String} (nullable : Bool) (hkind : kind ≠ .null)
      (hnames : ∀ name ∈ names, name = kind.name ∨ name = "null") (hmem : kind.name ∈ names)
      (hnull : "null" ∈ names) :
      NullSpelling (some (.single kind.name)) true (some (.multiple names)) nullable

namespace NullSpelling

variable {type type' : Option TypeSpec} {nullable nullable' : Bool}

/-- The kind is spelled in both ways. -/
theorem kind_eq (h : NullSpelling type nullable type' nullable') :
    type.bind TypeSpec.kind = type'.bind TypeSpec.kind := by
  cases h with
  | kept => rfl
  | listed kind _ hkind hnames hmem =>
      rw [Option.bind_some, Option.bind_some, TypeSpec.kind_multiple hkind hnames hmem]
      exact kind.ofName?_name

/-- So is that `null` is allowed. -/
theorem allowsNull_eq (h : NullSpelling type nullable type' nullable') :
    (nullable || type.any TypeSpec.allowsNull) = (nullable' || type'.any TypeSpec.allowsNull) := by
  cases h with
  | kept => rfl
  | listed _ _ hkind _ hmem hnull =>
      rw [Option.any_some, Option.any_some, TypeSpec.allowsNull_multiple hkind hmem hnull,
        -- One side says so by the flag, the other by the list.
        Bool.true_or, Bool.or_true]

end NullSpelling

/-- A schema with some schemas respelled in it, the schema itself perhaps among them. All
    other keywords stay. -/
inductive Schema.Respelled : Schema → Schema → Prop where
  | mk {type type' : Option TypeSpec} {nullable nullable' : Bool}
      {properties properties' : Option (List (String × Slot Schema))}
      {additional additional' : Option (Additional Schema)}
      {items items' : Option (Slot Schema)}
      {oneOf oneOf' allOf allOf' anyOf anyOf' : Option (List (Slot Schema))}
      (format description : Option String) (deprecated : Bool) (required : List String)
      (enum : Option (List EnumMember))
      (hspelling : NullSpelling type nullable type' nullable')
      (hproperties :
        Option.Rel (List.Forall₂ (SameKey (Slot.Alike Respelled))) properties properties')
      (hadditional : Option.Rel (Additional.Alike Respelled) additional additional')
      (hitems : Option.Rel (Slot.Alike Respelled) items items')
      (honeOf : Option.Rel (List.Forall₂ (Slot.Alike Respelled)) oneOf oneOf')
      (hallOf : Option.Rel (List.Forall₂ (Slot.Alike Respelled)) allOf allOf')
      (hanyOf : Option.Rel (List.Forall₂ (Slot.Alike Respelled)) anyOf anyOf') :
      Respelled
        { type, format, nullable, description, deprecated, properties, required, additional,
          items, enum, oneOf, allOf, anyOf }
        { type := type', format, nullable := nullable', description, deprecated,
          properties := properties', required, additional := additional', items := items',
          enum, oneOf := oneOf', allOf := allOf', anyOf := anyOf' }

/-- A respelled schema says the same to typing. -/
theorem Schema.Respelled.corresponds {s s' : Schema} (h : s.Respelled s') :
    s.Corresponds Respelled s' := by
  cases h with
  | mk _ _ _ _ _ hspelling hproperties hadditional hitems honeOf hallOf hanyOf =>
      exact {
        kind := hspelling.kind_eq
        isNullable := hspelling.allowsNull_eq
        format := rfl
        description := rfl
        deprecated := rfl
        properties := hproperties
        required := rfl
        additional := hadditional
        items := hitems
        enum := rfl
        oneOf := honeOf
        allOf := hallOf
        anyOf := hanyOf }

/-- Respelled documents have the same types, or the same error. -/
theorem toApi_respelled {document document' : Document} (options : Options)
    (h : document.Alike Schema.Respelled document') :
    Logged.Matches Eq (document.toApi options) (document'.toApi options) := by
  -- The callers ask for the same, so no label has to be changed.
  have htranslates : (document.setting options).Translates Schema.Respelled {}
      (document'.setting options) :=
    Setting.translates_of_corresponds (fun _ _ hs => hs.corresponds) h.components
      (Relabeling.fits_id options) fun _ => rfl
  exact toApi_matches h htranslates

/-- How nullability is spelled makes no difference to what a document is compiled to, or
    to the error it is refused with. -/
theorem compile_respelled {document document' : Document}
    (h : document.Alike Schema.Respelled document') (options : Options) :
    (document.compile options).outcome = (document'.compile options).outcome := by
  refine Logged.Reduces.outcome_eq ((toApi_respelled options h).bind fun api api' _ _ heq => ?_)
  exact heq ▸ .refl _

/-- A schema for lists, with the type of the lists and that of their items. -/
def listSchema (list item : TypeSpec × Bool) : Schema where
  type := some list.1
  nullable := list.2
  items := some (.inline { type := some item.1, nullable := item.2 })

/-- A document that declares one schema. -/
def listDocument (s : Schema) : Document where
  components :=
    { schemas :=
        { entries := [("Names", .inline s)]
          nodup := List.pairwise_singleton _ _ } }

/-- Documents that declare one schema are alike when the schemas are related. -/
theorem listDocument_alike {R : Schema → Schema → Prop} {s s' : Schema} (h : R s s') :
    (listDocument s).Alike R (listDocument s') where
  openapi := rfl
  swagger := rfl
  servers := rfl
  paths := .nil
  components :=
    { schemas := .cons (.mk "Names" (.inline h)) .nil
      parameters := .nil
      requestBodies := .nil
      responses := .nil
      headers := .nil }

/-- What lists of texts are typed into when both may be `null`. -/
def nullableListApi : Api where
  baseUrl := ""
  space := "Types"
  types := [declarationOf .schemas "Names" {
    nullable := true
    shape := .array { nullable := true, shape := .primitive .string } }]
  paths := []

/-- Both schemas are respelled at once, the inner one with `null` on either side. -/
theorem compile_respelled_names :
    ((listDocument (listSchema (.single "array", true) (.single "string", true))).compile
        {}).Yields nullableListApi.compilation ∧
      ((listDocument (listSchema (.multiple ["array", "null"], false)
        (.multiple ["null", "string", "null"], true))).compile {}).Yields
          nullableListApi.compilation := by
  have hflags : ((listDocument (listSchema (.single "array", true) (.single "string", true))).compile
      {}).Yields nullableListApi.compilation := compile_yields_iff.mpr ⟨nullableListApi, rfl, rfl⟩
  have hitem : NullSpelling (some (.single "string")) true
      (some (.multiple ["null", "string", "null"])) true :=
    .listed .string true (by decide) (by decide) (by decide) (by decide)
  have hlist : NullSpelling (some (.single "array")) true
      (some (.multiple ["array", "null"])) false :=
    .listed .array false (by decide) (by decide) (by decide) (by decide)
  have hinner := Schema.Respelled.mk none none false [] none hitem .none .none .none .none .none
    .none
  have houter := Schema.Respelled.mk none none false [] none hlist .none .none
    (.some (.inline hinner)) .none .none .none
  -- Both compilations have one outcome, so the first says what the second is.
  exact ⟨hflags, (compile_respelled (listDocument_alike houter) {}).symm.trans hflags⟩

end RouteTypes
