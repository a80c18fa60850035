import RouteTypes.Proofs.Comparison
import RouteTypes.Proofs.DocumentNeeds

/-!
# Deprecated Operations

What deprecated operations leave behind in the output.

A deprecated operation is not typed, so deleting it should change nothing. But the
directory of a path is named with the kinds of its path parameters, and these are looked
up among the parameters of all operations. A path that remains thus still depends on its
deprecated operations in two ways: the error of one of their parameters ends everything,
and the kind of a path parameter may be the one that a deprecated operation declares.

A path is silent when neither happens (`PathItem.IsSilent`). Deleting the deprecated
operations of a document whose paths are silent changes no outcome, and where it leaves
a document that compiles, silence is needed too. In any document the texts stay, and the
only errors that may be left behind are those of parameters (`deprecated_operations_trace`).

## Main definitions

* `Document.withoutDeprecated`: The document without its deprecated operations.
* `PathItem.kinds`: The path parameters of a path item with their kinds.
* `PathItem.IsSilent`, `Document.IsSilent`: Deprecated operations are not noticed.
* `Document.DeprecatedFault`: An error that is due to a deprecated operation.
* `Compilation.SameTexts`: Two compilations that differ in directories only.

## Theorems

* `pathParameters_reduces`: The parameters that are looked up without those operations.
* `toApi_reduces`: What becomes of a document without them.
* `deprecated_operations_trace`: When and how deprecated operations are noticed.
-/

namespace RouteTypes

/-- The path item without its deprecated operations. -/
def PathItem.withoutDeprecated (item : PathItem) : PathItem :=
  { item with operations := item.operations.filter fun _ o => !o.deprecated }

/-- The document without its deprecated operations. -/
def Document.withoutDeprecated (document : Document) : Document :=
  { document with paths := document.paths.mapValues fun _ item => item.withoutDeprecated }

/-- The parameters of the deprecated operations of a path item. -/
def PathItem.deprecatedParameters (item : PathItem) : List (Slot Parameter) :=
  (item.operations.values.filter (·.deprecated)).flatMap (·.parameters)

namespace Components

/-- The parameter in a slot, or the one its reference leads to. -/
def parameter? (c : Components) : Slot Parameter → Option Parameter
  | .reference r => (c.parameter r).toOption
  | .inline p => some p

/-- The kind of a schema, or that of the one its reference leads to. -/
def kind? (c : Components) : Option (Slot Schema) → Option Kind
  | some (.reference r) => (c.schema r).toOption.bind (·.kind)
  | some (.inline s) => s.kind
  | none => none

/-- The name and kind of a path parameter. Nothing for a parameter sent elsewhere. -/
def pathKind? (c : Components) (slot : Slot Parameter) : Option (String × Option Kind) :=
  (c.parameter? slot).bind fun p =>
    if p.location = .path then some (p.name, c.kind? p.schema) else none

end Components

/-- The path parameters that are declared anywhere on a path item, with their kinds. -/
def PathItem.kinds (c : Components) (item : PathItem) : PathParameters :=
  item.allParameters.filterMap c.pathKind?

/-- The deprecated operations of a path are not noticed: the kinds of their parameters
    can be found, and no directory is named differently because of them. -/
structure PathItem.IsSilent (c : Components) (template : String) (item : PathItem) : Prop where
  met : ∀ slot ∈ item.deprecatedParameters, ∀ m ∈ kindNeeds c slot, c.fault? m = none
  words : ∀ part ∈ routeParts template, ∀ name, Segment.parameterName? part = some name →
    Segment.kindWord (Segment.declaredKind (item.kinds c) (String.ofList name)) =
      Segment.kindWord (Segment.declaredKind (item.withoutDeprecated.kinds c) (String.ofList name))

/-- The deprecated operations of all paths that remain are not noticed. -/
def Document.IsSilent (document : Document) : Prop :=
  ∀ e ∈ document.paths.entries, e.2.Remains → e.2.IsSilent document.components e.1

/-- The error is met when the kinds of the parameters of deprecated operations are looked
    up. -/
def PathItem.DeprecatedFault (c : Components) (item : PathItem) (error : CompileError) : Prop :=
  ∃ slot ∈ item.deprecatedParameters, ∃ m ∈ kindNeeds c slot, c.fault? m = some error

/-- The error is that of a deprecated operation, of a path that remains. -/
def Document.DeprecatedFault (document : Document) (error : CompileError) : Prop :=
  ∃ e ∈ document.paths.entries, e.2.Remains ∧ e.2.DeprecatedFault document.components error

/-- Two compilations with the same texts. The directories of paths may differ. -/
structure Compilation.SameTexts (c c' : Compilation) : Prop where
  baseUrl : c.baseUrl = c'.baseUrl
  types : c.types = c'.types
  methods : c.files.map (·.methods) = c'.files.map (·.methods)

/-- Two typed paths of a path item that remains. One is put where all operations say, the
    other where those say that are not deprecated. -/
structure PathItem.Diverts (c : Components) (template : String) (item : PathItem)
    (p p' : TypedPath) : Prop where
  remains : item.Remains
  templates : p.template = template ∧ p'.template = template
  operations : p.operations = p'.operations
  segments : p.segments = routeSegments template (item.kinds c)
  segments' : p'.segments = routeSegments template (item.withoutDeprecated.kinds c)

/-- Two typed documents whose paths are those of a document, put in different places. -/
structure Document.Diverts (document : Document) (api api' : Api) : Prop where
  baseUrl : api.baseUrl = api'.baseUrl
  space : api.space = api'.space
  types : api.types = api'.types
  paths : List.Forall₂ (fun p p' => ∃ e ∈ document.paths.entries,
    e.2.Diverts document.components e.1 p p') api.paths api'.paths

section Kinds

variable {setting : Setting} {item : PathItem}

/-- What is found for a parameter is its name and kind, as the document has them. -/
theorem pathParameter_yields_eq {slot : Slot Parameter} {v : Option (String × Option Kind)}
    (h : (pathParameter setting slot).Yields v) : v = setting.components.pathKind? slot := by
  have hkind : ∀ (schema : Option (Slot Schema)) (kind : Option Kind),
      (schemaKind setting schema).Yields kind → kind = setting.components.kind? schema := by
    rintro (_ | (r | s)) kind hkind
    · exact ((Logged.yields_pure _ _).mp hkind).symm
    · simp only [schemaKind, Logged.yields_bind, Logged.yields_ofExcept,
        Logged.yields_pure] at hkind
      rcases hkind with ⟨s, hs, rfl⟩
      rw [Components.kind?, hs]
      rfl
    · exact ((Logged.yields_pure _ _).mp hkind).symm
  rcases (Logged.yields_bind _ _ _).mp h with ⟨p, hp, h⟩
  have hfound : setting.components.parameter? slot = some p := by
    cases slot with
    | reference r =>
        rw [resolveParameter, Logged.yields_ofExcept] at hp
        rw [Components.parameter?, hp]
        rfl
    | inline q => exact congrArg some ((Logged.yields_pure _ _).mp hp)
  rw [Components.pathKind?, hfound, Option.bind_some]
  -- The kind is looked up for parameters in the path only.
  by_cases hpath : p.location = .path
  · rw [if_pos hpath] at h ⊢
    rcases (Logged.yields_bind _ _ _).mp h with ⟨kind, hk, h⟩
    rw [← (Logged.yields_pure _ _).mp h, hkind _ _ hk]
  · rw [if_neg hpath] at h ⊢
    exact ((Logged.yields_pure _ _).mp h).symm

/-- The path parameters that are found are those of the document. -/
theorem pathParameters_yields_eq {declared : PathParameters}
    (h : (pathParameters setting item).Yields declared) :
    declared = item.kinds setting.components := by
  simp only [pathParameters, Logged.yields_bind, Logged.yields_pure] at h
  rcases h with ⟨results, hresults, rfl⟩
  exact Logged.yields_mapM_filterMap hresults _ fun slot _ v hv => pathParameter_yields_eq hv

/-- A parameter of a deprecated operation stands in the list of its parameters. -/
theorem mem_deprecatedParameters {slot : Slot Parameter} :
    slot ∈ item.deprecatedParameters ↔
      ∃ e ∈ item.operations.entries, e.2.deprecated = true ∧ slot ∈ e.2.parameters := by
  simp only [PathItem.deprecatedParameters, OrderedMap.values, List.mem_flatMap, List.mem_filter,
    List.mem_map, and_assoc, exists_exists_and_eq_and]

/-- A step for all parameters of a path item goes through its own parameters and then
    through those of each operation. -/
theorem mapM_allParameters {β : Type} (f : Slot Parameter → Typing β) (item : PathItem) :
    item.allParameters.mapM f = (do
      let own ← item.parameters.mapM f
      let further ← item.operations.entries.mapM fun e => e.2.parameters.mapM f
      pure (own ++ further.flatten)) := by
  unfold PathItem.allParameters OrderedMap.values
  rw [List.mapM_append, Logged.mapM_flatMap, List.mapM_map]
  simp only [map_eq_pure_bind, bind_assoc, pure_bind]
  rfl

/-- Without deprecated operations fewer parameters are looked up, and what is found is
    what the document says. -/
theorem pathParameters_reduces (setting : Setting) (item : PathItem) :
    Logged.Reduces
      (fun declared declared' => declared = item.kinds setting.components ∧
        declared' = item.withoutDeprecated.kinds setting.components)
      (item.DeprecatedFault setting.components)
      (pathParameters setting item) (pathParameters setting item.withoutDeprecated) := by
  have hall : Logged.Reduces (fun _ _ => True) (item.DeprecatedFault setting.components)
      (item.allParameters.mapM (pathParameter setting))
      (item.withoutDeprecated.allParameters.mapM (pathParameter setting)) := by
    rw [mapM_allParameters, mapM_allParameters]
    -- The parameters of the path item itself are the same in both documents.
    refine (Logged.Reduces.refl _).bind fun own _ _ _ _ => ?_
    refine Logged.Reduces.bind (R := fun _ _ => True) ?_ fun _ _ _ _ _ => .pure trivial
    -- Operations are left out whole, and each parameter of theirs may have had an error.
    refine Logged.Reduces.mapM_filter trivial (fun _ _ _ _ => trivial)
      (fun _ _ _ _ _ _ _ _ => trivial) fun e he hd error hfails => ?_
    rcases Logged.exists_of_fails_mapM hfails with ⟨slot, hslot, hfails⟩
    refine ⟨slot, mem_deprecatedParameters.mpr ⟨e, he, ?_, hslot⟩, ?_⟩
    · rwa [Bool.not_eq_false'] at hd
    · exact (pathParameter_checks slot).fault error hfails
  have hkept : Logged.Reduces (fun _ _ => True) (item.DeprecatedFault setting.components)
      (pathParameters setting item) (pathParameters setting item.withoutDeprecated) :=
    hall.bind fun _ _ _ _ _ => .pure trivial
  exact hkept.mono (fun _ _ h h' _ => ⟨pathParameters_yields_eq h, pathParameters_yields_eq h'⟩)
    fun _ h => h

end Kinds

section Paths

variable {setting : Setting} {document : Document} {options : Options}

/-- Without deprecated operations the same operations of a path are kept. -/
theorem operations_reduces (setting : Setting) (template : String) (item : PathItem)
    (excused : CompileError → Prop) :
    Logged.Reduces
      (fun results results' : List (Option TypedOperation) =>
        results.filterMap id = results'.filterMap id)
      excused
      (item.operations.entries.mapM fun e => typePathOperation setting template item e.1 e.2)
      (item.withoutDeprecated.operations.entries.mapM fun e =>
        typePathOperation setting template item.withoutDeprecated e.1 e.2) := by
  have hskipped : ∀ e : Method × Operation, (!e.2.deprecated) = false →
      (typePathOperation setting template item e.1 e.2).Yields none := by
    intro e hd
    rw [typePathOperation_yields_iff, if_pos ((Bool.not_eq_false' _).mp hd)]
  refine Logged.Reduces.mapM_filter rfl ?_ ?_ ?_
  -- A step that is made in both adds the same to both lists.
  · intro r rs rs' hrs
    rw [List.filterMap_cons, List.filterMap_cons, hrs]
  · intro e _ hd r hr rs rs' hrs
    rw [hr.unique (hskipped e hd), List.filterMap_cons]
    exact hrs
  · exact fun e _ hd error he => absurd he ((hskipped e hd).not_fails error)

/-- A path keeps its operations without those that are deprecated, and only its directory
    and errors of parameters may change. -/
theorem typePath_reduces (setting : Setting) (template : String) (item : PathItem) :
    Logged.Reduces (Option.Rel (item.Diverts setting.components template))
      (fun error => item.Remains ∧ item.DeprecatedFault setting.components error)
      (typePath setting template item) (typePath setting template item.withoutDeprecated) := by
  refine (operations_reduces setting template item _).bind
    fun results results' hresults _ hkept => ?_
  have hremains := remains_iff hresults
  dsimp only
  rw [← hkept]
  -- The path is left out of both documents, or of neither.
  by_cases hempty : (results.filterMap id).isEmpty = true
  · rw [if_pos hempty, if_pos hempty]
    exact (Logged.Reduces.refl _).bind fun _ _ _ _ _ => .pure .none
  · have hyes := hremains.mpr hempty
    rw [if_neg hempty, if_neg hempty]
    -- The path remains, so its parameters are looked up in both documents.
    have hparameters := (pathParameters_reduces setting item).mono (fun _ _ _ _ h => h)
      (fun _ h => And.intro hyes h)
    refine hparameters.bind fun declared declared' _ _ hdeclared => .pure (.some ?_)
    exact {
      remains := hyes
      templates := ⟨rfl, rfl⟩
      operations := rfl
      segments := congrArg (routeSegments template) hdeclared.1
      segments' := congrArg (routeSegments template) hdeclared.2 }

/-- The same for all paths, and an error is that of some path. -/
theorem typePaths_reduces (setting : Setting) (paths : OrderedMap String PathItem) :
    Logged.Reduces
      (List.Forall₂ fun p p' => ∃ e ∈ paths.entries, e.2.Diverts setting.components e.1 p p')
      (fun error => ∃ e ∈ paths.entries,
        e.2.Remains ∧ e.2.DeprecatedFault setting.components error)
      (typePaths setting paths)
      (typePaths setting (paths.mapValues fun _ item => item.withoutDeprecated)) := by
  unfold typePaths OrderedMap.mapValues
  rw [List.mapM_map]
  have heach : ∀ e ∈ paths.entries, Logged.Reduces
      (Option.Rel fun p p' => ∃ e ∈ paths.entries, e.2.Diverts setting.components e.1 p p')
      (fun error => ∃ e ∈ paths.entries,
        e.2.Remains ∧ e.2.DeprecatedFault setting.components error)
      (typePath setting e.1 e.2) (typePath setting e.1 e.2.withoutDeprecated) := by
    intro e he
    refine (typePath_reduces setting e.1 e.2).mono (fun _ _ _ _ h => ?_)
      fun error h => ⟨e, he, h⟩
    cases h with
    | none => exact .none
    | some hdiverts => exact .some ⟨e, he, hdiverts⟩
  refine (Logged.Reduces.mapM heach).bind fun results results' _ _ h => .pure ?_
  exact List.rel_filterMap (fun _ _ h => h) h

end Paths

section Documents

variable {document : Document} {options : Options}

/-- Without deprecated operations a document is typed in the same way, except for the
    directories of its paths and for errors of parameters. -/
theorem toApi_reduces (document : Document) (options : Options) :
    Logged.Reduces document.Diverts document.DeprecatedFault (document.toApi options)
      (document.withoutDeprecated.toApi options) := by
  refine (Logged.Reduces.refl _).bind fun _ _ _ _ _ => ?_
  refine (Logged.Reduces.refl _).bind fun types types' _ _ htypes => ?_
  have hpaths := typePaths_reduces (document.setting options) document.paths
  refine hpaths.bind fun paths paths' _ _ hpaths => ?_
  refine (Logged.Reduces.report _ _).bind fun _ _ _ _ _ => .pure ?_
  exact { baseUrl := rfl, space := rfl, types := htypes, paths := hpaths }

/-- Documents whose paths are put in different places have the same texts. -/
theorem Document.Diverts.sameTexts {api api' : Api} (h : document.Diverts api api') :
    api.compilation.SameTexts api'.compilation := by
  rcases h with ⟨hbase, hspace, htypes, hpaths⟩
  refine { baseUrl := hbase, types := ?_, methods := ?_ }
  · change (Api.typesModule api).map _ = (Api.typesModule api').map _
    unfold Api.typesModule
    rw [htypes, hspace]
  · change (api.paths.map _).map _ = (api'.paths.map _).map _
    rw [List.map_map, List.map_map, ← List.forall₂_eq_eq_eq, List.forall₂_map_left_iff,
      List.forall₂_map_right_iff]
    refine hpaths.imp fun p p' ⟨e, _, hdiverts⟩ => ?_
    -- The directories are equally deep, so the shared declarations are imported alike.
    have hdepth : p.depth = p'.depth := by
      unfold TypedPath.depth
      rw [hdiverts.segments, hdiverts.segments', routeSegments, routeSegments,
        List.length_append, List.length_append, List.length_map, List.length_map]
    change (api.methodsModule p).render 0 = (api'.methodsModule p').render 0
    unfold Api.methodsModule
    rw [hdiverts.operations, hspace, hdepth]

/-- So a document and the one without deprecated operations are compiled into the same texts.
    -/
theorem compile_reduces (document : Document) (options : Options) :
    Logged.Reduces Compilation.SameTexts document.DeprecatedFault (document.compile options)
      (document.withoutDeprecated.compile options) := by
  refine (toApi_reduces document options).bind fun api api' _ _ hdiverts => ?_
  exact (Logged.Reduces.report _ _).bind fun _ _ _ _ _ => .pure hdiverts.sameTexts

/-- A template is put in one place by two lists of parameters when they give the same
    word for each parameter in it. -/
theorem routeSegments_eq_iff {template : String} {declared declared' : PathParameters} :
    routeSegments template declared = routeSegments template declared' ↔
      ∀ part ∈ routeParts template, ∀ name, Segment.parameterName? part = some name →
        Segment.kindWord (Segment.declaredKind declared (String.ofList name)) =
          Segment.kindWord (Segment.declaredKind declared' (String.ofList name)) := by
  unfold routeSegments
  -- The two directories are compared part by part.
  rw [List.append_cancel_right_eq, List.map_inj_left]
  refine forall₂_congr fun part _ => ?_
  rw [String.ofList_inj]
  unfold Segment.ofPart
  cases Segment.parameterName? part with
  | none =>
      refine iff_of_true rfl fun _ h => absurd h ?_
      simp only [reduceCtorEq, not_false_eq_true]
  | some name =>
      simp only [Option.some.injEq, forall_eq', List.cons_append, List.cons.injEq, true_and,
        List.append_cancel_left_eq, String.toList_inj]

/-- The deprecated operations of a silent document make no difference. -/
theorem outcome_eq_of_isSilent (h : document.IsSilent) :
    (document.compile options).outcome = (document.withoutDeprecated.compile options).outcome := by
  have htyped : Logged.Reduces Eq (fun _ => False) (document.toApi options)
      (document.withoutDeprecated.toApi options) := by
    refine (toApi_reduces document options).mono (fun api api' _ _ hdiverts => ?_) ?_
    · rcases hdiverts with ⟨hbase, hspace, htypes, hpaths⟩
      -- Silent paths are put in one place, so all that was left to differ is the same.
      have hsame : api.paths = api'.paths := by
        rw [← List.forall₂_eq_eq_eq]
        refine hpaths.imp fun p p' ⟨e, he, hdiverts⟩ => ?_
        have hsegments := routeSegments_eq_iff.mpr (h e he hdiverts.remains).words
        rw [← hdiverts.segments, ← hdiverts.segments'] at hsegments
        have htemplate := hdiverts.templates.1.trans hdiverts.templates.2.symm
        cases p
        cases p'
        rw [TypedPath.mk.injEq]
        exact ⟨htemplate, hsegments, hdiverts.operations⟩
      cases api
      cases api'
      rw [Api.mk.injEq]
      exact ⟨hbase, hspace, htypes, hsame⟩
    -- An error would be that of a deprecated operation, and these have none.
    · rintro error ⟨e, he, hremains, slot, hslot, m, hm, hfault⟩
      rw [(h e he hremains).met slot hslot m hm] at hfault
      exact absurd hfault (by simp only [reduceCtorEq, not_false_eq_true])
  refine (htyped.bind fun api api' _ _ heq => ?_).outcome_eq
  rw [heq]
  exact .refl _

theorem PathItem.deprecatedParameters_subset {item : PathItem} {slot : Slot Parameter}
    (h : slot ∈ item.deprecatedParameters) : slot ∈ item.allParameters := by
  rcases mem_deprecatedParameters.mp h with ⟨e, he, _, hslot⟩
  exact List.mem_append_right _ (List.mem_flatMap.mpr ⟨e.2, List.mem_map_of_mem he, hslot⟩)

/-- What stands beside an element of a list, in a list with the same values. -/
theorem exists_beside {α β γ : Type} {R : α → β → Prop} {f : α → γ} {g : β → γ} {xs : List α}
    {ys : List β} (h : List.Forall₂ R xs ys) (hmap : xs.map f = ys.map g) {x : α}
    (hx : x ∈ xs) : ∃ y, R x y ∧ f x = g y := by
  induction h with
  | nil => exact absurd hx List.not_mem_nil
  | @cons x' y xs ys hxy _ ih =>
      rw [List.map_cons, List.map_cons, List.cons.injEq] at hmap
      rcases List.mem_cons.mp hx with rfl | hx
      · exact ⟨y, hxy, hmap.1⟩
      · exact ih hmap.2 hx

/-- When a document compiles and its deprecated operations make no difference, they are not
    noticed. -/
theorem isSilent_of_yields {c : Compilation} (h : (document.compile options).Yields c)
    (h' : (document.withoutDeprecated.compile options).Yields c) : document.IsSilent := by
  intro e he hremains
  refine { met := fun slot hslot m hm => ?_, words := ?_ }
  · have hslot' := PathItem.deprecatedParameters_subset hslot
    exact (compile_met h).2 m (Or.inr ⟨e, he, Or.inr ⟨hremains, slot, hslot', hm⟩⟩)
  · rcases compile_yields_iff.mp h with ⟨api, hapi, hc⟩
    rcases compile_yields_iff.mp h' with ⟨api', hapi', hc'⟩
    rcases (toApi_reduces document options).yields api hapi with ⟨_, htyped, hdiverts⟩
    obtain rfl := hapi'.unique htyped
    have hfiles : ∀ api : Api, api.compilation.files.map (·.segments)
        = api.paths.map (·.segments) := fun _ => List.map_map
    have hsegments : api.paths.map (·.segments) = api'.paths.map (·.segments) := by
      rw [← hfiles, ← hfiles, hc, hc']
    -- The path stands at the same place in both documents, and with its own item.
    rcases hremains with ⟨operation, hop, hd, hs⟩
    rcases toApi_kept hapi he hop hd hs with ⟨p, hp, htemplate, _⟩
    rcases exists_beside hdiverts.paths hsegments hp with ⟨p', ⟨e', he', hpath⟩, hsame⟩
    have hitem : e' = e := by
      have hkey : e'.1 = e.1 := hpath.templates.1.symm.trans htemplate
      have hvalue := OrderedMap.get?_of_mem he'
      rw [hkey, OrderedMap.get?_of_mem he, Option.some.injEq] at hvalue
      exact Prod.ext hkey hvalue.symm
    rw [hpath.segments, hpath.segments', hitem] at hsame
    exact routeSegments_eq_iff.mp hsame

end Documents

/-- What becomes of deprecated operations. Deleting them changes no outcome when they are
    not noticed, and where a document compiles without them only then. A document that
    compiles still does without them, to the same texts. An error that goes away with them
    is that of a parameter of theirs. -/
theorem deprecated_operations_trace (document : Document) (options : Options) :
    (document.IsSilent → (document.compile options).outcome
        = (document.withoutDeprecated.compile options).outcome) ∧
      (∀ c, (document.withoutDeprecated.compile options).Yields c →
        ((document.compile options).outcome
          = (document.withoutDeprecated.compile options).outcome ↔ document.IsSilent)) ∧
      (∀ c, (document.compile options).Yields c →
        ∃ c', (document.withoutDeprecated.compile options).Yields c' ∧ c.SameTexts c') ∧
      ∀ error, (document.compile options).Fails error →
        (document.withoutDeprecated.compile options).Fails error ∨
          document.DeprecatedFault error := by
  have hreduces := compile_reduces document options
  refine ⟨outcome_eq_of_isSilent, fun c hc => ⟨fun heq => ?_, outcome_eq_of_isSilent⟩,
    hreduces.yields, hreduces.fails⟩
  exact isSilent_of_yields (heq.trans hc) hc

/-- A parameter for the part `id` of a path. -/
def identifier (type : String) : Slot Parameter :=
  .inline {
    name := "id"
    location := .path
    schema := some (.inline { type := some (.single type) }) }

/-- A document with one path. Its deprecated operation declares some parameter, and the one
    that replaces it an identifier that is a text. -/
def replacedDocument (slot : Slot Parameter) : Document where
  paths :=
    { entries := [("/pets/{id}", { operations :=
      { entries := [
          (.get, { answeredOperation with deprecated := true, parameters := [slot] }),
          (.put, { answeredOperation with parameters := [identifier "string"] })]
        nodup := by simp } })]
      nodup := List.pairwise_singleton _ _ }

/-- What that document is typed into, with the segment of the part `id`. -/
def replacedApi (segment : String) : Api where
  baseUrl := ""
  space := "Types"
  types := []
  paths := [{
    template := "/pets/{id}"
    segments := ["pets", segment, "index"]
    operations := [{
      method := .put
      entries := [.field "status" true none { shape := .status 200 }] }] }]

/-- A deprecated operation that declares the same parameter is not noticed. -/
theorem deprecated_operations_trace_text :
    ((replacedDocument (identifier "string")).compile {}).Yields
        (replacedApi "_id@string").compilation ∧
      (replacedDocument (identifier "string")).IsSilent := by
  have h : ((replacedDocument (identifier "string")).compile {}).Yields
      (replacedApi "_id@string").compilation :=
    compile_yields_iff.mpr ⟨replacedApi "_id@string", rfl, rfl⟩
  have h' : ((replacedDocument (identifier "string")).withoutDeprecated.compile {}).Yields
      (replacedApi "_id@string").compilation :=
    compile_yields_iff.mpr ⟨replacedApi "_id@string", rfl, rfl⟩
  have hiff := (deprecated_operations_trace (replacedDocument (identifier "string")) {}).2.1 _ h'
  exact ⟨h, hiff.mp (h.trans h'.symm)⟩

/-- The parameter of a deprecated operation is not there, and the document is refused. -/
theorem deprecated_parameter_refused :
    ((replacedDocument (.reference "#/components/parameters/Id")).compile {}).Fails
        (.missingReference .parameters "Id" "#/components/parameters/Id") ∧
      ((replacedDocument (.reference "#/components/parameters/Id")).withoutDeprecated.compile
        {}).Yields (replacedApi "_id@string").compilation :=
  ⟨rfl, compile_yields_iff.mpr ⟨replacedApi "_id@string", rfl, rfl⟩⟩

/-- The parameter of a deprecated operation is a number, and so is the directory called. -/
example :
    ((replacedDocument (identifier "integer")).toApi {}).Yields (replacedApi "_id@number") ∧
      ((replacedDocument (identifier "integer")).withoutDeprecated.toApi {}).Yields
        (replacedApi "_id@string") :=
  ⟨rfl, rfl⟩

end RouteTypes
