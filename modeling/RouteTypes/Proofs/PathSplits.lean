import RouteTypes.Proofs.OutputPaths

/-!
# Splitting the Paths

The paths of a document are compiled one by one, and nothing is carried over.

Cutting the paths of a document in two gives two documents with the same components.
What the names and the declarations come to is settled before the first path is looked
at and is the same for all three documents. After that the loop over the paths goes
through the first part and then through the rest. So compiling the whole document is
compiling the first one, then the second one, and putting the files one after another
(`compile_outcome_split`): a law of outcomes, errors included.

## Main definitions

* `OrderedMap.take`, `OrderedMap.drop`: The two parts of a map.
* `Document.withPaths`: A document with other paths.
* `Compilation.followedBy`: A compilation with the files of another one after its own.

## Theorems

* `typePaths_split`: The paths of two parts are typed one after another.
* `compile_outcome_split`: The outcome of a whole document, from those of its two parts.
* `compile_shared`: What does not depend on the paths.
* `compile_split`: When the whole succeeds, with which files, and how it fails.
-/

namespace RouteTypes

namespace OrderedMap

variable {κ α : Type}

/-- The first entries of a map. -/
def take (n : Nat) (m : OrderedMap κ α) : OrderedMap κ α where
  entries := m.entries.take n
  nodup := ((List.take_sublist n m.entries).map Prod.fst).nodup m.nodup

/-- The entries after the first ones. -/
def drop (n : Nat) (m : OrderedMap κ α) : OrderedMap κ α where
  entries := m.entries.drop n
  nodup := ((List.drop_sublist n m.entries).map Prod.fst).nodup m.nodup

theorem entries_take_append_drop (n : Nat) (m : OrderedMap κ α) :
    (m.take n).entries ++ (m.drop n).entries = m.entries :=
  List.take_append_drop n m.entries

end OrderedMap

/-- The paths of two parts are typed one after another. -/
theorem typePaths_split (setting : Setting) (paths : OrderedMap String PathItem) (n : Nat) :
    (typePaths setting paths).outcome =
      (typePaths setting (paths.take n)).outcome.bind fun ps =>
        (typePaths setting (paths.drop n)).outcome.map (ps ++ ·) := by
  unfold typePaths
  rw [← OrderedMap.entries_take_append_drop n paths, List.mapM_append]
  simp only [bind_pure_comp, Logged.outcome_bind, Logged.outcome_map]
  -- An error of the first part ends everything, so the second part is looked at only without one.
  cases Logged.outcome ((paths.take n).entries.mapM _) with
  | error e => rfl
  | ok typed =>
      cases Logged.outcome ((paths.drop n).entries.mapM _) with
      | error e => rfl
      | ok typed' => exact congrArg Except.ok List.filterMap_append

namespace Document

/-- The document with other paths. -/
def withPaths (document : Document) (paths : OrderedMap String PathItem) : Document :=
  { document with paths }

/-- The declarations of a document, after the check of their names. -/
def declarations (document : Document) (options : Options) : Typing (List NamedType) := do
  .ofExcept (checkNames document.components)
  typeComponents { components := document.components, options }

/-- The paths of a document as types, whatever its components come to. -/
def typedPaths (document : Document) (options : Options) : Typing (List TypedPath) :=
  typePaths { components := document.components, options } document.paths

/-- The texts for some declarations and paths. -/
def compilationOf (document : Document) (options : Options) (types : List NamedType)
    (paths : List TypedPath) : Compilation :=
  Api.compilation { baseUrl := document.baseUrl, space := options.space, types, paths }

/-- Declarations come first, then the paths. -/
theorem compile_outcome (document : Document) (options : Options) :
    (document.compile options).outcome =
      (document.declarations options >>= fun types =>
        document.compilationOf options types <$> document.typedPaths options).outcome := by
  unfold compile toApi declarations typedPaths
  simp only [Logged.outcome_bind, Logged.outcome_ofExcept, Logged.outcome_report,
    Logged.outcome_pure, Logged.outcome_map, Api.render]
  -- The report at the end has no outcome, so what is left are the three steps.
  cases checkNames document.components with
  | error e => rfl
  | ok u =>
      simp only [Except.bind]
      cases (typeComponents _).outcome with
      | error e => rfl
      | ok types => cases (typePaths _ _).outcome <;> rfl

end Document

/-- A compilation with the files of another one after its own. -/
def Compilation.followedBy (c c' : Compilation) : Compilation :=
  { c with files := c.files ++ c'.files }

section Splits

variable (document : Document) (options : Options) (n : Nat)

/-- The files of a compilation stand for its paths one by one. -/
theorem compilationOf_append (types : List NamedType) (beginning rest : List TypedPath) :
    document.compilationOf options types (beginning ++ rest) =
      (document.compilationOf options types beginning).followedBy
        (document.compilationOf options types rest) :=
  congrArg (Compilation.mk _ _) List.map_append

/-- The document with only the first of its paths. -/
def Document.before : Document :=
  document.withPaths (document.paths.take n)

/-- The document with only the paths after the first ones. -/
def Document.after : Document :=
  document.withPaths (document.paths.drop n)

/-- The whole document compiles as its two parts do, one after the other. -/
theorem compile_outcome_split :
    (document.compile options).outcome =
      ((document.before n).compile options).outcome.bind fun c =>
        ((document.after n).compile options).outcome.map c.followedBy := by
  -- What comes before the paths is the same for all three documents.
  have hbefore : (document.before n).declarations options = document.declarations options := rfl
  have hafter : (document.after n).declarations options = document.declarations options := rfl
  have hpaths : (document.typedPaths options).outcome =
      ((document.before n).typedPaths options).outcome.bind fun ps =>
        ((document.after n).typedPaths options).outcome.map (ps ++ ·) :=
    typePaths_split _ document.paths n
  simp only [Document.compile_outcome, hbefore, hafter, Logged.outcome_bind, Logged.outcome_map,
    hpaths]
  -- The declarations are made in every part, with one outcome for all three documents.
  cases (document.declarations options).outcome with
  | error e => rfl
  | ok types =>
      cases ((document.before n).typedPaths options).outcome with
      | error e => rfl
      | ok ps =>
          cases ((document.after n).typedPaths options).outcome with
          | error e => rfl
          | ok qs => exact congrArg Except.ok (compilationOf_append document options types ps qs)

variable {document options}

/-- The shared declarations and the base URL do not depend on the paths. -/
theorem compile_shared {paths paths' : OrderedMap String PathItem} {c c' : Compilation}
    (h : ((document.withPaths paths).compile options).Yields c)
    (h' : ((document.withPaths paths').compile options).Yields c') :
    c.types = c'.types ∧ c.baseUrl = c'.baseUrl := by
  unfold Logged.Yields at h h'
  rw [Document.compile_outcome] at h h'
  -- The paths come in after the declarations, and no file tells the URL or the namespace.
  rcases (Logged.yields_bind _ _ _).mp h with ⟨types, htypes, hfiles⟩
  rcases (Logged.yields_bind _ _ _).mp h' with ⟨types', htypes', hfiles'⟩
  rcases (Logged.yields_map _ _ _).mp hfiles with ⟨_, _, rfl⟩
  rcases (Logged.yields_map _ _ _).mp hfiles' with ⟨_, _, rfl⟩
  rw [show types = types' from htypes.unique htypes']
  exact ⟨rfl, rfl⟩

end Splits

/-- The paths of a document compile independently. The whole succeeds exactly when its two
    parts do; its files are then theirs, one after the other, and the shared declarations
    and the base URL are the same in all three. An error of the first part is the error of
    the whole, and one of the second part is, if the first has none. -/
theorem compile_split (document : Document) (options : Options) (n : Nat) :
    ((∃ c, (document.compile options).Yields c) ↔
      (∃ c, ((document.before n).compile options).Yields c) ∧
        ∃ c, ((document.after n).compile options).Yields c) ∧
    (∀ c c₁ c₂, (document.compile options).Yields c →
      ((document.before n).compile options).Yields c₁ →
      ((document.after n).compile options).Yields c₂ →
      c.files = c₁.files ++ c₂.files ∧ (c₁.types = c.types ∧ c₂.types = c.types) ∧
        c₁.baseUrl = c.baseUrl ∧ c₂.baseUrl = c.baseUrl) ∧
    (∀ e, ((document.before n).compile options).Fails e → (document.compile options).Fails e) ∧
    ∀ c e, ((document.before n).compile options).Yields c →
      ((document.after n).compile options).Fails e → (document.compile options).Fails e := by
  have hsplit := compile_outcome_split document options n
  unfold Logged.Yields Logged.Fails
  rw [hsplit]
  refine ⟨?_, fun c c₁ c₂ h h₁ h₂ => ?_, fun e h => ?_, fun c e h h' => ?_⟩
  -- The whole has the outcome of the two in a row, which is a value when both are.
  · cases ((document.before n).compile options).outcome with
    | error e => simp [Except.bind]
    | ok c₁ => cases ((document.after n).compile options).outcome <;> simp [Except.bind, Except.map]
  · rcases compile_shared h₁ h₂ with ⟨htypes, hurl⟩
    rw [h₁, h₂] at h
    obtain rfl := Except.ok.inj h
    exact ⟨rfl, ⟨rfl, htypes.symm⟩, rfl, hurl.symm⟩
  · rw [h]
    rfl
  · rw [h, h']
    rfl

/-- A path item with an operation whose response cannot be found. -/
def danglingItem : PathItem where
  operations :=
    { entries := [(.get, { responses := { entries := [("200", .reference "#/nowhere")] } })] }

/-- A template that compiles and one that does not. -/
def danglingPaths : OrderedMap String PathItem where
  entries := [("/pets", answeredItem), ("/pets/{id}", danglingItem)]

theorem compile_split_samples :
    (∃ c c₁ c₂, ((pathsDocument separatePaths).compile {}).Yields c ∧
      (((pathsDocument separatePaths).before 1).compile {}).Yields c₁ ∧
      (((pathsDocument separatePaths).after 1).compile {}).Yields c₂ ∧
      c.files = c₁.files ++ c₂.files ∧ c₁.files.length = 1) ∧
    ∃ e, ((pathsDocument danglingPaths).compile {}).Fails e := by
  constructor
  · have h₁ : (((pathsDocument separatePaths).before 1).compile {}).Yields _ :=
      compile_yields_iff.mpr ⟨_, rfl, rfl⟩
    have h₂ : (((pathsDocument separatePaths).after 1).compile {}).Yields _ :=
      compile_yields_iff.mpr ⟨_, rfl, rfl⟩
    rcases (compile_split (pathsDocument separatePaths) {} 1).1.mpr ⟨⟨_, h₁⟩, _, h₂⟩ with ⟨c, h⟩
    have hparts := (compile_split (pathsDocument separatePaths) {} 1).2.1 c _ _ h h₁ h₂
    exact ⟨c, _, _, h, h₁, h₂, hparts.1, rfl⟩
  · have h₁ : (((pathsDocument danglingPaths).before 1).compile {}).Yields _ :=
      compile_yields_iff.mpr ⟨_, rfl, rfl⟩
    exact ⟨_, (compile_split (pathsDocument danglingPaths) {} 1).2.2.2 _ _ h₁ rfl⟩

end RouteTypes
