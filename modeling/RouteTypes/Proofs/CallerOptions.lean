import RouteTypes.Proofs.TypingCorrespondence

/-!
# The Options of a Caller

What the options of a caller change in the types of a document.

Two choices are left to the caller: whether points in time are kept as objects, and how
the namespace is called. Both end up in labels of the tree, and nothing else depends on
them. To say so, the labels are replaced by neutral ones. What two callers get for one
document is then the same, and a document that is refused is refused to both with the same
error.

The labels are those that were asked for. This follows by comparing a run with itself:
putting in the labels of the caller changes nothing in what the caller gets, so they stand
everywhere already.

## Main definitions

* `Relabeling.neutral`: Labels that do not depend on the caller.
* `Api.neutral`: A typed document with these labels.
* `Options.labels`: The labels a caller asks for.

## Theorems

* `toApi_relabel`: The types for one caller, from those for another.
* `options_only_label`: The options of a caller change labels only.
-/

namespace RouteTypes

/-- Labels that do not depend on the caller: points in time are texts, and the namespace
    has no name. -/
def Relabeling.neutral : Relabeling where
  date := .string
  space := fun _ => ""

/-- The typed document without what depends on the caller. -/
def Api.neutral (api : Api) : Api :=
  api.relabel .neutral

namespace Options

/-- The labels that a caller asks for. -/
def labels (options : Options) : Relabeling where
  date := options.timeType
  space := fun _ => options.space

/-- The caller who asks for neutral labels. -/
def plain : Options where
  keepDates := false
  space := ""

theorem neutral_fits (options : Options) : Relabeling.neutral.Fits options plain where
  timeType := by
    unfold timeType
    cases options.keepDates <;> rfl
  space := rfl

theorem labels_fits (options : Options) : options.labels.Fits options options where
  timeType := by
    rcases options with ⟨keepDates, space⟩
    cases keepDates <;> rfl
  space := rfl

end Options

/-- What one caller gets for a document is what another gets, with labels that make up for
    the options. -/
theorem toApi_relabel {ρ : Relabeling} {options options' : Options} (document : Document)
    (hfits : ρ.Fits options options') (hbinary : ∀ kind, ρ.binary kind = kind) :
    Logged.MapsTo (·.relabel ρ) (document.toApi options) (document.toApi options') := by
  have hrefl : ∀ s : Schema, s = s := fun _ => rfl
  refine toApi_mapsTo (.refl hrefl document) ?_
  refine Setting.translates_of_corresponds (fun s s' heq => ?_) (.refl hrefl _) hfits hbinary
  exact heq ▸ .refl s

section Labels

variable {ρ : Relabeling}

theorem Shape.exists_of_relabel_reference {s : Shape} {r : TypeRef}
    (h : s.relabel ρ = .reference r) : ∃ t, ρ.reference t = r := by
  cases s with
  | reference t => exact ⟨t, Shape.reference.inj h⟩
  | primitive | binary | object | combined | array | literals | status | format =>
      exact absurd h (by simp only [relabel, reduceCtorEq, not_false_eq_true])

/-- A relabeled built-in type was one before, though perhaps another. -/
theorem Shape.exists_of_relabel_primitive {s : Shape} {type : Primitive}
    (h : s.relabel ρ = .primitive type) : ∃ type', ρ.primitive type' = type := by
  cases s with
  | primitive type' => exact ⟨type', Shape.primitive.inj h⟩
  | reference | binary | object | combined | array | literals | status | format =>
      exact absurd h (by simp only [relabel, reduceCtorEq, not_false_eq_true])

/-- A relabeling that turns dates into something else leaves none behind. -/
theorem Relabeling.primitive_ne_date (h : ρ.date ≠ .date) (type : Primitive) :
    ρ.primitive type ≠ .date := by
  cases type with
  | date => exact h
  | string | number | boolean | null | any =>
      simp only [primitive, reduceCtorEq, ne_eq, not_false_eq_true]

variable {document : Document} {options : Options} {api : Api}

/-- The labels of a caller stand everywhere in what the caller gets. -/
theorem toApi_labels (h : (document.toApi options).Yields api) :
    api.relabel options.labels = api := by
  -- The second of the two compared runs is the first one again.
  have hself := toApi_relabel document options.labels_fits fun _ => rfl
  rcases hself.yields api h with ⟨api', hyields, heq⟩
  exact heq.trans (hyields.unique h)

/-- So every node has them. -/
theorem toApi_nodes_labels (h : (document.toApi options).Yields api) {n : TypeNode}
    (hn : n ∈ api.nodes) : ∃ s : Shape, s.relabel options.labels = n.shape := by
  -- The document is its own relabeling, so its nodes are relabeled nodes.
  rw [← toApi_labels h, Api.nodes_relabel] at hn
  rcases List.mem_map.mp hn with ⟨m, _, rfl⟩
  exact ⟨m.shape, (TypeNode.shape_relabel _ m).symm⟩

end Labels

/-- The options of a caller change nothing but labels. Two callers are refused with the
    same error, or get types that are the same once the namespaces are erased and dates are
    texts. The namespace is everywhere the one that was asked for, and there are no dates
    unless they were. -/
theorem options_only_label (document : Document) (options options' : Options) :
    ((∃ e, (document.toApi options).Fails e ∧ (document.toApi options').Fails e) ∨
      ∃ api api', (document.toApi options).Yields api ∧ (document.toApi options').Yields api' ∧
        api.neutral = api'.neutral) ∧
      ∀ api, (document.toApi options).Yields api →
        api.space = options.space ∧
          (∀ n ∈ api.nodes, ∀ r, n.shape = .reference r → r.space = options.space) ∧
          (options.keepDates = false → ∀ n ∈ api.nodes, n.shape ≠ .primitive .date) := by
  refine ⟨?_, fun api h => ⟨(toApi_yields h).2.2.2.2, fun n hn r hr => ?_, fun hdates n hn hd => ?_⟩⟩
  · -- Both are compared with the caller who asks for neutral labels.
    have hneutral := toApi_relabel document options.neutral_fits fun _ => rfl
    have hneutral' := toApi_relabel document options'.neutral_fits fun _ => rfl
    rcases (hneutral.trans hneutral'.symm).cases with hfails | ⟨api, api', h, h', _, heq, heq'⟩
    · exact Or.inl hfails
    · exact Or.inr ⟨api, api', h, h', heq.trans heq'.symm⟩
  -- The namespace of a relabeled reference is the one the relabeling gives.
  · rcases toApi_nodes_labels h hn with ⟨s, hs⟩
    rcases Shape.exists_of_relabel_reference (hs.trans hr) with ⟨t, rfl⟩
    rfl
  · -- The label for dates that was asked for is that of a text.
    rcases toApi_nodes_labels h hn with ⟨s, hs⟩
    rcases Shape.exists_of_relabel_primitive (hs.trans hd) with ⟨type, htype⟩
    refine Relabeling.primitive_ne_date ?_ type htype
    change options.timeType ≠ .date
    rw [Options.timeType, hdates]
    decide

/-- A document with a point in time and a reference to it. -/
def datedDocument : Document where
  components :=
    { schemas :=
        { entries := [
            ("Born", .inline { type := some (.single "string"), format := some "date-time" }),
            ("Since", .reference "#/components/schemas/Born")] } }

/-- What a caller gets for that document. -/
def datedApi (options : Options) : Api where
  baseUrl := ""
  space := options.space
  types := [declarationOf .schemas "Born" { shape := .primitive options.timeType },
    declarationOf .schemas "Since" (TypeRef.node { space := options.space, name := "Born" })]
  paths := []

/-- Two callers get different types for it, with other dates and another namespace. -/
theorem options_only_label_dated :
    (datedDocument.toApi {}).Yields (datedApi {}) ∧
      (datedDocument.toApi { keepDates := true, space := "Api" }).Yields
        (datedApi { keepDates := true, space := "Api" }) ∧
      (datedApi {}).neutral = (datedApi { keepDates := true, space := "Api" }).neutral ∧
      ∀ n ∈ (datedApi {}).nodes, n.shape ≠ .primitive .date := by
  have h : (datedDocument.toApi {}).Yields (datedApi {}) := rfl
  have h' : (datedDocument.toApi { keepDates := true, space := "Api" }).Yields
      (datedApi { keepDates := true, space := "Api" }) := rfl
  have honly := options_only_label datedDocument {} { keepDates := true, space := "Api" }
  refine ⟨h, h', ?_, (honly.2 _ h).2.2 rfl⟩
  -- The two do not fail, so the theorem gives the two documents that were typed.
  rcases honly.1 with ⟨e, he, _⟩ | ⟨api, api', hapi, hapi', heq⟩
  · exact absurd he (h.not_fails e)
  · rwa [h.unique hapi, h'.unique hapi']

end RouteTypes
