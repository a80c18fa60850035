import RouteTypes.Proofs.Occurrence
import RouteTypes.Typing.Components
import RouteTypes.Typing.Operation
import Mathlib.Data.List.Basic

/-!
# Relabeled Trees

Type trees with other labels at their leaves.

Three labels in a tree come from elsewhere than the document: a point in time is a text or
a date by a choice of the caller, binary content depends on the direction, and references
carry the namespace. A relabeling gives each of them another value and changes nothing
else in the tree.

Everything that trees are made with commutes with relabeling, because no step on the way
looks at a label. Two typings that agree up to labels can therefore be compared step by
step. What a relabeling does to a tree it does to each node of it (`nodes_relabel`), and a
relabeling that changes nothing is the identity (`relabel_id`).

## Main definitions

* `Relabeling`: New labels for the leaves of a tree.
* `TypeNode.relabel`, `Property.relabel`, `Api.relabel`: A tree and a document with them.

## Theorems

* `TypeNode.nodes_relabel`, `Api.nodes_relabel`: The nodes of a relabeled tree.
* `TypeNode.relabel_id`, `Api.relabel_id`: The relabeling that changes nothing.
* `mergeParameters_relabel`, `parameterEntries_relabel`: Merging commutes with relabeling.
-/

namespace RouteTypes

/-- New labels for the leaves of a tree: what a date becomes, binary content, and the
    namespace of a reference. -/
structure Relabeling where
  date : Primitive := .date
  binary : BinaryKind → BinaryKind := id
  space : String → String := id

namespace Relabeling

/-- A built-in type with the new label for dates. -/
def primitive (ρ : Relabeling) : Primitive → Primitive
  | .date => ρ.date
  | .string => .string
  | .number => .number
  | .boolean => .boolean
  | .null => .null
  | .any => .any

/-- A reference with its new namespace. -/
def reference (ρ : Relabeling) (r : TypeRef) : TypeRef :=
  { r with space := ρ.space r.space }

end Relabeling

mutual

/-- The node with new labels below it, and on it when it is a leaf. -/
def TypeNode.relabel (ρ : Relabeling) : TypeNode → TypeNode
  | ⟨nullable, description, shape⟩ => ⟨nullable, description, shape.relabel ρ⟩
termination_by structural n => n

/-- The shape with new labels. -/
def Shape.relabel (ρ : Relabeling) : Shape → Shape
  | .primitive type => .primitive (ρ.primitive type)
  | .binary kind => .binary (ρ.binary kind)
  | .reference target => .reference (ρ.reference target)
  | .object properties => .object (relabelProperties ρ properties)
  | .combined combinator members => .combined combinator (relabelNodes ρ members)
  | .array item => .array (item.relabel ρ)
  | .literals members => .literals members
  | .status code => .status code
  | .format format => .format format
termination_by structural s => s

/-- The property with new labels in its values. -/
def Property.relabel (ρ : Relabeling) : Property → Property
  | ⟨name, required, description, values⟩ =>
    ⟨name, required, description, relabelNodes ρ values⟩
termination_by structural q => q

/-- The nodes with new labels. -/
def relabelNodes (ρ : Relabeling) : List TypeNode → List TypeNode
  | [] => []
  | n :: ns => n.relabel ρ :: relabelNodes ρ ns
termination_by structural ns => ns

/-- The properties with new labels. -/
def relabelProperties (ρ : Relabeling) : List Property → List Property
  | [] => []
  | q :: qs => q.relabel ρ :: relabelProperties ρ qs
termination_by structural qs => qs

end

section Trees

variable (ρ : Relabeling)

/-- Relabeling a list of nodes is relabeling each of them. -/
theorem relabelNodes_eq (ns : List TypeNode) : relabelNodes ρ ns = ns.map (·.relabel ρ) := by
  induction ns with
  | nil => rfl
  | cons n ns ih => rw [relabelNodes, ih, List.map_cons]

theorem relabelProperties_eq (qs : List Property) :
    relabelProperties ρ qs = qs.map (·.relabel ρ) := by
  induction qs with
  | nil => rfl
  | cons q qs ih => rw [relabelProperties, ih, List.map_cons]

@[simp] theorem TypeNode.relabel_mk (nullable : Bool) (description : Option String)
    (shape : Shape) :
    (TypeNode.mk nullable description shape).relabel ρ = ⟨nullable, description, shape.relabel ρ⟩ :=
  rfl

/-- The shape of a relabeled node is its shape with new labels. -/
@[simp] theorem TypeNode.shape_relabel (n : TypeNode) :
    (n.relabel ρ).shape = n.shape.relabel ρ := by
  cases n
  rfl

/-- A description is no label. -/
@[simp] theorem TypeNode.description_relabel (n : TypeNode) :
    (n.relabel ρ).description = n.description := by
  cases n
  rfl

@[simp] theorem Shape.relabel_object (qs : List Property) :
    (Shape.object qs).relabel ρ = .object (qs.map (·.relabel ρ)) :=
  congrArg Shape.object (relabelProperties_eq ρ qs)

/-- A combination is relabeled in its members, and stays the same combination. -/
@[simp] theorem Shape.relabel_combined (combinator : Combinator) (ns : List TypeNode) :
    (Shape.combined combinator ns).relabel ρ = .combined combinator (ns.map (·.relabel ρ)) :=
  congrArg (Shape.combined combinator) (relabelNodes_eq ρ ns)

/-- A property is relabeled in its values, and keeps its name and what is said about it. -/
theorem Property.relabel_mk (name : PropertyName) (required : Bool)
    (description : Option String) (values : List TypeNode) :
    (Property.mk name required description values).relabel ρ
      = ⟨name, required, description, values.map (·.relabel ρ)⟩ :=
  congrArg (Property.mk name required description) (relabelNodes_eq ρ values)

@[simp] theorem Property.values_relabel (q : Property) :
    (q.relabel ρ).values = q.values.map (·.relabel ρ) := by
  cases q
  rw [relabel_mk]

/-- The children of a relabeled shape are the relabeled children. -/
theorem Shape.children_relabel (s : Shape) :
    (s.relabel ρ).children = s.children.map (·.relabel ρ) := by
  cases s with
  | object qs =>
      simp only [relabel_object, children, List.flatMap_map, Property.values_relabel,
        List.map_flatMap]
  | combined combinator ns => rw [relabel_combined, children, children]
  | array item => rfl
  | primitive | binary | literals | reference | status | format => rfl

/-- The nodes of a relabeled tree are the relabeled nodes. -/
theorem TypeNode.nodes_relabel (n : TypeNode) :
    (n.relabel ρ).nodes = n.nodes.map (·.relabel ρ) := by
  induction n using TypeNode.inductionOn with
  | step n ih =>
      rw [nodes_eq, n.nodes_eq, List.map_cons, shape_relabel, Shape.children_relabel,
        List.flatMap_map, List.map_flatMap]
      exact congrArg _ (List.flatMap_congr ih)

theorem Property.nodes_relabel (q : Property) :
    (q.relabel ρ).nodes = q.nodes.map (·.relabel ρ) := by
  rw [nodes_eq, q.nodes_eq, values_relabel, List.flatMap_map, List.map_flatMap]
  exact List.flatMap_congr fun n _ => n.nodes_relabel ρ

end Trees

section Identity

theorem Relabeling.primitive_id (type : Primitive) : primitive {} type = type := by
  cases type <;> rfl

theorem map_eq_self {α : Type} {f : α → α} {xs : List α} (h : ∀ x ∈ xs, f x = x) :
    xs.map f = xs :=
  (List.map_congr_left h).trans (List.map_id xs)

/-- A property is left as it is when its values are. -/
theorem Property.relabel_eq_self {ρ : Relabeling} {q : Property}
    (h : ∀ v ∈ q.values, v.relabel ρ = v) : q.relabel ρ = q := by
  rcases q with ⟨name, required, description, values⟩
  rw [relabel_mk]
  exact congrArg (Property.mk name required description) (map_eq_self h)

/-- The relabeling that changes nothing leaves a tree as it is. -/
theorem TypeNode.relabel_id (n : TypeNode) : n.relabel {} = n := by
  induction n using TypeNode.inductionOn with
  -- The induction is on the node; a shape with parts has them as its children.
  | step n ih =>
      rcases n with ⟨nullable, description, shape⟩
      refine congrArg (TypeNode.mk nullable description) ?_
      cases shape with
      | primitive type => exact congrArg Shape.primitive (Relabeling.primitive_id type)
      | object qs =>
          rw [Shape.relabel_object, Shape.object.injEq]
          refine map_eq_self fun q hq => Property.relabel_eq_self fun v hv => ih v ?_
          exact List.mem_flatMap.mpr ⟨q, hq, hv⟩
      | combined combinator ns =>
          rw [Shape.relabel_combined]
          exact congrArg (Shape.combined combinator) (map_eq_self ih)
      | array item => exact congrArg Shape.array (ih item List.mem_cons_self)
      | binary | literals | reference | status | format => rfl

/-- The relabeling that changes nothing leaves a property as it is. -/
theorem Property.relabel_id (q : Property) : q.relabel {} = q :=
  relabel_eq_self fun v _ => v.relabel_id

end Identity

section Construction

variable (ρ : Relabeling)

/-- Labels can be changed before or after a field is made from a value. -/
@[simp] theorem Property.relabel_field (name : String) (required : Bool)
    (description : Option String) (v : TypeNode) :
    (Property.field name required description v).relabel ρ
      = .field name required description (v.relabel ρ) :=
  relabel_mk ρ _ _ _ _

/-- A property for a value that may be missing. -/
theorem optionalField_relabel (name : String) (required : Bool) (description : Option String)
    (v : Option TypeNode) :
    (v.map (Property.field name required description)).map (·.relabel ρ)
      = (v.map (·.relabel ρ)).map (Property.field name required description) := by
  rw [Option.map_map, Option.map_map]
  refine congrArg (fun f => v.map f) (funext fun n => ?_)
  exact Property.relabel_field ρ name required description n

theorem Property.relabel_index (v : TypeNode) :
    (Property.index v).relabel ρ = .index (v.relabel ρ) := by
  cases v
  exact relabel_mk ρ _ _ _ _

theorem indexProperties_relabel (v : Option TypeNode) :
    (indexProperties v).map (·.relabel ρ) = indexProperties (v.map (·.relabel ρ)) := by
  cases v with
  | none => rfl
  | some v => exact congrArg (fun q => [q]) (Property.relabel_index ρ v)

/-- The field of a property with its description, which comes from the value, too. -/
theorem fields_relabel (required : List String) (name : String) (v : Option TypeNode) :
    (typeProperties.fields required name v).map (·.relabel ρ)
      = typeProperties.fields required name (v.map (·.relabel ρ)) := by
  cases v with
  | none => rfl
  | some v =>
      simp only [typeProperties.fields, Option.toList_some, List.map_cons, List.map_nil,
        Option.map_some, Property.relabel_field, TypeNode.description_relabel]

/-- Relabeling leaves the number of members, and so whether they have a combination. -/
theorem combine_relabel (combinator : Combinator) (ns : List TypeNode) :
    (combine combinator ns).map (·.relabel ρ) = combine combinator (ns.map (·.relabel ρ)) := by
  unfold combine
  rw [List.isEmpty_map]
  split
  · rfl
  · exact congrArg some (Shape.relabel_combined ρ combinator ns)

/-- The values of an enumeration are no labels. -/
theorem literals_relabel (s : Schema) (members : List EnumMember) :
    (s.literals members).map (·.relabel ρ) = s.literals members := by
  unfold Schema.literals
  split <;> rfl

/-- A description can be put on before or after the labels are changed. -/
theorem describe_relabel (description : Option String) (v : TypeNode) :
    (describe description v).relabel ρ = describe description (v.relabel ρ) := by
  cases v
  cases description <;> rfl

/-- Whether there is an entry for headers depends on their number only. -/
theorem headersEntry_relabel (qs : List Property) :
    (headersEntry qs).map (·.relabel ρ) = headersEntry (qs.map (·.relabel ρ)) := by
  unfold headersEntry
  rw [List.isEmpty_map]
  split
  · rfl
  · rw [List.map_singleton, Property.relabel_field, TypeNode.relabel_mk, Shape.relabel_object]

/-- What a parameter adds, with new labels. -/
def ParameterEntry.relabel : ParameterEntry → ParameterEntry
  | wrapper value => wrapper (value.relabel ρ)
  | field property => field (property.relabel ρ)

/-- A parameter that is ready to be merged, with new labels. -/
def DeclaredParameter.relabel (d : DeclaredParameter) : DeclaredParameter :=
  { d with entry := d.entry.relabel ρ }

/-- Merged parameters with new labels. -/
def ParameterGroup.relabel (group : ParameterGroup) : ParameterGroup :=
  { group with values := group.values.map (·.relabel ρ) }

theorem ParameterEntry.wrapper?_relabel (e : ParameterEntry) :
    (e.relabel ρ).wrapper? = e.wrapper?.map (·.relabel ρ) := by
  cases e <;> rfl

theorem ParameterEntry.field?_relabel (e : ParameterEntry) :
    (e.relabel ρ).field? = e.field?.map (·.relabel ρ) := by
  cases e <;> rfl

/-- What a list is mapped to and then filtered for, when the two steps commute. -/
theorem filterMap_map_of {α α' β β' : Type} {f : α → α'} {g : α → Option β}
    {g' : α' → Option β'} {k : β → β'} (h : ∀ a, g' (f a) = (g a).map k) (xs : List α) :
    (xs.map f).filterMap g' = (xs.filterMap g).map k := by
  rw [List.filterMap_map, List.map_filterMap]
  exact List.filterMap_congr fun a _ => h a

/-- Relabeled parameters are merged into relabeled values. -/
theorem mergeParameters_relabel (ds : List DeclaredParameter) (location : Location) :
    mergeParameters (ds.map (·.relabel ρ)) location
      = (mergeParameters ds location).map (·.relabel ρ) := by
  -- No location changes, so the same parameters are merged.
  have hhere : (ds.map (·.relabel ρ)).filter (·.location = location)
      = (ds.filter (·.location = location)).map (·.relabel ρ) := List.filter_map
  have hwrappers : ∀ here : List DeclaredParameter,
      (here.map (·.relabel ρ)).filterMap (·.entry.wrapper?)
        = (here.filterMap (·.entry.wrapper?)).map (·.relabel ρ) :=
    filterMap_map_of fun d => d.entry.wrapper?_relabel ρ
  have hfields : ∀ here : List DeclaredParameter,
      (here.map (·.relabel ρ)).filterMap (·.entry.field?)
        = (here.filterMap (·.entry.field?)).map (·.relabel ρ) :=
    filterMap_map_of fun d => d.entry.field?_relabel ρ
  unfold mergeParameters
  dsimp only
  rw [hhere, List.isEmpty_map, hwrappers, hfields, List.isEmpty_map, List.any_map]
  split
  -- Without parameters there is no group, with or without new labels.
  · rfl
  · refine congrArg (fun values => some (ParameterGroup.mk values _)) ?_
    rw [List.map_append]
    split
    · rfl
    · rw [List.map_singleton, TypeNode.relabel_mk, Shape.relabel_object]

/-- The entries for parameters are made from relabeled groups. -/
theorem parameterEntries_relabel (ds : List DeclaredParameter) :
    parameterEntries (ds.map (·.relabel ρ)) = (parameterEntries ds).map (·.relabel ρ) := by
  -- Both entries are made from a group that may be missing.
  have hentry : ∀ (name : String) (required : ParameterGroup → Bool),
      (∀ group, required (group.relabel ρ) = required group) → ∀ o : Option ParameterGroup,
        ((o.map (·.relabel ρ)).map fun g => g.property name (required g))
          = (o.map fun g => g.property name (required g)).map (·.relabel ρ) := by
    intro name required hrequired o
    rw [Option.map_map, Option.map_map]
    refine congrArg (fun f => o.map f) (funext fun group => ?_)
    rw [Function.comp_apply, Function.comp_apply, hrequired]
    exact (Property.relabel_mk ρ _ _ _ _).symm
  -- Headers are never required here, the query is when its group says so.
  have hheaders := hentry "reqHeaders" (fun _ => false) (fun _ => rfl) (mergeParameters ds .header)
  have hquery := hentry "query" (·.required) (fun _ => rfl) (mergeParameters ds .query)
  unfold parameterEntries
  dsimp only
  rw [mergeParameters_relabel, mergeParameters_relabel, List.map_append, ← Option.toList_map,
    ← Option.toList_map]
  exact congrArg₂ (fun headers query => headers.toList ++ query.toList) hheaders hquery

end Construction

section Documents

variable (ρ : Relabeling)

/-- The declaration with new labels. -/
def NamedType.relabel (t : NamedType) : NamedType :=
  { t with value := t.value.relabel ρ }

/-- The operation with new labels. -/
def TypedOperation.relabel (o : TypedOperation) : TypedOperation :=
  { o with entries := o.entries.map (·.relabel ρ) }

/-- The path with new labels. -/
def TypedPath.relabel (p : TypedPath) : TypedPath :=
  { p with operations := p.operations.map (·.relabel ρ) }

/-- The document with new labels, and the new name of its own namespace. -/
def Api.relabel (api : Api) : Api where
  baseUrl := api.baseUrl
  space := ρ.space api.space
  types := api.types.map (·.relabel ρ)
  paths := api.paths.map (·.relabel ρ)

/-- The nodes of a relabeled document are the relabeled nodes. -/
theorem Api.nodes_relabel (api : Api) : (api.relabel ρ).nodes = api.nodes.map (·.relabel ρ) := by
  simp only [nodes, relabel, TypedOperation.nodes, NamedType.relabel, TypedPath.relabel,
    TypedOperation.relabel, List.map_append, List.flatMap_map, List.map_flatMap,
    TypeNode.nodes_relabel, Property.nodes_relabel]

theorem TypedPath.relabel_id (p : TypedPath) : p.relabel {} = p := by
  have hoperations : ∀ o : TypedOperation, o.relabel {} = o := fun o => by
    rw [TypedOperation.relabel, map_eq_self fun q _ => q.relabel_id]
  rw [relabel, map_eq_self fun o _ => hoperations o]

/-- The relabeling that changes nothing leaves a document as it is. -/
theorem Api.relabel_id (api : Api) : api.relabel {} = api := by
  have htypes : ∀ t : NamedType, t.relabel {} = t := fun t => by
    rw [NamedType.relabel, TypeNode.relabel_id]
  rw [relabel, map_eq_self fun t _ => htypes t, map_eq_self fun p _ => p.relabel_id]
  rfl

end Documents

end RouteTypes
