import RouteTypes.Module.Basic

/-!
# Occurrences in Type Trees

The nodes of a tree, and induction over them.

Nodes, shapes and properties are defined together, so a proof by structural
recursion needs a statement for each of them and for the lists between. Most facts
are only about nodes. `TypeNode.inductionOn` therefore looks at a node and at its
children alone, where the children of an object are the values of its properties.

`TypeNode.nodes` lists all nodes of a tree, so "somewhere in the tree" is membership
in a list. The questions that the definitions ask of trees agree with it
(`TypeNode.any_eq`).

## Main definitions

* `Shape.children`: The nodes right below a node of the shape.
* `TypeNode.nodes`, `Property.nodes`, `Api.nodes`: All nodes, the deepest included.

## Theorems

* `TypeNode.inductionOn`: Induction from the children of a node to the node.
* `TypeNode.nodes_eq`: The nodes of a tree are its root and those of its children.
* `Api.mem_nodes`: Where the nodes of a document stand.
* `TypeNode.any_eq`: A test passes somewhere when some node passes it.
-/

namespace RouteTypes

/-- The nodes right below a node of the shape. -/
def Shape.children : Shape → List TypeNode
  | .object properties => properties.flatMap (·.values)
  | .combined _ members => members
  | .array item => [item]
  | .primitive _ | .binary _ | .literals _ | .reference _ | .status _ | .format _ => []

mutual

/-- Induction along the constructors, for a statement about nodes only. -/
theorem TypeNode.holds_of_children {P : TypeNode → Prop}
    (step : ∀ n : TypeNode, (∀ m ∈ n.shape.children, P m) → P n) : ∀ n : TypeNode, P n
  | ⟨nullable, description, shape⟩ =>
      step ⟨nullable, description, shape⟩ (Shape.children_hold step shape)
termination_by structural n => n

/-- The children of a shape have what all nodes have whose children have it. -/
theorem Shape.children_hold {P : TypeNode → Prop}
    (step : ∀ n : TypeNode, (∀ m ∈ n.shape.children, P m) → P n) :
    ∀ (s : Shape), ∀ m ∈ s.children, P m
  | .object properties => properties_hold step properties
  | .combined _ members => nodes_hold step members
  | .array item => fun _ hm => List.mem_singleton.mp hm ▸ TypeNode.holds_of_children step item
  | .primitive _ | .binary _ | .literals _ | .reference _ | .status _ | .format _ =>
      fun _ hm => absurd hm List.not_mem_nil
termination_by structural s => s

/-- So have the values of a property. -/
theorem Property.values_hold {P : TypeNode → Prop}
    (step : ∀ n : TypeNode, (∀ m ∈ n.shape.children, P m) → P n) :
    ∀ (q : Property), ∀ m ∈ q.values, P m
  | ⟨_, _, _, values⟩ => nodes_hold step values
termination_by structural q => q

/-- So have the nodes of a list, which are reached by the recursion one by one. -/
theorem nodes_hold {P : TypeNode → Prop}
    (step : ∀ n : TypeNode, (∀ m ∈ n.shape.children, P m) → P n) :
    ∀ (ns : List TypeNode), ∀ m ∈ ns, P m
  | [] => fun _ hm => absurd hm List.not_mem_nil
  | n :: ns => fun m hm => by
      rcases List.mem_cons.mp hm with heq | hm
      · rw [heq]
        exact TypeNode.holds_of_children step n
      · exact nodes_hold step ns m hm
termination_by structural ns => ns

/-- So have the values of the properties of an object, put together into one list. -/
theorem properties_hold {P : TypeNode → Prop}
    (step : ∀ n : TypeNode, (∀ m ∈ n.shape.children, P m) → P n) :
    ∀ (qs : List Property), ∀ m ∈ qs.flatMap (·.values), P m
  | [] => fun _ hm => absurd hm List.not_mem_nil
  | q :: qs => fun m hm => by
      rw [List.flatMap_cons] at hm
      rcases List.mem_append.mp hm with hm | hm
      · exact Property.values_hold step q m hm
      · exact properties_hold step qs m hm
termination_by structural qs => qs

end

/-- What a node has whenever its children have it, all nodes have. -/
@[elab_as_elim]
theorem TypeNode.inductionOn {P : TypeNode → Prop} (n : TypeNode)
    (step : ∀ n : TypeNode, (∀ m ∈ n.shape.children, P m) → P n) : P n :=
  TypeNode.holds_of_children step n

mutual

/-- The nodes of a tree, its root first. -/
def TypeNode.nodes : TypeNode → List TypeNode
  | n@⟨_, _, shape⟩ => n :: shape.nodesBelow
termination_by structural n => n

/-- The nodes below a node of the shape. -/
def Shape.nodesBelow : Shape → List TypeNode
  | .object properties => propertyNodes properties
  | .combined _ members => allNodes members
  | .array item => item.nodes
  | .primitive _ | .binary _ | .literals _ | .reference _ | .status _ | .format _ => []
termination_by structural s => s

/-- The nodes in the values of a property. -/
def Property.nodes : Property → List TypeNode
  | ⟨_, _, _, values⟩ => allNodes values
termination_by structural q => q

/-- The nodes of several trees. -/
def allNodes : List TypeNode → List TypeNode
  | [] => []
  | n :: ns => n.nodes ++ allNodes ns
termination_by structural ns => ns

/-- The nodes of several properties. -/
def propertyNodes : List Property → List TypeNode
  | [] => []
  | q :: qs => q.nodes ++ propertyNodes qs
termination_by structural qs => qs

end

theorem allNodes_eq (ns : List TypeNode) : allNodes ns = ns.flatMap (·.nodes) := by
  induction ns with
  | nil => rfl
  | cons n ns ih => rw [allNodes, ih, List.flatMap_cons]

theorem Property.nodes_eq (q : Property) : q.nodes = q.values.flatMap (·.nodes) := by
  rcases q with ⟨name, required, description, values⟩
  rw [Property.nodes, allNodes_eq]

theorem propertyNodes_eq (qs : List Property) :
    propertyNodes qs = qs.flatMap (·.nodes) := by
  induction qs with
  | nil => rfl
  | cons q qs ih => rw [propertyNodes, ih, List.flatMap_cons]

/-- The nodes below a shape are those of its children. -/
theorem Shape.nodesBelow_eq (s : Shape) : s.nodesBelow = s.children.flatMap (·.nodes) := by
  cases s with
  | object properties =>
      -- A property may have several values, so two lists of lists are put together.
      rw [Shape.nodesBelow, propertyNodes_eq, Shape.children, List.flatMap_assoc]
      simp only [Property.nodes_eq]
  | combined combinator members => rw [Shape.nodesBelow, allNodes_eq, Shape.children]
  | array item => rw [Shape.nodesBelow, Shape.children, List.flatMap_singleton]
  | primitive | binary | literals | reference | status | format => rfl

/-- The nodes of a tree are its root and the nodes of its children. -/
theorem TypeNode.nodes_eq (n : TypeNode) :
    n.nodes = n :: n.shape.children.flatMap (·.nodes) := by
  rcases n with ⟨nullable, description, shape⟩
  rw [TypeNode.nodes, Shape.nodesBelow_eq]

theorem TypeNode.mem_nodes_self (n : TypeNode) : n ∈ n.nodes := by
  rw [n.nodes_eq]
  exact List.mem_cons_self

/-- What stands in a child stands in the tree. -/
theorem TypeNode.mem_nodes_of_child {n m k : TypeNode} (hm : m ∈ n.shape.children)
    (hk : k ∈ m.nodes) : k ∈ n.nodes := by
  rw [n.nodes_eq]
  exact List.mem_cons_of_mem n (List.mem_flatMap.mpr ⟨m, hm, hk⟩)

/-- The nodes of a node of a tree are nodes of the tree. -/
theorem TypeNode.mem_nodes_trans {n m k : TypeNode} (hm : m ∈ n.nodes) (hk : k ∈ m.nodes) :
    k ∈ n.nodes := by
  induction n using TypeNode.inductionOn with
  -- The induction is on the outer tree: the node between is its root, or stands in a child.
  | step n ih =>
      rw [n.nodes_eq] at hm
      rcases List.mem_cons.mp hm with rfl | hm
      · exact hk
      · rcases List.mem_flatMap.mp hm with ⟨c, hc, hm⟩
        exact mem_nodes_of_child hc (ih c hc hm)

/-- What all nodes of a tree have, the root has and all nodes of its children have. -/
theorem TypeNode.forall_mem_nodes {P : TypeNode → Prop} (n : TypeNode) :
    (∀ m ∈ n.nodes, P m) ↔ P n ∧ ∀ c ∈ n.shape.children, ∀ m ∈ c.nodes, P m := by
  rw [n.nodes_eq, List.forall_mem_cons]
  simp only [List.mem_flatMap, forall_exists_index, and_imp]
  exact and_congr_right fun _ => ⟨fun h c hc m hm => h m c hc hm, fun h m c hc hm => h c hc m hm⟩

/-- The nodes of an operation. -/
def TypedOperation.nodes (o : TypedOperation) : List TypeNode :=
  o.entries.flatMap (·.nodes)

/-- All nodes of a document: those of its declarations, then those of its
    operations. -/
def Api.nodes (api : Api) : List TypeNode :=
  api.types.flatMap (·.value.nodes) ++ api.paths.flatMap fun p => p.operations.flatMap (·.nodes)

/-- A node of a document stands in a declaration, or in an entry of an operation. -/
theorem Api.mem_nodes {api : Api} {n : TypeNode} :
    n ∈ api.nodes ↔ (∃ t ∈ api.types, n ∈ t.value.nodes) ∨
      ∃ p ∈ api.paths, ∃ o ∈ p.operations, ∃ q ∈ o.entries, ∃ v ∈ q.values, n ∈ v.nodes := by
  simp only [Api.nodes, TypedOperation.nodes, Property.nodes_eq, List.mem_append,
    List.mem_flatMap]

section Questions

variable (p : TypeNode → Bool)

theorem anyNode_eq (ns : List TypeNode) : anyNode p ns = ns.any (·.any p) := by
  induction ns with
  | nil => rfl
  | cons n ns ih => rw [anyNode, ih, List.any_cons]

theorem anyProperty_eq (qs : List Property) :
    anyProperty p qs = (qs.flatMap (·.values)).any (·.any p) := by
  induction qs with
  | nil => rfl
  | cons q qs ih =>
      rcases q with ⟨name, required, description, values⟩
      rw [anyProperty, ih, List.flatMap_cons, List.any_append, Property.any, anyNode_eq]

/-- Below a shape a test is passed when a child passes it somewhere. -/
theorem Shape.anyBelow_eq (s : Shape) : s.anyBelow p = s.children.any (·.any p) := by
  cases s with
  | object properties => rw [Shape.anyBelow, anyProperty_eq, Shape.children]
  | combined combinator members => rw [Shape.anyBelow, anyNode_eq, Shape.children]
  | array item => rw [Shape.anyBelow, Shape.children, List.any_cons, List.any_nil, Bool.or_false]
  | primitive | binary | literals | reference | status | format => rfl

theorem TypeNode.any_root (n : TypeNode) : n.any p = (p n || n.shape.children.any (·.any p)) := by
  rcases n with ⟨nullable, description, shape⟩
  rw [TypeNode.any, Shape.anyBelow_eq]

end Questions

end RouteTypes
