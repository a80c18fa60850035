import RouteTypes.Proofs.Syntax.Grammar
import RouteTypes.Proofs.Syntax.Spelling

/-!
# What a Type Tree Means and How It Is Read

Two values of a tree in an algebra.

The meaning follows the tree: brackets apply to the whole item of an array, and a
combination joins all of its members. The reading follows the text. It differs in one
place only. Where an item stands before brackets without parentheses, the brackets take
what stands right before them, and that is the last factor when the text of the item is
an intersection. So the reading of a node is kept in two parts, its last factor and what
stands before it (`Factors`).

## Main definitions

* `TypeNode.meaning`: The value of a tree by its structure.
* `Factors`: The value of an intersection, with its last factor apart.
* `TypeNode.factors`: The value of a tree by its text.

## Theorems

* `Factors.value_all`: Several values as factors are their intersection.
-/

namespace RouteTypes

open Syntax

namespace Syntax

/-- Values joined by an operation. Nothing joined is nothing written. -/
def TypeAlgebra.all {α : Type} (A : TypeAlgebra α) (op : α → α → α) : List α → α
  | [] => A.word ""
  | [a] => a
  | a :: rest => op a (A.all op rest)

/-- A value with its last factor apart from those before it. -/
structure Factors (α : Type) where
  front : Option α := none
  last : α

namespace Factors

variable {α : Type} (A : TypeAlgebra α)

/-- The value of all factors. -/
def value (F : Factors α) : α :=
  joined A.inter F.front F.last

/-- The factors of one value and then those of another. -/
def and (F G : Factors α) : Factors α where
  front := some (match G.front with
    | none => F.value A
    | some a => A.inter (F.value A) a)
  last := G.last

/-- The factors of several values. -/
def all : List (Factors α) → Factors α
  | [] => { last := A.word "" }
  | [F] => F
  | F :: rest => F.and A (all rest)

/-- One value, or a union of several. -/
def alternatives : List (Factors α) → Factors α
  | [F] => F
  | Fs => { last := A.all A.union (Fs.map (·.value A)) }

/-- The value of the factors of two is the intersection of their values. -/
theorem value_and (F G : Factors α) : (F.and A G).value A = A.inter (F.value A) (G.value A) := by
  rcases G with ⟨front, last⟩
  -- The factors in front of the last one are regrouped, so the operation has to be associative.
  cases front with
  | none => rfl
  | some a => exact A.inter_assoc _ _ _

/-- Several values as factors are their intersection. -/
theorem value_all (Fs : List (Factors α)) :
    (all A Fs).value A = A.all A.inter (Fs.map (·.value A)) := by
  induction Fs with
  | nil => rfl
  | cons F Fs ih =>
      cases Fs with
      | nil => rfl
      | cons G Fs =>
          rw [all, value_and, ih]
          · rfl
          · exact List.cons_ne_nil _ _

theorem value_alternatives (Fs : List (Factors α)) :
    (alternatives A Fs).value A = A.all A.union (Fs.map (·.value A)) := by
  unfold alternatives
  split <;> rfl

end Factors

end Syntax

section Values

variable {α : Type} (A : TypeAlgebra α)

/-- The value of a literal. -/
def Literal.meaning : Literal → α
  | quoted text => A.quoted text
  | raw token => A.word token

/-- The value of a reference. -/
def TypeRef.meaning (r : TypeRef) : α :=
  match r.property with
  | some property => A.narrowed (A.word r.path) property
  | none => A.word r.path

/-- The value of binary content. An upload is a file or a stream. -/
def BinaryKind.meaning : BinaryKind → α
  | upload => A.union (A.word "File") (A.word "ReadStream")
  | download => A.word "Blob"

/-- The operation of a combination. -/
def Combinator.operation (c : Combinator) : α → α → α :=
  if c.isIntersection then A.inter else A.union

/-- The entry for a property with some values. An entry that may be left out says so in
    its value too. -/
def Property.entry (q : Property) (values : List α) : Member α where
  name := q.name
  optional := q.isOptional
  value := if q.isOptional then A.union (A.all A.inter values) (A.word "undefined")
    else A.all A.inter values

mutual

/-- The value of a node by its structure. -/
def TypeNode.meaning : TypeNode → α
  | ⟨nullable, _, shape⟩ =>
    if nullable then A.union shape.meaning (A.word "null") else shape.meaning
termination_by structural n => n

/-- The value of a shape by its structure. -/
def Shape.meaning : Shape → α
  | .primitive type => A.word type.name
  | .binary kind => kind.meaning A
  | .literals members => A.all A.union (members.map (·.meaning A))
  | .object properties => A.block (propertyMeanings properties)
  | .combined combinator members => A.all (combinator.operation A) (nodeMeanings members)
  | .array item => A.array item.meaning
  | .reference target => target.meaning A
  | .status code => A.word (toString code)
  | .format format => A.word format.name
termination_by structural s => s

/-- The entry of a property by its structure. -/
def Property.meaning : Property → Member α
  | ⟨name, required, description, values⟩ =>
    Property.entry A ⟨name, required, description, values⟩ (nodeMeanings values)
termination_by structural q => q

/-- The values of nodes by their structure. -/
def nodeMeanings : List TypeNode → List α
  | [] => []
  | n :: rest => n.meaning :: nodeMeanings rest
termination_by structural ns => ns

/-- The entries of properties by their structure. -/
def propertyMeanings : List Property → List (Member α)
  | [] => []
  | q :: rest => q.meaning :: propertyMeanings rest
termination_by structural qs => qs

end

mutual

/-- The value of a node by its text. -/
def TypeNode.factors : TypeNode → Factors α
  | ⟨nullable, _, shape⟩ =>
    if nullable then { last := A.union (shape.factors.value A) (A.word "null") }
    else shape.factors
termination_by structural n => n

/-- The value of a shape by its text. Brackets take the last factor of what stands before
    them, unless parentheses hold it together. -/
def Shape.factors : Shape → Factors α
  | .primitive type => { last := A.word type.name }
  | .binary kind => { last := kind.meaning A }
  | .literals members => { last := A.all A.union (members.map (·.meaning A)) }
  | .object properties => { last := A.block (propertyReadings properties) }
  | .combined combinator members =>
    if combinator.isIntersection then Factors.all A (nodeFactors members)
    else Factors.alternatives A (nodeFactors members)
  | .array item =>
    if item.isUnion || item.isIntersection then { last := A.array (item.factors.value A) }
    else { front := item.factors.front, last := A.array item.factors.last }
  | .reference target => { last := target.meaning A }
  | .status code => { last := A.word (toString code) }
  | .format format => { last := A.word format.name }
termination_by structural s => s

/-- The entry of a property by its text. -/
def Property.reading : Property → Member α
  | ⟨name, required, description, values⟩ =>
    Property.entry A ⟨name, required, description, values⟩
      ((nodeFactors values).map (·.value A))
termination_by structural q => q

/-- The values of nodes by their texts. -/
def nodeFactors : List TypeNode → List (Factors α)
  | [] => []
  | n :: rest => n.factors :: nodeFactors rest
termination_by structural ns => ns

/-- The entries of properties by their texts. -/
def propertyReadings : List Property → List (Member α)
  | [] => []
  | q :: rest => q.reading :: propertyReadings rest
termination_by structural qs => qs

end

theorem nodeMeanings_eq (ns : List TypeNode) : nodeMeanings A ns = ns.map (·.meaning A) := by
  induction ns with
  | nil => rfl
  | cons n ns ih => rw [nodeMeanings, ih, List.map_cons]

theorem propertyMeanings_eq (qs : List Property) :
    propertyMeanings A qs = qs.map (·.meaning A) := by
  induction qs with
  | nil => rfl
  | cons q qs ih => rw [propertyMeanings, ih, List.map_cons]

theorem nodeFactors_eq (ns : List TypeNode) : nodeFactors A ns = ns.map (·.factors A) := by
  induction ns with
  | nil => rfl
  | cons n ns ih => rw [nodeFactors, ih, List.map_cons]

theorem propertyReadings_eq (qs : List Property) :
    propertyReadings A qs = qs.map (·.reading A) := by
  induction qs with
  | nil => rfl
  | cons q qs ih => rw [propertyReadings, ih, List.map_cons]

/-- The text of a combination joins the values of the texts of its members. -/
theorem Shape.value_combined (combinator : Combinator) (members : List TypeNode) :
    ((Shape.combined combinator members).factors A).value A
      = A.all (combinator.operation A) (members.map fun m => (m.factors A).value A) := by
  rw [Shape.factors, nodeFactors_eq]
  unfold Combinator.operation
  by_cases hc : combinator.isIntersection = true
  · rw [if_pos hc, if_pos hc, Factors.value_all, List.map_map]
    rfl
  -- A union holds its members together, so its value is the last factor.
  · rw [if_neg hc, if_neg hc, Factors.value_alternatives, List.map_map]
    rfl

/-- A combination joins the values of its members. -/
theorem Shape.meaning_combined (combinator : Combinator) (members : List TypeNode) :
    (Shape.combined combinator members).meaning A
      = A.all (combinator.operation A) (members.map (·.meaning A)) := by
  rw [Shape.meaning, nodeMeanings_eq]

/-- A combination of a single member is written as that member. -/
theorem Shape.factors_single (combinator : Combinator) (m : TypeNode) :
    (Shape.combined combinator [m]).factors A = m.factors A := by
  cases combinator <;> rfl

/-- Of combinations with more members only an intersection has several factors. -/
theorem Shape.front_several (combinator : Combinator) (m m' : TypeNode) (rest : List TypeNode) :
    ((Shape.combined combinator (m :: m' :: rest)).factors A).front = none ↔
      combinator.isIntersection = false := by
  rw [Shape.factors]
  cases hc : combinator.isIntersection with
  | true => exact iff_of_false (Option.some_ne_none _) Bool.true_eq_false.mp
  | false => exact iff_of_true rfl rfl

end Values

end RouteTypes
