import RouteTypes.Proofs.Syntax.Reading
import RouteTypes.Proofs.Syntax.Spacing

/-!
# Precedence in the Text of a Type

When the text of a tree means what the tree means.

A union and an intersection are put in parentheses before brackets, and a union also
inside an intersection. A combination of a single member is written as that member alone,
so a union is looked for behind such combinations. An intersection is not. There is thus
one way to lose the meaning of a tree: an array whose item is a combination of a single
member and that member, perhaps behind others of its kind, an intersection. Its brackets
then take the last factor only. Trees without such an array are read back as what they
mean (`Faithful`), and no others are.

For the second half the algebra is one that counts. A value knows how many operators are
in it, and how many times one stands inside an array. A text that gives brackets too
little has the operators of its tree and covers fewer of them.

## Main definitions

* `TypeNode.isChain`: The text of a node is an intersection at its top level.
* `TypeNode.Faithful`: No array has an intersection for an item that is not in
  parentheses.
* `TypeNode.IsMeant`: A node is read as what it means.
* `weighing`: The algebra that counts operators.
* `TypeNode.Lags`: The reading of a node covers fewer operators, or as many.

## Theorems

* `TypeNode.isMeant`: A faithful tree is read as what it means.
* `TypeNode.lags`: A reading covers fewer operators unless the tree is faithful.
* `TypeNode.reads_iff`: What the text of a tree is read as.
* `TypeNode.render_faithful_iff`: The text means what the tree means when it is faithful.
-/

namespace RouteTypes

open Syntax

mutual

/-- Whether the text of the node is an intersection at its top level. -/
def TypeNode.isChain : TypeNode → Bool
  | ⟨true, _, _⟩ => false
  | ⟨false, _, shape⟩ => shape.isChain
termination_by structural n => n

/-- Whether the text of the shape is an intersection at its top level. -/
def Shape.isChain : Shape → Bool
  | .combined _ [member] => member.isChain
  | .combined combinator (_ :: _ :: _) => combinator.isIntersection
  | .combined _ [] | .literals _ | .primitive _ | .binary _ | .object _ | .array _
  | .reference _ | .status _ | .format _ => false
termination_by structural s => s

end

/-- An array has an intersection for its item only if it is one without another
    combination around it. -/
def Shape.KeepsItem : Shape → Prop
  | .array item => item.isChain = true → item.isIntersection = true
  | .primitive _ | .binary _ | .literals _ | .object _ | .combined _ _ | .reference _
  | .status _ | .format _ => True

/-- No array in the tree hides an intersection from its brackets. -/
def TypeNode.Faithful (n : TypeNode) : Prop :=
  ∀ m ∈ n.nodes, m.shape.KeepsItem

/-- A tree is faithful when its root keeps its item and its children are faithful. -/
theorem TypeNode.faithful_iff (n : TypeNode) :
    n.Faithful ↔ n.shape.KeepsItem ∧ ∀ m ∈ n.shape.children, m.Faithful :=
  n.forall_mem_nodes

section Chains

variable {α : Type} {A : TypeAlgebra α}

/-- The text of an intersection is no union. -/
theorem TypeNode.isUnion_of_isChain (n : TypeNode) (h : n.isChain = true) :
    n.isUnion = false := by
  induction n using TypeNode.inductionOn with
  | step n ih =>
      rcases n with ⟨nullable, description, shape⟩
      cases nullable with
      | true => exact absurd h Bool.false_ne_true
      | false =>
          change shape.isChain = true at h
          change shape.isUnion = false
          -- Only a combination can be written as an intersection.
          cases shape with
          | combined combinator members =>
              rcases members with _ | ⟨m, _ | ⟨m', rest⟩⟩
              · exact absurd h Bool.false_ne_true
              · rw [Shape.isChain] at h
                rw [Shape.isUnion]
                exact ih m (List.mem_singleton.mpr rfl) h
              · rw [Shape.isChain] at h
                rw [Shape.isUnion, h]
                rfl
          | literals | object | primitive | binary | array | reference | status | format =>
              exact absurd h Bool.false_ne_true

/-- The text of an intersection has something before its last factor. -/
theorem TypeNode.front_of_isChain (n : TypeNode) (h : n.isChain = true) :
    (n.factors A).front ≠ none := by
  induction n using TypeNode.inductionOn with
  | step n ih =>
      rcases n with ⟨nullable, description, shape⟩
      cases nullable with
      | true => exact absurd h Bool.false_ne_true
      | false =>
          change shape.isChain = true at h
          change (shape.factors A).front ≠ none
          -- As above, only a combination can be one: of several members, or of one that is.
          cases shape with
          | combined combinator members =>
              rcases members with _ | ⟨m, _ | ⟨m', rest⟩⟩
              · exact absurd h Bool.false_ne_true
              · rw [Shape.isChain] at h
                rw [Shape.factors_single]
                exact ih m (List.mem_singleton.mpr rfl) h
              · rw [Shape.isChain] at h
                intro hnone
                rw [Shape.front_several, h] at hnone
                exact absurd hnone.symm Bool.false_ne_true
          | literals | object | primitive | binary | array | reference | status | format =>
              exact absurd h Bool.false_ne_true

end Chains

section Faithful

variable {α : Type} (A : TypeAlgebra α)

/-- A node is read as what it means, and has one factor unless it is an intersection. -/
def TypeNode.IsMeant (n : TypeNode) : Prop :=
  (n.factors A).value A = n.meaning A ∧ (n.isChain = false → (n.factors A).front = none)

/-- The same for a shape without `null`. -/
def Shape.IsMeant (s : Shape) : Prop :=
  (s.factors A).value A = s.meaning A ∧ (s.isChain = false → (s.factors A).front = none)

/-- A property means what it is read as when its values do. -/
theorem Property.reading_eq_meaning {q : Property}
    (h : ∀ v ∈ q.values, (v.factors A).value A = v.meaning A) : q.reading A = q.meaning A := by
  rcases q with ⟨name, required, description, values⟩
  rw [Property.reading, Property.meaning, nodeFactors_eq, nodeMeanings_eq, List.map_map]
  exact congrArg _ (List.map_congr_left h)

/-- An object means what it is read as, since a block holds its values apart. -/
theorem Shape.isMeant_object {properties : List Property}
    (h : ∀ m ∈ (Shape.object properties).children, m.IsMeant A) :
    (Shape.object properties).IsMeant A := by
  refine ⟨congrArg A.block ?_, fun _ => rfl⟩
  rw [propertyReadings_eq, propertyMeanings_eq]
  refine List.map_congr_left fun q hq => Property.reading_eq_meaning A ?_
  intro v hv
  exact (h v (List.mem_flatMap.mpr ⟨q, hq, hv⟩)).1

/-- So does an array that keeps its item. -/
theorem Shape.isMeant_array {item : TypeNode} (hkeeps : (Shape.array item).KeepsItem)
    (h : item.IsMeant A) : (Shape.array item).IsMeant A := by
  unfold Shape.IsMeant
  rw [Shape.factors, Shape.meaning, ← h.1]
  by_cases hg : (item.isUnion || item.isIntersection) = true
  · rw [if_pos hg]
    exact ⟨rfl, fun _ => rfl⟩
  · rw [if_neg hg]
    rw [Bool.or_eq_true, not_or] at hg
    -- The item stands alone before the brackets, so it has one factor.
    have hchain : item.isChain = false := Bool.eq_false_iff.mpr fun hc => hg.2 (hkeeps hc)
    unfold Factors.value
    rw [h.2 hchain]
    exact ⟨rfl, fun _ => rfl⟩

/-- So does a combination: its members are put together by one operation in both. -/
theorem Shape.isMeant_combined {combinator : Combinator} {members : List TypeNode}
    (h : ∀ m ∈ members, m.IsMeant A) : (Shape.combined combinator members).IsMeant A := by
  constructor
  · rw [Shape.value_combined, Shape.meaning_combined]
    exact congrArg _ (List.map_congr_left fun m hm => (h m hm).1)
  · intro hchain
    rcases members with _ | ⟨m, _ | ⟨m', rest⟩⟩
    -- Without members or with several the kind of the combination decides, otherwise the member.
    · cases combinator <;> rfl
    · rw [Shape.isChain] at hchain
      rw [Shape.factors_single]
      exact (h m (List.mem_singleton.mpr rfl)).2 hchain
    · rw [Shape.isChain] at hchain
      exact (Shape.front_several A combinator m m' rest).mpr hchain

/-- A faithful tree is read as what it means. -/
theorem TypeNode.isMeant {n : TypeNode} (h : n.Faithful) : n.IsMeant A := by
  induction n using TypeNode.inductionOn with
  | step n ih =>
      rcases n.faithful_iff.mp h with ⟨hroot, hchildren⟩
      rcases n with ⟨nullable, description, shape⟩
      have hbelow : ∀ m ∈ shape.children, m.IsMeant A := by
        intro m hm
        exact ih m hm (hchildren m hm)
      have hshape : shape.IsMeant A := by
        cases shape with
        | primitive | binary | literals | reference | status | format =>
            exact ⟨rfl, fun _ => rfl⟩
        | object properties => exact Shape.isMeant_object A hbelow
        | array item => exact Shape.isMeant_array A hroot (hbelow item (List.mem_singleton.mpr rfl))
        -- The induction gives the children; only an array asks something of the root.
        | combined combinator members => exact Shape.isMeant_combined A hbelow
      unfold TypeNode.IsMeant
      rw [TypeNode.factors, TypeNode.meaning]
      cases nullable with
      | false => exact hshape
      | true =>
          rw [if_pos rfl, if_pos rfl, hshape.1]
          exact ⟨rfl, fun _ => rfl⟩

end Faithful

section Weights

/-- How many operators a value has, and how often one of them stands inside an array. -/
structure Weight where
  operators : Nat
  covered : Nat
  deriving DecidableEq, Repr

namespace Weight

/-- A value without operators. -/
def none : Weight :=
  ⟨0, 0⟩

/-- Two values with an operator between them. -/
def join (w w' : Weight) : Weight :=
  ⟨w.operators + w'.operators + 1, w.covered + w'.covered⟩

/-- An array covers the operators of its item once more. -/
def array (w : Weight) : Weight :=
  ⟨w.operators, w.covered + w.operators⟩

/-- Two values side by side. -/
def add (w w' : Weight) : Weight :=
  ⟨w.operators + w'.operators, w.covered + w'.covered⟩

/-- Several values side by side. -/
def sum : List Weight → Weight
  | [] => none
  | w :: ws => w.add (sum ws)

section Counts

variable (w w' : Weight)

@[simp] theorem operators_join : (w.join w').operators = w.operators + w'.operators + 1 := rfl

@[simp] theorem covered_join : (w.join w').covered = w.covered + w'.covered := rfl

@[simp] theorem operators_array : w.array.operators = w.operators := rfl

@[simp] theorem covered_array : w.array.covered = w.covered + w.operators := rfl

@[simp] theorem operators_add : (w.add w').operators = w.operators + w'.operators := rfl

@[simp] theorem covered_add : (w.add w').covered = w.covered + w'.covered := rfl

end Counts

end Weight

/-- The algebra that counts operators. It does not tell them apart. -/
def weighing : TypeAlgebra Weight where
  word _ := Weight.none
  quoted _ := Weight.none
  array := Weight.array
  narrowed w _ := w
  block ms := Weight.sum (ms.map (·.value))
  union := Weight.join
  inter := Weight.join
  union_assoc a b c := by
    simp only [Weight.join, Weight.mk.injEq]
    omega
  inter_assoc a b c := by
    simp only [Weight.join, Weight.mk.injEq]
    omega

/-- One weight has the operators of another and covers no more of them, and as many only
    under a condition. -/
structure Weight.Lags (w w' : Weight) (p : Prop) : Prop where
  operators : w.operators = w'.operators
  covered : w.covered ≤ w'.covered
  exact : w.covered = w'.covered → p

namespace Weight.Lags

variable {w w' v v' : Weight} {p q : Prop}

theorem refl (hp : p) : Lags w w p :=
  ⟨rfl, Nat.le_refl _, fun _ => hp⟩

theorem imp (h : Lags w w' p) (hpq : p → q) : Lags w w' q :=
  ⟨h.operators, h.covered, fun he => hpq (h.exact he)⟩

/-- Joined values lag, and cover as much only if each of the two does. -/
theorem join (h : Lags w w' p) (h' : Lags v v' q) : Lags (w.join v) (w'.join v') (p ∧ q) := by
  rcases h with ⟨ho, hc, he⟩
  rcases h' with ⟨ho', hc', he'⟩
  refine ⟨by simp only [operators_join]; omega, by simp only [covered_join]; omega, fun heq => ?_⟩
  simp only [covered_join] at heq
  exact ⟨he (by omega), he' (by omega)⟩

/-- So do values side by side. -/
theorem add (h : Lags w w' p) (h' : Lags v v' q) : Lags (w.add v) (w'.add v') (p ∧ q) := by
  rcases h with ⟨ho, hc, he⟩
  rcases h' with ⟨ho', hc', he'⟩
  refine ⟨by simp only [operators_add]; omega, by simp only [covered_add]; omega, fun heq => ?_⟩
  simp only [covered_add] at heq
  exact ⟨he (by omega), he' (by omega)⟩

/-- An array of what lags covers its operators, which are as many, once more. -/
theorem array (h : Lags w w' p) : Lags w.array w'.array p := by
  rcases h with ⟨ho, hc, he⟩
  refine ⟨ho, by simp only [covered_array]; omega, fun heq => he ?_⟩
  simp only [covered_array] at heq
  omega

/-- Brackets behind the second of two values leave out the operator between them. -/
theorem array_last (h : Lags (w.join v) w' p) : Lags (w.join v.array) w'.array q := by
  rcases h with ⟨ho, hc, _⟩
  simp only [operators_join, covered_join] at ho hc
  -- The brackets of the whole cover one operator more, the one in the middle.
  have hless : (w.join v.array).covered < w'.array.covered := by
    simp only [covered_join, covered_array]
    omega
  refine ⟨?_, Nat.le_of_lt hless, fun heq => absurd heq (Nat.ne_of_lt hless)⟩
  simp only [operators_join, operators_array]
  exact ho

/-- Joined lists lag when their elements do. -/
theorem all {β : Type} {f g : β → Weight} {P : β → Prop} {bs : List β}
    (h : ∀ b ∈ bs, Lags (f b) (g b) (P b)) :
    Lags (weighing.all Weight.join (bs.map f)) (weighing.all Weight.join (bs.map g))
      (∀ b ∈ bs, P b) := by
  induction bs with
  | nil => exact refl fun b hb => absurd hb List.not_mem_nil
  | cons b bs ih =>
      have hb := h b List.mem_cons_self
      have hbs := ih fun c hc => h c (List.mem_cons_of_mem b hc)
      cases bs with
      | nil => exact hb.imp fun hp c hc => List.mem_singleton.mp hc ▸ hp
      | cons c bs => exact (hb.join hbs).imp fun hp => List.forall_mem_cons.mpr hp

/-- Values side by side lag when each of them does. -/
theorem sum {β : Type} {f g : β → Weight} {P : β → Prop} {bs : List β}
    (h : ∀ b ∈ bs, Lags (f b) (g b) (P b)) :
    Lags (Weight.sum (bs.map f)) (Weight.sum (bs.map g)) (∀ b ∈ bs, P b) := by
  induction bs with
  | nil => exact refl fun b hb => absurd hb List.not_mem_nil
  | cons b bs ih =>
      have hb := h b List.mem_cons_self
      have hbs := ih fun c hc => h c (List.mem_cons_of_mem b hc)
      exact (hb.add hbs).imp fun hp => List.forall_mem_cons.mpr hp

end Weight.Lags

end Weights

section Trees

/-- The reading of a node lags behind its meaning unless the node is faithful. -/
def TypeNode.Lags (n : TypeNode) : Prop :=
  Weight.Lags ((n.factors weighing).value weighing) (n.meaning weighing) n.Faithful

/-- The same for a shape without `null`. -/
def Shape.Lags (s : Shape) : Prop :=
  Weight.Lags ((s.factors weighing).value weighing) (s.meaning weighing)
    (s.KeepsItem ∧ ∀ m ∈ s.children, m.Faithful)

/-- A property lags when its values do. An optional one has an operator more on both sides. -/
theorem Property.lags {q : Property} (h : ∀ v ∈ q.values, v.Lags) :
    Weight.Lags (q.reading weighing).value (q.meaning weighing).value
      (∀ v ∈ q.values, v.Faithful) := by
  rcases q with ⟨name, required, description, values⟩
  have hvalues := Weight.Lags.all h
  rw [Property.reading, Property.meaning, nodeFactors_eq, nodeMeanings_eq, List.map_map]
  unfold Property.entry
  dsimp only
  split
  · exact (hvalues.join (Weight.Lags.refl trivial)).imp And.left
  · exact hvalues

/-- An object lags when the values of its properties do. -/
theorem Shape.lags_object {properties : List Property}
    (h : ∀ m ∈ (Shape.object properties).children, m.Lags) : (Shape.object properties).Lags := by
  have hproperties : ∀ q ∈ properties, Weight.Lags (q.reading weighing).value
      (q.meaning weighing).value (∀ v ∈ q.values, v.Faithful) := by
    intro q hq
    exact Property.lags fun v hv => h v (List.mem_flatMap.mpr ⟨q, hq, hv⟩)
  unfold Shape.Lags
  rw [Shape.factors, Shape.meaning, propertyReadings_eq, propertyMeanings_eq]
  unfold Factors.value weighing
  dsimp only [joined]
  rw [List.map_map, List.map_map]
  refine (Weight.Lags.sum hproperties).imp fun hf => ⟨trivial, fun m hm => ?_⟩
  rcases List.mem_flatMap.mp hm with ⟨q, hq, hv⟩
  exact hf q hq m hv

/-- The item of an array before brackets. It keeps its meaning when parentheses hold it
    together or when it has one factor, and lags behind it otherwise. -/
theorem Shape.lags_array {item : TypeNode} (h : item.Lags) : (Shape.array item).Lags := by
  have hchildren {p : Prop} (hf : p ∧ item.Faithful) :
      p ∧ ∀ m ∈ (Shape.array item).children, m.Faithful :=
    ⟨hf.1, fun m hm => List.mem_singleton.mp hm ▸ hf.2⟩
  unfold Shape.Lags
  rw [Shape.factors, Shape.meaning]
  by_cases hg : (item.isUnion || item.isIntersection) = true
  · rw [if_pos hg]
    -- In parentheses a chain can only be an intersection, and those are what an array keeps.
    refine (Weight.Lags.array h).imp fun hf => hchildren ⟨fun hchain => ?_, hf⟩
    rw [item.isUnion_of_isChain hchain, Bool.false_or] at hg
    exact hg
  · rw [if_neg hg]
    unfold TypeNode.Lags at h
    have hfront := item.front_of_isChain (A := weighing)
    rcases hF : item.factors weighing with ⟨front, last⟩
    rw [hF] at h hfront
    cases front with
    | none =>
        -- An item with one factor is no chain, so nothing is asked of it.
        refine (Weight.Lags.array h).imp fun hf => hchildren ⟨fun hchain => ?_, hf⟩
        exact absurd rfl (hfront hchain)
    | some a =>
        -- The operator before the last factor is not covered, so the condition may be any.
        exact Weight.Lags.array_last h

/-- A combination lags when its members do. -/
theorem Shape.lags_combined {combinator : Combinator} {members : List TypeNode}
    (h : ∀ m ∈ members, m.Lags) : (Shape.combined combinator members).Lags := by
  -- The two operations of the algebra are one.
  have hop : combinator.operation weighing = Weight.join := by cases combinator <;> rfl
  unfold Shape.Lags
  rw [Shape.value_combined, Shape.meaning_combined, hop]
  exact (Weight.Lags.all h).imp fun hf => ⟨trivial, hf⟩

/-- A reading covers as many operators as the meaning only when the tree is faithful. -/
theorem TypeNode.lags (n : TypeNode) : n.Lags := by
  induction n using TypeNode.inductionOn with
  | step n ih =>
      rcases n with ⟨nullable, description, shape⟩
      have hshape : shape.Lags := by
        cases shape with
        | primitive | binary | literals | reference | status | format =>
            exact Weight.Lags.refl ⟨trivial, fun m hm => absurd hm List.not_mem_nil⟩
        | object properties => exact Shape.lags_object ih
        | array item => exact Shape.lags_array (ih item (List.mem_singleton.mpr rfl))
        | combined combinator members => exact Shape.lags_combined ih
      unfold TypeNode.Lags
      rw [TypeNode.faithful_iff, TypeNode.factors, TypeNode.meaning]
      cases nullable with
      | false => exact hshape
      -- A union with `null` adds the same operator to both.
      | true => exact (hshape.join (Weight.Lags.refl trivial)).imp And.left

/-- The tokens of a well-formed tree have one reading. -/
theorem TypeNode.reads_iff {n : TypeNode} (h : n.WellFormed) (depth : Nat) {α : Type}
    (A : TypeAlgebra α) (a : α) :
    Reads A .union (tokens (n.lexemes depth)) a ↔ a = (n.factors A).value A := by
  have hread := (TypeNode.reads (A := A) h depth).1
  constructor
  · exact fun ha => ha.unique hread
  · rintro rfl
    exact hread

/-- The text of a well-formed tree is spelled by its lexemes, which the lexer finds in it
    when the references of the tree are words. Their tokens mean what the tree means, in every
    algebra and in no other way, exactly when no array hides an intersection from its
    brackets. -/
theorem TypeNode.render_faithful_iff {n : TypeNode} (h : n.WellFormed) (depth : Nat) :
    spelled (n.lexemes depth) = (n.render depth).toList ∧
      (n.Plain → lex (n.render depth).toList = tokens (n.lexemes depth)) ∧
      (n.Faithful ↔ ∀ (α : Type) (A : TypeAlgebra α) (a : α),
        Reads A .union (tokens (n.lexemes depth)) a ↔ a = n.meaning A) := by
  refine ⟨n.spelled_lexemes depth, fun hp => TypeNode.lex_render h hp depth, ?_⟩
  constructor
  · intro hf α A a
    rw [TypeNode.reads_iff h depth A a, (TypeNode.isMeant A hf).1]
  · intro hall
    -- One algebra is enough: the one that counts operators.
    have hread := (TypeNode.reads_iff h depth weighing _).mpr rfl
    have hvalue := (hall Weight weighing _).mp hread
    exact n.lags.exact (congrArg Weight.covered hvalue)

end Trees

section Examples

/-- Two schemas to refer to. -/
def pairSetting : Setting where
  components :=
    { schemas :=
        { entries := [("A", .inline { type := some (.single "string") }),
            ("B", .inline { type := some (.single "string") })] } }
  options := {}

/-- A schema for values of both. -/
def pairSchema : Schema where
  allOf := some [.reference "#/components/schemas/A", .reference "#/components/schemas/B"]

/-- A schema for arrays. -/
def arrayOf (items : Schema) : Schema where
  type := some (.single "array")
  items := some (.inline items)

/-- The type of values of both. -/
def pairNode : TypeNode where
  shape := .combined .allOf [TypeRef.node { space := "Types", name := "A" },
    TypeRef.node { space := "Types", name := "B" }]

/-- Arrays of such values. -/
def keptItem : TypeNode where
  shape := .array pairNode

/-- An array of an intersection in parentheses is read as what it means. -/
theorem kept_item_read :
    (typeSlot pairSetting .request (.inline (arrayOf pairSchema))).Yields (some keptItem) ∧
      keptItem.render 0 = "(Types.A & Types.B)[]" ∧
      ∀ (α : Type) (A : TypeAlgebra α) (a : α),
        Reads A .union (lex (keptItem.render 0).toList) a ↔ a = keptItem.meaning A := by
  have hbuilt : (typeSlot pairSetting .request (.inline (arrayOf pairSchema))).Yields
      (some keptItem) := rfl
  have hwell : keptItem.WellFormed := fun m hm => (typeSlot_built hbuilt m hm).1
  have hspace : IsWord pairSetting.options.space := by decide
  have hplain : keptItem.Plain := by
    refine TypeNode.plain_of_built (typeSlot_built hbuilt) hspace fun e he c hc => ?_
    have hkeys : ∀ e ∈ pairSetting.components.entryKeys,
        e.2.toList.head?.all isWordChar = true := by decide
    have hall := hkeys e he
    rw [hc] at hall
    exact hall
  have hfaithful : keptItem.Faithful := by
    refine keptItem.faithful_iff.mpr ⟨fun _ => rfl, fun m hm => ?_⟩
    rw [List.mem_singleton.mp hm]
    -- Below the intersection there are two references and nothing else.
    refine pairNode.faithful_iff.mpr ⟨trivial, fun k hk => ?_⟩
    rcases List.mem_pair.mp hk with rfl | rfl
    · exact (TypeNode.faithful_iff _).mpr ⟨trivial, fun c hc => absurd hc List.not_mem_nil⟩
    · exact (TypeNode.faithful_iff _).mpr ⟨trivial, fun c hc => absurd hc List.not_mem_nil⟩
  rcases TypeNode.render_faithful_iff hwell 0 with ⟨_, hlex, hread⟩
  rw [hlex hplain]
  exact ⟨hbuilt, by decide, hread.mp hfaithful⟩

/-- Arrays of values that are described as the only case of a choice. -/
def hiddenItem : TypeNode where
  shape := .array { shape := .combined .oneOf [pairNode] }

/-- The brackets of such an array take one of two references. -/
theorem hidden_item_misread :
    (typeSlot pairSetting .request (.inline (arrayOf
        { oneOf := some [.inline pairSchema] }))).Yields (some hiddenItem) ∧
      hiddenItem.render 0 = "Types.A & Types.B[]" ∧
      Reads weighing .union (lex (hiddenItem.render 0).toList) ⟨1, 0⟩ ∧
      hiddenItem.meaning weighing = ⟨1, 1⟩ := by
  have hbuilt : (typeSlot pairSetting .request (.inline (arrayOf
      { oneOf := some [.inline pairSchema] }))).Yields (some hiddenItem) := rfl
  have hwell : hiddenItem.WellFormed := fun m hm => (typeSlot_built hbuilt m hm).1
  have htext : hiddenItem.render 0 = "Types.A & Types.B[]" := by decide
  refine ⟨hbuilt, htext, ?_, rfl⟩
  -- The text is short enough to compare the tokens directly.
  have hlex : lex (hiddenItem.render 0).toList = tokens (hiddenItem.lexemes 0) := by
    rw [htext]
    decide
  rw [hlex]
  exact (TypeNode.reads_iff hwell 0 weighing _).mpr rfl

end Examples

end RouteTypes
