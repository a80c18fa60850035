import RouteTypes.Proofs.Syntax.Meaning

/-!
# Reading a Type Tree

Why the text of a tree is read as it is.

The tokens of a node are followed upwards from its children. Any of them are read as a
union. Those of a node that is no union at its top level are read as factors, which is
more: they can stand inside an intersection, and brackets behind them take the last
factor. Parentheses make one factor of anything.

## Main definitions

* `ReadsFactors`: Tokens are read as factors.
* `alternated`: Tokens with an operator between neighbours.
* `ReadsEntry`: Tokens are read as an entry of a block.
* `TypeNode.IsRead`, `Shape.IsRead`: What tokens are read as, wherever they stand.

## Theorems

* `reads_alternated`, `readsFactors_alternated`: Operands joined by an operator.
* `TypeNode.reads`: The tokens of a tree are read as its factors.
-/

namespace RouteTypes

open Syntax

namespace Syntax

/-- Tokens with an operator between neighbours. -/
def alternated (operator : Token) : List (List Token) → List Token
  | [] => []
  | [ts] => ts
  | ts :: rest => ts ++ operator :: alternated operator rest

/-- Between the tokens of separated texts stands the operator. -/
theorem tokens_separated (c : Char) (lss : List (List Lexeme)) :
    tokens (separated (operator c) lss) = alternated (.mark c) (lss.map tokens) := by
  induction lss with
  | nil => rfl
  | cons ls lss ih =>
      cases lss with
      | nil => rfl
      | cons ls' lss =>
          rw [separated, tokens_append, tokens_append, ih, List.append_assoc]
          · rfl
          · exact List.cons_ne_nil _ _

/-- The tokens of a group stand in parentheses. -/
theorem tokens_grouped (needed : Bool) (ls : List Lexeme) :
    tokens (grouped needed ls)
      = if needed then .mark '(' :: tokens ls ++ [.mark ')'] else tokens ls := by
  unfold grouped
  cases needed with
  | false => rfl
  | true =>
      rw [if_pos rfl, if_pos rfl, List.cons_append, tokens_token, tokens_append]
      rfl

section Operators

variable {α : Type} {A : TypeAlgebra α}

/-- Tokens are read as factors: a last one, and an intersection before it if there is
    more. -/
def ReadsFactors (A : TypeAlgebra α) (ts : List Token) (F : Factors α) : Prop :=
  match F.front with
  | none => Reads A .postfixed ts F.last
  | some a => ∃ us vs, ts = us ++ .mark '&' :: vs ∧ Reads A .inter us a ∧
      Reads A .postfixed vs F.last

/-- Factors are read as their intersection. -/
theorem ReadsFactors.inter {ts : List Token} {F : Factors α} (h : ReadsFactors A ts F) :
    Reads A .inter ts (F.value A) := by
  rcases F with ⟨front, last⟩
  cases front with
  | none => exact Reads.postfixed h
  | some a =>
      rcases h with ⟨us, vs, rfl, hu, hv⟩
      exact Reads.and hu hv

/-- A word or a quoted text is one factor. -/
theorem ReadsFactors.primary {ts : List Token} {a : α} (h : Reads A .primary ts a) :
    ReadsFactors A ts { last := a } :=
  Reads.primary h

/-- Factors stand behind others. -/
theorem ReadsFactors.and {ts ts' : List Token} {F G : Factors α} (h : ReadsFactors A ts F)
    (h' : ReadsFactors A ts' G) : ReadsFactors A (ts ++ .mark '&' :: ts') (F.and A G) := by
  rcases G with ⟨front, last⟩
  cases front with
  | none => exact ⟨ts, ts', rfl, h.inter, h'⟩
  -- The last factor of the second comes last, and everything before it becomes one intersection.
  | some a =>
      rcases h' with ⟨us, vs, rfl, hu, hv⟩
      refine ⟨ts ++ .mark '&' :: us, vs, ?_, h.inter.and_inter hu, hv⟩
      rw [List.append_assoc, List.cons_append]

/-- Brackets take the last factor. -/
theorem ReadsFactors.array {ts : List Token} {F : Factors α} (h : ReadsFactors A ts F) :
    ReadsFactors A (ts ++ [.mark '[', .mark ']'])
      { front := F.front, last := A.array F.last } := by
  rcases F with ⟨front, last⟩
  cases front with
  | none => exact Reads.array h
  | some a =>
      rcases h with ⟨us, vs, rfl, hu, hv⟩
      refine ⟨us, vs ++ [.mark '[', .mark ']'], ?_, hu, Reads.array hv⟩
      rw [List.append_assoc, List.cons_append]

/-- Operands of a union are read as their union. -/
theorem reads_alternated {tss : List (List Token)} {as : List α}
    (h : List.Forall₂ (Reads A .union) tss as) (hne : tss ≠ []) :
    Reads A .union (alternated (.mark '|') tss) (A.all A.union as) := by
  induction h with
  | nil => exact absurd rfl hne
  | cons ha ht ih =>
      cases ht with
      | nil => exact ha
      | cons _ _ => exact ha.or_union (ih (List.cons_ne_nil _ _))

/-- Factors joined by their operator are read one behind the other. -/
theorem readsFactors_alternated {tss : List (List Token)} {Fs : List (Factors α)}
    (h : List.Forall₂ (ReadsFactors A) tss Fs) (hne : tss ≠ []) :
    ReadsFactors A (alternated (.mark '&') tss) (Factors.all A Fs) := by
  induction h with
  | nil => exact absurd rfl hne
  | cons ha ht ih =>
      cases ht with
      | nil => exact ha
      | cons _ _ => exact ha.and (ih (List.cons_ne_nil _ _))

end Operators

section Blocks

variable {α : Type} {A : TypeAlgebra α}

/-- Tokens are read as an entry, whatever entries follow on the next lines. -/
def ReadsEntry (A : TypeAlgebra α) (ts : List Token) (m : Member α) : Prop :=
  ∀ rest ms, Reads A .members rest ms → Reads A .members (ts ++ .newline :: rest) (m :: ms)

/-- The tokens behind a key: the mark if there is one, a colon and the value. -/
theorem tokens_entryTail (optional : Bool) (value : List Lexeme) :
    tokens (entryTail optional value)
      = optionalMark optional ++ .mark ':' ::
        (tokens value ++ if optional then [.mark '|', .word "undefined"] else []) := by
  unfold entryTail
  cases optional with
  | false =>
      rw [if_neg Bool.false_ne_true, if_neg Bool.false_ne_true, List.append_nil]
      rfl
  | true =>
      rw [if_pos rfl, if_pos rfl, tokens_append, tokens_append, List.append_assoc]
      rfl

/-- A key with what stands behind it is read as an entry. -/
theorem readsEntry_tail {ks : List Token} {name : PropertyName} {value : List Lexeme} {a : α}
    (hk : ReadsKey ks name) (h : Reads A .union (tokens value) a) (optional : Bool) :
    ReadsEntry A (ks ++ tokens (entryTail optional value))
      { name, optional, value := if optional then A.union a (A.word "undefined") else a } := by
  intro rest ms hrest
  rw [tokens_entryTail, ← List.append_assoc]
  refine Reads.entry optional hk ?_ hrest
  cases optional with
  | false =>
      rw [if_neg Bool.false_ne_true, if_neg Bool.false_ne_true, List.append_nil]
      exact h
  | true => exact Reads.or h (Reads.postfixed (Reads.primary (Reads.word "undefined")))

/-- An entry may start on a later line. -/
theorem ReadsEntry.skip {ts : List Token} {m : Member α} (h : ReadsEntry A ts m) :
    ReadsEntry A (.newline :: ts) m :=
  fun rest ms hrest => Reads.skip (h rest ms hrest)

/-- Entries below one another are read as entries, with those that follow. -/
theorem reads_joinedEntries {entries : List (List Lexeme × Bool)} {ms : List (Member α)}
    (h : List.Forall₂ (fun e m => ReadsEntry A (tokens e.1) m) entries ms) (hne : entries ≠ [])
    {rest : List Token} {ms' : List (Member α)} (hrest : Reads A .members rest ms') :
    Reads A .members (tokens (joinedEntries entries) ++ .newline :: rest) (ms ++ ms') := by
  induction h with
  | nil => exact absurd rfl hne
  | @cons e m entries ms he ht ih =>
      cases ht with
      | nil => exact he _ _ hrest
      | @cons e' m' entries ms he' ht =>
          have htail := ih (List.cons_ne_nil _ _)
          rw [joinedEntries, tokens_append, tokens_append, List.append_assoc, List.append_assoc]
          -- Next to a tall entry there is an empty line, which is skipped.
          split
          · exact he _ _ (Reads.skip htail)
          · exact he _ _ htail

/-- Braces around entries are read as a block. -/
theorem reads_braced (depth : Nat) {entries : List (List Lexeme × Bool)} {ms : List (Member α)}
    (h : List.Forall₂ (fun e m => ReadsEntry A (tokens e.1) m) entries ms) :
    Reads A .primary (tokens (bracedEntries depth entries)) (A.block ms) := by
  cases hentries : entries with
  | nil =>
      rw [hentries] at h
      cases h
      exact Reads.block Reads.empty
  | cons e rest =>
      have hjoined := reads_joinedEntries h (hentries ▸ List.cons_ne_nil e rest) Reads.empty
      rw [List.append_nil, hentries] at hjoined
      have hblock := Reads.block (Reads.skip hjoined)
      unfold bracedEntries
      rw [List.isEmpty_cons, if_neg Bool.false_ne_true, tokens_append, tokens_append]
      simp only [List.cons_append, List.append_assoc, List.nil_append] at hblock ⊢
      exact hblock

end Blocks

end Syntax

section Trees

variable {α : Type} {A : TypeAlgebra α}

theorem reads_literal (m : Literal) : Reads A .primary (tokens [m.lexeme]) (m.meaning A) := by
  cases m with
  | quoted text => exact Reads.quoted text
  | raw token => exact Reads.word token

/-- A reference is one factor, with the property in brackets if it is narrowed. -/
theorem readsFactors_reference (r : TypeRef) :
    ReadsFactors A (tokens r.lexemes) { last := r.meaning A } := by
  unfold TypeRef.lexemes TypeRef.meaning
  cases r.property with
  | none => exact ReadsFactors.primary (Reads.word r.path)
  | some property => exact Reads.narrowed property (Reads.primary (Reads.word r.path))

/-- The name of a property is read as its key. -/
theorem readsKey_name (name : PropertyName) : ReadsKey (tokens name.lexemes) name := by
  cases name with
  | index => exact ReadsKey.index
  | field name =>
      unfold PropertyName.lexemes
      dsimp only
      split
      · exact ReadsKey.quoted name
      · exact ReadsKey.word name

/-- A comment leaves no token, or the end of its line. -/
theorem tokens_comment_eq (depth : Nat) (description : Option String) :
    tokens (commentLexemes depth description) = [] ∨
      tokens (commentLexemes depth description) = [.newline] := by
  unfold commentLexemes
  split
  · exact Or.inl rfl
  · dsimp only
    split
    · exact Or.inl rfl
    · exact Or.inr rfl

/-- The text of a union has no factors, so all of it is the last one. -/
theorem TypeNode.front_of_isUnion (n : TypeNode) (h : n.isUnion = true) :
    (n.factors A).front = none := by
  induction n using TypeNode.inductionOn with
  | step n ih =>
      rcases n with ⟨nullable, description, shape⟩
      rw [TypeNode.factors]
      cases nullable with
      | true => rfl
      | false =>
          change shape.isUnion = true at h
          change (shape.factors A).front = none
          cases shape with
          | literals members => rfl
          | combined combinator members =>
              rcases members with _ | ⟨m, _ | ⟨m', rest⟩⟩
              · exact absurd h Bool.false_ne_true
              · rw [Shape.isUnion] at h
                rw [Shape.factors_single]
                exact ih m (List.mem_singleton.mpr rfl) h
              · rw [Shape.isUnion, Bool.not_eq_true'] at h
                exact (Shape.front_several A combinator m m' rest).mpr h
          | object | primitive | binary | array | reference | status | format =>
              exact absurd h Bool.false_ne_true

/-- Parentheses around a union, where it has to be a factor, make it one. -/
theorem readsFactors_grouped {n : TypeNode} {ls : List Lexeme}
    (hunion : Reads A .union (tokens ls) ((n.factors A).value A))
    (hfactors : n.isUnion = false → ReadsFactors A (tokens ls) (n.factors A)) :
    ReadsFactors A (tokens (grouped n.isUnion ls)) (n.factors A) := by
  rw [tokens_grouped]
  cases h : n.isUnion with
  | false => exact hfactors h
  | true =>
      -- What the parentheses hold is one factor, as a union is for `factors`.
      have hgroup := ReadsFactors.primary (Reads.group hunion)
      have hfront := n.front_of_isUnion (A := A) h
      rcases hF : n.factors A with ⟨front, last⟩
      rw [hF] at hfront hgroup
      obtain rfl : front = none := hfront
      exact hgroup

/-- What the tokens of a node are read as, wherever it stands. -/
def TypeNode.IsRead (A : TypeAlgebra α) (n : TypeNode) : Prop :=
  ∀ depth, Reads A .union (tokens (n.lexemes depth)) ((n.factors A).value A) ∧
    (n.isUnion = false → ReadsFactors A (tokens (n.lexemes depth)) (n.factors A))

/-- A wrapper is no union. -/
theorem isUnion_of_isWrapper {n : TypeNode} (h : n.isWrapper = true) : n.isUnion = false := by
  rcases n with ⟨nullable, description, shape⟩
  cases nullable with
  | true => exact absurd h Bool.false_ne_true
  | false =>
      cases shape with
      | reference | object => rfl
      | primitive | binary | literals | combined | array | status | format =>
          exact absurd h Bool.false_ne_true

/-- The members of an intersection, unions in parentheses, are read as factors. -/
theorem readsFactors_members {ns : List TypeNode} (hne : ns ≠ []) (h : ∀ n ∈ ns, n.IsRead A)
    (depth : Nat) :
    ReadsFactors A (tokens (separated (operator '&') (memberLexemes depth true ns)))
      (Factors.all A (nodeFactors A ns)) := by
  rw [tokens_separated, memberLexemes_eq, nodeFactors_eq, List.map_map]
  have hmembers := forall₂_map_of_mem fun n hn =>
    readsFactors_grouped (h n hn depth).1 (h n hn depth).2
  exact readsFactors_alternated hmembers fun hnil => hne (List.map_eq_nil_iff.mp hnil)

/-- The members of a union are read as its operands. -/
theorem reads_members {ns : List TypeNode} (hne : ns ≠ []) (h : ∀ n ∈ ns, n.IsRead A)
    (depth : Nat) :
    Reads A .union (tokens (separated (operator '|') (memberLexemes depth false ns)))
      ((Factors.alternatives A (nodeFactors A ns)).value A) := by
  rw [tokens_separated, memberLexemes_eq, Factors.value_alternatives, nodeFactors_eq,
    List.map_map, List.map_map]
  -- Between the members of a union no parentheses are needed.
  have hmembers := forall₂_map_of_mem fun n hn => (h n hn depth).1
  exact reads_alternated hmembers fun hnil => hne (List.map_eq_nil_iff.mp hnil)

/-- The values of a property are read as their intersection: a single one as it is, and
    several because each is a wrapper and so no union. -/
theorem reads_values {q : Property} (hq : q.WellShaped) (h : ∀ v ∈ q.values, v.IsRead A)
    (depth : Nat) :
    Reads A .union (tokens (separated (operator '&') (memberLexemes depth false q.values)))
      (A.all A.inter ((nodeFactors A q.values).map (·.value A))) := by
  rcases hq with hone | ⟨hne, hwrapper⟩
  · rcases List.length_eq_one_iff.mp hone with ⟨v, hv⟩
    rw [hv]
    exact (h v (hv ▸ List.mem_singleton.mpr rfl) depth).1
  · rw [← Factors.value_all, tokens_separated, memberLexemes_eq, nodeFactors_eq, List.map_map]
    have hfactors := forall₂_map_of_mem fun v hv =>
      (h v hv depth).2 (isUnion_of_isWrapper (hwrapper v hv))
    refine Reads.inter (ReadsFactors.inter (readsFactors_alternated hfactors ?_))
    exact fun hnil => hne (List.map_eq_nil_iff.mp hnil)

/-- A property is read as its entry. -/
theorem reads_property {q : Property} (hq : q.WellShaped) (h : ∀ v ∈ q.values, v.IsRead A)
    (depth : Nat) : ReadsEntry A (tokens (q.lexemes depth)) (q.reading A) := by
  have hvalues := reads_values hq h depth
  rcases q with ⟨name, required, description, values⟩
  have hentry : ReadsEntry A (tokens name.lexemes ++ tokens (entryTail (!required &&
      name != .index) (separated (operator '&') (memberLexemes depth false values))))
      (Property.reading A ⟨name, required, description, values⟩) :=
    readsEntry_tail (readsKey_name name) hvalues _
  rw [Property.lexemes, List.append_assoc, List.append_assoc, tokens_append, tokens_append,
    tokens_append]
  -- A comment leaves nothing but the end of its line.
  rcases tokens_comment_eq depth description with hc | hc
  · rw [hc]
    exact hentry
  · rw [hc]
    exact hentry.skip

/-- The same for what a shape is written as, without `null`. -/
def Shape.IsRead (A : TypeAlgebra α) (depth : Nat) (s : Shape) : Prop :=
  Reads A .union (tokens (s.lexemes depth)) ((s.factors A).value A) ∧
    (s.isUnion = false → ReadsFactors A (tokens (s.lexemes depth)) (s.factors A))

namespace Shape

variable {depth : Nat}

/-- Most shapes are factors whatever they hold, and so they are unions. -/
theorem isRead_of_factors {s : Shape}
    (h : ReadsFactors A (tokens (s.lexemes depth)) (s.factors A)) : s.IsRead A depth :=
  ⟨Reads.inter h.inter, fun _ => h⟩

/-- Binary content is read as its value. An upload is a union and stands in parentheses. -/
theorem isRead_binary (kind : BinaryKind) : (Shape.binary kind).IsRead A depth := by
  refine isRead_of_factors (ReadsFactors.primary ?_)
  cases kind with
  | download => exact Reads.word "Blob"
  | upload =>
      have hfile : Reads A .postfixed [.word "File"] (A.word "File") :=
        Reads.primary (Reads.word "File")
      have hstream : Reads A .postfixed [.word "ReadStream"] (A.word "ReadStream") :=
        Reads.primary (Reads.word "ReadStream")
      exact Reads.group (Reads.or (Reads.inter (Reads.postfixed hfile)) (Reads.postfixed hstream))

/-- An object is read as a block when its values are read. -/
theorem isRead_object {properties : List Property} (hq : ∀ q ∈ properties, q.WellShaped)
    (h : ∀ m ∈ (Shape.object properties).children, m.IsRead A) :
    (Shape.object properties).IsRead A depth := by
  refine isRead_of_factors (ReadsFactors.primary ?_)
  rw [Shape.lexemes, propertyLexemes_eq, propertyReadings_eq]
  refine reads_braced depth (forall₂_map_of_mem ?_)
  intro q hmem
  have hvalues : ∀ v ∈ q.values, v.IsRead A := by
    intro v hv
    exact h v (List.mem_flatMap.mpr ⟨q, hmem, hv⟩)
  exact reads_property (hq q hmem) hvalues (depth + 1)

/-- An item stands before its brackets in parentheses, or as factors. -/
theorem isRead_array {item : TypeNode} (h : item.IsRead A) :
    (Shape.array item).IsRead A depth := by
  refine isRead_of_factors ?_
  rw [Shape.lexemes, Shape.factors, tokens_append, tokens_grouped]
  by_cases hg : (item.isUnion || item.isIntersection) = true
  · rw [if_pos hg, if_pos hg]
    exact Reads.array (Reads.primary (Reads.group (h depth).1))
  · rw [if_neg hg, if_neg hg]
    rw [Bool.or_eq_true, not_or] at hg
    exact ((h depth).2 (Bool.eq_false_iff.mpr hg.1)).array

/-- The literals of an enumeration are read as their union. -/
theorem isRead_literals {members : List Literal} (hne : members ≠ []) :
    (Shape.literals members).IsRead A depth := by
  unfold Shape.IsRead
  rw [Shape.lexemes, Shape.factors, tokens_separated, List.map_map]
  constructor
  · have hmembers := forall₂_map_of_mem fun m (_ : m ∈ members) =>
      Reads.inter (Reads.postfixed (Reads.primary (reads_literal (A := A) m)))
    exact reads_alternated hmembers fun hnil => hne (List.map_eq_nil_iff.mp hnil)
  · intro hone
    rw [Shape.isUnion, decide_eq_false_iff_not, Nat.not_lt] at hone
    rcases members with _ | ⟨m, _ | ⟨m', rest⟩⟩
    · exact absurd rfl hne
    · exact ReadsFactors.primary (reads_literal m)
    · -- Two literals are a union.
      rw [List.length_cons, List.length_cons] at hone
      omega

/-- A combination is read when its members are. -/
theorem isRead_combined {combinator : Combinator} {members : List TypeNode} (hne : members ≠ [])
    (h : ∀ m ∈ members, m.IsRead A) : (Shape.combined combinator members).IsRead A depth := by
  cases hc : combinator.isIntersection with
  | true =>
      have hmark : combinator.mark = '&' := if_pos hc
      refine isRead_of_factors ?_
      rw [Shape.lexemes, Shape.factors, hc, hmark, if_pos rfl]
      exact readsFactors_members hne h depth
  | false =>
      have hmark : combinator.mark = '|' := if_neg (Bool.eq_false_iff.mp hc)
      unfold Shape.IsRead
      rw [Shape.lexemes, Shape.factors, hc, hmark, if_neg Bool.false_ne_true]
      refine ⟨reads_members hne h depth, fun hunion => ?_⟩
      rcases members with _ | ⟨m, _ | ⟨m', rest⟩⟩
      · exact absurd rfl hne
      · -- A single member is written as itself, and is no union either.
        rw [Shape.isUnion] at hunion
        exact (h m (List.mem_singleton.mpr rfl) depth).2 hunion
      · rw [Shape.isUnion, hc] at hunion
        exact absurd hunion.symm Bool.false_ne_true

end Shape

/-- The tokens of a well-formed tree are read as its factors. -/
theorem TypeNode.reads {n : TypeNode} (h : n.WellFormed) : n.IsRead A := by
  induction n using TypeNode.inductionOn with
  | step n ih =>
      intro depth
      rcases n with ⟨nullable, description, shape⟩
      have hroot : shape.WellShaped := h _ (TypeNode.mem_nodes_self _)
      have hchild : ∀ m ∈ shape.children, m.IsRead A := by
        intro m hm
        exact ih m hm fun k hk => h k (TypeNode.mem_nodes_of_child hm hk)
      -- Each shape is read when its children are.
      have hshape : shape.IsRead A depth := by
        cases shape with
        | primitive type => exact Shape.isRead_of_factors (ReadsFactors.primary (Reads.word _))
        | status code => exact Shape.isRead_of_factors (ReadsFactors.primary (Reads.word _))
        | format format => exact Shape.isRead_of_factors (ReadsFactors.primary (Reads.word _))
        | reference target => exact Shape.isRead_of_factors (readsFactors_reference target)
        | binary kind => exact Shape.isRead_binary kind
        | object properties => exact Shape.isRead_object hroot hchild
        | array item => exact Shape.isRead_array (hchild item (List.mem_singleton.mpr rfl))
        | literals members => exact Shape.isRead_literals hroot.1
        | combined combinator members => exact Shape.isRead_combined hroot hchild
      rw [TypeNode.lexemes, TypeNode.factors]
      cases nullable with
      | false => exact hshape
      | true =>
          -- With `null` behind it, any shape is a union.
          refine ⟨?_, fun hn => absurd hn (by rw [TypeNode.isUnion]; decide)⟩
          rw [if_pos rfl, if_pos rfl, tokens_append, tokens_append, List.append_assoc]
          exact Reads.or hshape.1 (Reads.postfixed (Reads.primary (Reads.word "null")))

end Trees

end RouteTypes
