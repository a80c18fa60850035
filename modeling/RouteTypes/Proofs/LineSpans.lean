import RouteTypes.Proofs.Indentation

/-!
# Trees on Several Lines

When the text of a tree takes several lines, and where a block has empty lines.

Only braces around properties begin new lines. So a tree without such a block is written on
one line, and whether there is one is a question about the tree (`spansLines`). For the
text to follow the question, nothing that is written as it is may bring a line feed of its
own: no literal and no reference. The names of properties may, because they stand in
blocks, and so may descriptions.

The printer asks the question to set off properties from their neighbours. A reader of the
text sees it the other way round, an empty line between two properties exactly when the
value of one of them takes several lines (`stackedLines`). There are no other empty lines
between them, since a property neither begins nor ends with one.

## Main definitions

* `TypeNode.LeavesUnbroken`, `Property.LeavesUnbroken`: No literal and no reference in a
  tree holds a line feed.
* `Property.valueText`: The value of a property, as it is written.
* `stackedLines`: The lines of properties below one another.

## Theorems

* `Shape.isUnbroken_render_iff`, `TypeNode.isUnbroken_render_iff`: Which trees are written
  on one line.
* `Property.isUnbroken_valueText_iff`: The same for the values of a property.
* `linesOf_joinBlocks`, `linesOf_renderObject`: The lines of a block.
* `spansLines_iff_render`: The question and the text agree, at every depth.
-/

namespace RouteTypes

open Syntax

/-- No literal and no reference in the tree holds a line feed. -/
def TypeNode.LeavesUnbroken (n : TypeNode) : Prop :=
  ∀ m ∈ n.nodes, m.shape.LeavesUnbroken

instance : DecidablePred TypeNode.LeavesUnbroken := fun n =>
  inferInstanceAs (Decidable (∀ m ∈ n.nodes, m.shape.LeavesUnbroken))

/-- No literal and no reference in the values holds a line feed. -/
def Property.LeavesUnbroken (q : Property) : Prop :=
  ∀ v ∈ q.values, v.LeavesUnbroken

instance : DecidablePred Property.LeavesUnbroken := fun q =>
  inferInstanceAs (Decidable (∀ v ∈ q.values, v.LeavesUnbroken))

section Texts

theorem isUnbroken_append_iff {a b : String} :
    IsUnbroken (a ++ b) ↔ IsUnbroken a ∧ IsUnbroken b := by
  unfold IsUnbroken
  rw [String.toList_append, List.mem_append, not_or]

/-- A joined text is on one line when its parts are, since the separator is. -/
theorem isUnbroken_joinWith_iff {separator : String} (hs : IsUnbroken separator)
    (ts : List String) : IsUnbroken (joinWith separator ts) ↔ ∀ t ∈ ts, IsUnbroken t := by
  induction ts with
  | nil => exact iff_of_true List.not_mem_nil fun t ht => absurd ht List.not_mem_nil
  | cons t ts ih =>
      cases ts with
      | nil => rw [joinWith, List.forall_mem_singleton]
      | cons t' ts =>
          change IsUnbroken (t ++ separator ++ joinWith separator (t' :: ts)) ↔ _
          rw [isUnbroken_append_iff, isUnbroken_append_iff, and_iff_left hs, ih]
          exact List.forall_mem_cons.symm

/-- Parentheses break no line. -/
theorem isUnbroken_parenthesized_iff (needed : Bool) (t : String) :
    IsUnbroken (parenthesized needed t) ↔ IsUnbroken t := by
  have hopen : IsUnbroken "(" := by decide
  have hclose : IsUnbroken ")" := by decide
  cases needed with
  | false => exact Iff.rfl
  | true =>
      change IsUnbroken ("(" ++ t ++ ")") ↔ IsUnbroken t
      rw [isUnbroken_append_iff, isUnbroken_append_iff, and_iff_left hclose, and_iff_right hopen]

/-- Braces around something take several lines. -/
theorem not_isUnbroken_braces (depth : Nat) (block : Block) (blocks : List Block) :
    ¬ IsUnbroken (braces depth (block :: blocks)) := by
  intro h
  -- The opening brace is followed by a line feed.
  have hopen : IsUnbroken "\x7b\n" := by
    rw [braces, List.isEmpty_cons, if_neg Bool.false_ne_true] at h
    simp only [isUnbroken_append_iff] at h
    exact h.1.1.1.1
  exact absurd hopen (by decide)

end Texts

section Questions

theorem isUnbroken_members_iff {separator : String} (hs : IsUnbroken separator) (depth : Nat)
    (intersection : Bool) (ns : List TypeNode) :
    IsUnbroken (joinWith separator (renderMembers depth intersection ns)) ↔
      ∀ n ∈ ns, IsUnbroken (n.render depth) := by
  rw [isUnbroken_joinWith_iff hs, renderMembers_eq, List.forall_mem_map]
  simp only [isUnbroken_parenthesized_iff]

/-- A shape is written on one line when it is no block and its children are written on one
    line each. -/
theorem Shape.isUnbroken_render_iff {shape : Shape} (h : shape.LeavesUnbroken) (depth : Nat) :
    IsUnbroken (shape.render depth) ↔
      shape.isBlock = false ∧ ∀ m ∈ shape.children, IsUnbroken (m.render depth) := by
  cases shape with
  | object properties =>
      -- Empty braces are the only ones that are written on one line.
      rw [Shape.render, renderProperties_eq]
      cases properties with
      | nil =>
          have hnone : IsUnbroken "\x7b\x7d" := by decide
          exact iff_of_true hnone ⟨rfl, fun m hm => absurd hm List.not_mem_nil⟩
      | cons q qs =>
          refine iff_of_false (not_isUnbroken_braces _ _ _) fun hblock => ?_
          exact Bool.noConfusion hblock.1
  | combined combinator members =>
      have hs : IsUnbroken (if combinator.isIntersection then " & " else " | ") := by
        cases combinator <;> decide
      rw [Shape.render]
      exact (isUnbroken_members_iff hs depth _ members).trans (and_iff_right rfl).symm
  | array item =>
      have hbrackets : IsUnbroken "[]" := by decide
      rw [Shape.render, isUnbroken_append_iff, and_iff_left hbrackets,
        isUnbroken_parenthesized_iff, Shape.children, List.forall_mem_singleton]
      exact (and_iff_right rfl).symm
  -- The other shapes have no children, and are written on one line.
  | literals members =>
      refine iff_of_true ?_ ⟨rfl, fun m hm => absurd hm List.not_mem_nil⟩
      rw [Shape.render, isUnbroken_joinWith_iff (by decide), List.forall_mem_map]
      exact fun m hm => (h m hm).render
  | reference target =>
      exact iff_of_true h.render ⟨rfl, fun m hm => absurd hm List.not_mem_nil⟩
  | primitive type =>
      have htype : IsUnbroken type.name := by cases type <;> decide
      exact iff_of_true htype ⟨rfl, fun m hm => absurd hm List.not_mem_nil⟩
  | binary kind =>
      have hkind : IsUnbroken kind.render := by cases kind <;> decide
      exact iff_of_true hkind ⟨rfl, fun m hm => absurd hm List.not_mem_nil⟩
  | status code =>
      exact iff_of_true (isUnbroken_of_isWord (isWord_nat code))
        ⟨rfl, fun m hm => absurd hm List.not_mem_nil⟩
  | format format =>
      have hformat : IsUnbroken format.name := by cases format <;> decide
      exact iff_of_true hformat ⟨rfl, fun m hm => absurd hm List.not_mem_nil⟩

/-- A tree is written on one line when no block occurs in it. -/
theorem TypeNode.isUnbroken_render_iff {n : TypeNode} (h : n.LeavesUnbroken) (depth : Nat) :
    IsUnbroken (n.render depth) ↔ n.spansLines = false := by
  -- The question looks at the shape and then at the children, as the printer does.
  induction n using TypeNode.inductionOn with
  | step n ih =>
      have hnull : IsUnbroken " | null" := by decide
      have hroot : n.shape.LeavesUnbroken := h n n.mem_nodes_self
      have hshape : IsUnbroken (n.render depth) ↔ IsUnbroken (n.shape.render depth) := by
        rcases n with ⟨nullable, description, shape⟩
        rw [TypeNode.render]
        cases nullable with
        | false => exact Iff.rfl
        | true => exact isUnbroken_append_iff.trans (and_iff_left hnull)
      have hchildren : ∀ m ∈ n.shape.children,
          (IsUnbroken (m.render depth) ↔ m.spansLines = false) := fun m hm =>
        ih m hm fun k hk => h k (TypeNode.mem_nodes_of_child hm hk)
      rw [hshape, Shape.isUnbroken_render_iff hroot, TypeNode.spansLines, TypeNode.any_root,
        Bool.or_eq_false_iff, List.any_eq_false]
      refine and_congr_right fun _ => forall₂_congr fun m hm => ?_
      rw [hchildren m hm, Bool.not_eq_true]
      rfl

end Questions

section Blocks

variable {depth : Nat}

/-- The value of a property, as it is written. -/
def Property.valueText (depth : Nat) (q : Property) : String :=
  joinWith " & " (q.values.map (·.render depth))

/-- The value of a property is written without parentheses. -/
theorem Property.valueText_eq (depth : Nat) (q : Property) :
    q.valueText depth = joinWith " & " (renderMembers depth false q.values) := by
  rw [valueText, renderMembers_eq]
  rfl

/-- The text of a property around its value. -/
theorem Property.render_eq (depth : Nat) (q : Property) :
    q.render depth = docComment q.description (indentation depth) ++ indentation depth ++
      q.name.render ++ (if q.isOptional then "?: " ++ q.valueText depth ++ " | undefined"
        else ": " ++ q.valueText depth) := by
  rcases q with ⟨name, required, description, values⟩
  rw [Property.render, Property.valueText_eq]
  rfl

/-- The value of a property is written on one line when no block occurs in it. -/
theorem Property.isUnbroken_valueText_iff {q : Property} (h : q.LeavesUnbroken) (depth : Nat) :
    IsUnbroken (q.valueText depth) ↔ q.spansLines = false := by
  have hand : IsUnbroken " & " := by decide
  rw [valueText, isUnbroken_joinWith_iff hand, List.forall_mem_map, spansLines,
    List.any_eq_false]
  refine forall₂_congr fun v hv => ?_
  rw [TypeNode.isUnbroken_render_iff (h v hv), Bool.not_eq_true]

/-- The question about a property is the question if its value has a line feed. -/
theorem Property.spansLines_iff {q : Property} (h : q.LeavesUnbroken) (depth : Nat) :
    q.spansLines = true ↔ '\n' ∈ (q.valueText depth).toList := by
  rw [← Bool.not_eq_false, ← isUnbroken_valueText_iff h depth, IsUnbroken, not_not]

/-- The lines of properties below one another. There is an empty line between two of them
    where the value of one takes several lines. -/
def stackedLines (depth : Nat) : List Property → List (List Char)
  | [] => []
  | [q] => linesOf (q.render depth)
  | q :: r :: rest =>
    let isTall (p : Property) := '\n' ∈ (p.valueText depth).toList
    let gap := if isTall q ∨ isTall r then [[]] else []
    linesOf (q.render depth) ++ gap ++ stackedLines depth (r :: rest)

/-- A line feed cuts the lines of a text in two. -/
theorem linesOf_append_newline (a b : String) :
    linesOf (a ++ "\n" ++ b) = linesOf a ++ linesOf b := by
  unfold linesOf
  rw [String.toList_append, String.toList_append, List.append_assoc]
  exact List.splitOn_append_cons_self _ _

/-- Two of them leave an empty line between. -/
theorem linesOf_append_gap (a b : String) :
    linesOf (a ++ "\n\n" ++ b) = linesOf a ++ [[]] ++ linesOf b := by
  have hgap : a ++ "\n\n" = a ++ "\n" ++ "" ++ "\n" := by
    rw [String.append_empty, String.append_assoc]
    rfl
  rw [hgap, linesOf_append_newline, linesOf_append_newline]
  rfl

/-- Where the printer asks about the properties, a reader looks at their values. -/
theorem linesOf_joinBlocks {q : Property} {qs : List Property}
    (h : ∀ p ∈ q :: qs, p.LeavesUnbroken) :
    linesOf (joinBlocks (renderProperties depth (q :: qs))) = stackedLines depth (q :: qs) := by
  induction qs generalizing q with
  | nil => rfl
  | cons r qs ih =>
      have hq := Property.spansLines_iff (h q List.mem_cons_self) depth
      have hr := Property.spansLines_iff (h r (List.mem_cons_of_mem q List.mem_cons_self)) depth
      have hrest := ih fun p hp => h p (List.mem_cons_of_mem q hp)
      have htall : (q.spansLines || r.spansLines) = true ↔
          '\n' ∈ (q.valueText depth).toList ∨ '\n' ∈ (r.valueText depth).toList := by
        rw [Bool.or_eq_true, hq, hr]
      rw [stackedLines, ← hrest]
      -- The gap that the printer leaves, with the question spelled out.
      change linesOf (q.render depth ++ (if (q.spansLines || r.spansLines) = true then "\n\n"
        else "\n") ++ joinBlocks (renderProperties depth (r :: qs))) = _
      by_cases hgap : (q.spansLines || r.spansLines) = true
      · rw [if_pos hgap, if_pos (htall.mp hgap), linesOf_append_gap]
      · rw [if_neg hgap, if_neg (mt htall.mpr hgap), linesOf_append_newline, List.append_nil]

/-- The lines of a block: a brace, the properties below one another, and a brace. -/
theorem linesOf_renderObject {q : Property} {qs : List Property}
    (h : ∀ p ∈ q :: qs, p.LeavesUnbroken) :
    linesOf (renderObject depth (q :: qs)) =
      ['{'] :: stackedLines (depth + 1) (q :: qs) ++ [(indentation depth).toList ++ ['}']] := by
  have hclose : linesOf (indentation depth ++ "\x7d")
      = [(indentation depth).toList ++ ['}']] := by
    have hline : '\n' ∉ (indentation depth ++ "\x7d").toList := by
      rw [String.toList_append, List.mem_append, not_or]
      exact ⟨fun hmem => (isIndentation_indentation depth _ hmem).2 rfl, by decide⟩
    rw [linesOf, List.splitOn_eq_singleton hline, String.toList_append]
    rfl
  have hwhole : renderObject depth (q :: qs) = "\x7b" ++ "\n" ++
      (joinBlocks (renderProperties (depth + 1) (q :: qs)) ++ "\n" ++
        (indentation depth ++ "\x7d")) := by
    change "\x7b\n" ++ joinBlocks (renderProperties (depth + 1) (q :: qs)) ++ "\n" ++
      indentation depth ++ "\x7d" = _
    simp only [String.append_assoc]
    rfl
  rw [hwhole, linesOf_append_newline, linesOf_append_newline, linesOf_joinBlocks h, hclose]
  rfl

end Blocks

section Ends

/-- The text does not end with a line feed. -/
def EndsInLine (text : String) : Prop :=
  text.toList.getLast? ≠ some '\n'

theorem IsUnbroken.endsInLine {text : String} (h : IsUnbroken text) : EndsInLine text :=
  fun hlast => h (List.mem_of_getLast? hlast)

theorem EndsInLine.append {a b : String} (ha : EndsInLine a) (hb : EndsInLine b) :
    EndsInLine (a ++ b) := by
  unfold EndsInLine at *
  rw [String.toList_append, List.getLast?_append]
  cases hlast : b.toList.getLast? with
  | none => exact ha
  | some c => rwa [hlast] at hb

/-- What a text ends with decides, if it is anything. -/
theorem endsInLine_append_of_ne {a b : String} (hb : EndsInLine b) (hne : b ≠ "") :
    EndsInLine (a ++ b) := by
  unfold EndsInLine at *
  rwa [String.toList_append,
    List.getLast?_append_of_ne_nil _ fun hnil => hne (String.toList_eq_nil_iff.mp hnil)]

/-- So do parts between separators. -/
theorem endsInLine_joinWith {separator : String} (hs : EndsInLine separator) {ts : List String}
    (h : ∀ t ∈ ts, EndsInLine t) : EndsInLine (joinWith separator ts) := by
  induction ts with
  | nil => exact nofun
  | cons t ts ih =>
      have ht := h t List.mem_cons_self
      have hts := ih fun t' ht' => h t' (List.mem_cons_of_mem t ht')
      cases ts with
      | nil => exact ht
      | cons t' ts => exact (ht.append hs).append hts

theorem endsInLine_parenthesized {needed : Bool} {t : String} (h : EndsInLine t) :
    EndsInLine (parenthesized needed t) := by
  have hopen : IsUnbroken "(" := by decide
  have hclose : IsUnbroken ")" := by decide
  cases needed with
  | false => exact h
  | true => exact (hopen.endsInLine.append h).append hclose.endsInLine

theorem endsInLine_members {separator : String} (hs : EndsInLine separator) {depth : Nat}
    (intersection : Bool) {ns : List TypeNode} (h : ∀ n ∈ ns, EndsInLine (n.render depth)) :
    EndsInLine (joinWith separator (renderMembers depth intersection ns)) := by
  rw [renderMembers_eq]
  refine endsInLine_joinWith hs fun t ht => ?_
  rcases List.mem_map.mp ht with ⟨n, hn, rfl⟩
  exact endsInLine_parenthesized (h n hn)

/-- The text of a shape ends within a line, that of a block with its brace. -/
theorem Shape.endsInLine_render {shape : Shape} (h : shape.LeavesUnbroken) {depth : Nat}
    (hchild : ∀ m ∈ shape.children, EndsInLine (m.render depth)) :
    EndsInLine (shape.render depth) := by
  cases shape with
  | object properties =>
      have hbrace : IsUnbroken "\x7d" := by decide
      rw [Shape.render, braces]
      split
      · have hnone : IsUnbroken "\x7b\x7d" := by decide
        exact hnone.endsInLine
      · exact endsInLine_append_of_ne hbrace.endsInLine (by decide)
  | combined combinator members =>
      rw [Shape.render]
      refine endsInLine_members ?_ _ hchild
      cases combinator <;> exact fun hlast => absurd hlast (by decide)
  | array item =>
      have hbrackets : IsUnbroken "[]" := by decide
      rw [Shape.render]
      exact endsInLine_append_of_ne hbrackets.endsInLine (by decide)
  -- The other shapes are written on one line.
  | literals | reference | primitive | binary | status | format =>
      have hline := (Shape.isUnbroken_render_iff h depth).mpr
        ⟨rfl, fun m hm => absurd hm List.not_mem_nil⟩
      exact hline.endsInLine

/-- The text of a tree ends within a line. -/
theorem TypeNode.endsInLine_render {n : TypeNode} (h : n.LeavesUnbroken) (depth : Nat) :
    EndsInLine (n.render depth) := by
  induction n using TypeNode.inductionOn with
  | step n ih =>
      rcases n with ⟨nullable, description, shape⟩
      have hroot : shape.LeavesUnbroken := h _ (TypeNode.mem_nodes_self _)
      have hshape : EndsInLine (shape.render depth) := by
        refine Shape.endsInLine_render hroot fun m hm => ?_
        exact ih m hm fun k hk => h k (TypeNode.mem_nodes_of_child hm hk)
      have hnull : IsUnbroken " | null" := by decide
      rw [TypeNode.render]
      cases nullable with
      | false => exact hshape
      | true => exact hshape.append hnull.endsInLine

theorem Property.endsInLine_valueText {q : Property} (h : q.LeavesUnbroken) (depth : Nat) :
    EndsInLine (q.valueText depth) := by
  have hand : IsUnbroken " & " := by decide
  refine endsInLine_joinWith hand.endsInLine fun t ht => ?_
  rcases List.mem_map.mp ht with ⟨v, hv, rfl⟩
  exact TypeNode.endsInLine_render (h v hv) depth

/-- The text neither begins nor ends with an empty line. -/
structure HasFullEnds (text : String) : Prop where
  first : (linesOf text).head? ≠ some []
  last : (linesOf text).getLast? ≠ some []

/-- The last line of a text is empty only behind a line feed. -/
theorem exists_splitOn_concat {c : Char} (hc : c ≠ '\n') (front : List Char) :
    ∃ lines line, (front ++ [c]).splitOn '\n' = lines ++ [line ++ [c]] := by
  induction front with
  | nil =>
      refine ⟨[], [], List.splitOn_eq_singleton fun hmem => ?_⟩
      exact hc (List.mem_singleton.mp hmem).symm
  | cons d front ih =>
      rcases ih with ⟨lines, line, heq⟩
      -- A line feed in front adds an empty line, and any other character lengthens the first line.
      rw [List.cons_append, List.splitOn_cons_eq_if_modifyHead, heq]
      by_cases hd : (d == '\n') = true
      · rw [if_pos hd]
        exact ⟨[] :: lines, line, rfl⟩
      · rw [if_neg hd]
        cases lines with
        | nil => exact ⟨[], d :: line, rfl⟩
        | cons first rest => exact ⟨(d :: first) :: rest, line, rfl⟩

/-- A text that begins with a blank and ends within a line has no empty lines at its
    ends. -/
theorem hasFullEnds_of {text : String} {rest : List Char} (hfirst : text.toList = ' ' :: rest)
    (hlast : EndsInLine text) : HasFullEnds text := by
  constructor
  case first =>
    rcases List.exists_cons_of_ne_nil (List.splitOn_ne_nil '\n' rest) with ⟨line, lines, hrest⟩
    have hsplit : ([' '] ++ rest).splitOn '\n' = ([' '] ++ line) :: lines :=
      Shifts.splitOn_append_of_not_mem (by decide) hrest
    rw [linesOf, hfirst, ← List.singleton_append, hsplit]
    simp
  case last =>
    have hne : text.toList ≠ [] := by
      rw [hfirst]
      exact List.cons_ne_nil _ _
    have hc : text.toList.getLast hne ≠ '\n' := fun heq =>
      hlast (by rw [List.getLast?_eq_some_getLast hne, heq])
    rcases exists_splitOn_concat hc text.toList.dropLast with ⟨lines, line, hsplit⟩
    rw [List.dropLast_append_getLast] at hsplit
    rw [linesOf, hsplit]
    simp

/-- What stands in front of the name of a property begins with its indentation. -/
theorem exists_comment_indentation (description : Option String) (indent : String) :
    ∃ rest, (docComment description indent ++ indent).toList = indent.toList ++ rest := by
  rw [String.toList_append]
  cases description with
  | none => exact ⟨[], by rw [List.append_nil]; rfl⟩
  | some text =>
      by_cases htrim : Text.trim text.toList = []
      · have hblank := (docComment_eq_empty_iff indent).mpr (Comment.trim_eq_nil_iff.mp htrim)
        exact ⟨[], by rw [hblank, List.append_nil]; rfl⟩
      · rw [toList_docComment indent htrim]
        unfold Comment.around
        split
        · exact ⟨_, by rw [List.append_assoc, List.append_assoc, List.append_assoc]⟩
        · exact ⟨_, by rw [List.append_assoc, List.append_assoc, List.append_assoc,
            List.append_assoc]⟩

/-- A property inside a block begins with blanks and ends with its value. -/
theorem Property.hasFullEnds_render {q : Property} (h : q.LeavesUnbroken) (depth : Nat) :
    HasFullEnds (q.render (depth + 1)) := by
  have hvalue := Property.endsInLine_valueText h (depth + 1)
  -- The indentation of the inside of a block is not empty.
  have hfirst : ∃ rest, (q.render (depth + 1)).toList = ' ' :: rest := by
    have hindent : (indentation (depth + 1)).toList
        = ' ' :: ' ' :: (indentation depth).toList := by
      rw [toList_indentation, toList_indentation]
      rfl
    rcases exists_comment_indentation q.description (indentation (depth + 1)) with ⟨rest, hrest⟩
    rw [Property.render_eq, String.append_assoc, String.toList_append, hrest, hindent]
    exact ⟨_, rfl⟩
  have hlast : EndsInLine (q.render (depth + 1)) := by
    have hmark : IsUnbroken ": " := by decide
    have hoptional : IsUnbroken "?: " := by decide
    have hundefined : IsUnbroken " | undefined" := by decide
    rw [Property.render_eq]
    cases q.isOptional with
    | false =>
        refine endsInLine_append_of_ne (hmark.endsInLine.append hvalue) fun hempty => ?_
        exact absurd (String.append_eq_empty_iff.mp hempty).1 (by decide)
    | true =>
        have htext := (hoptional.endsInLine.append hvalue).append hundefined.endsInLine
        refine endsInLine_append_of_ne htext fun hempty => ?_
        exact absurd (String.append_eq_empty_iff.mp hempty).2 (by decide)
  rcases hfirst with ⟨rest, hrest⟩
  exact hasFullEnds_of hrest hlast

end Ends

/-- Whether a tree takes several lines can be read off its text at every depth. So can the
    empty lines in a block: there is one between two properties when the value of one of
    them takes several lines, and no other one, because no property begins or ends with
    an empty line. -/
theorem spansLines_iff_render (depth : Nat) :
    (∀ n : TypeNode, n.LeavesUnbroken →
      (n.spansLines = true ↔ '\n' ∈ (n.render depth).toList)) ∧
    ∀ (q : Property) (qs : List Property), (∀ p ∈ q :: qs, p.LeavesUnbroken) →
      linesOf ((Shape.object (q :: qs)).render depth) =
          ['{'] :: stackedLines (depth + 1) (q :: qs) ++
            [(indentation depth).toList ++ ['}']] ∧
        ∀ p ∈ q :: qs, HasFullEnds (p.render (depth + 1)) := by
  refine ⟨fun n h => ?_, fun q qs h => ⟨?_, fun p hp => ?_⟩⟩
  · rw [← Bool.not_eq_false, ← TypeNode.isUnbroken_render_iff h depth, IsUnbroken, not_not]
  · rw [Shape.render]
    exact linesOf_renderObject h
  · exact Property.hasFullEnds_render (h p hp) depth

/-- Two flat properties, the first on several lines of its own, and a tall one. -/
def heldProperties : List Property :=
  [.field "full\nname" true (some "Shown\nfirst") { shape := .primitive .string },
    .field "id" true none { shape := .reference { space := "Types", name := "Id" } },
    .field "owner" false none { nullable := true, shape := .object [
      .field "age" true none { shape := .primitive .number }] }]

theorem spansLines_iff_render_held :
    (∀ p ∈ heldProperties, p.LeavesUnbroken) ∧
      (heldProperties.map (·.spansLines)) = [false, false, true] ∧
      linesOf ((Shape.object heldProperties).render 1) =
        ["\x7b", "    /**", "     * Shown", "     * first", "     */", "    'full", "name': string",
          "    id: Types.Id", "", "    owner?: \x7b", "      age: number",
          "    \x7d | null | undefined", "  \x7d"].map String.toList := by
  have hunbroken : ∀ p ∈ heldProperties, p.LeavesUnbroken := by decide
  refine ⟨hunbroken, by decide, ?_⟩
  exact ((spansLines_iff_render 1).2 _ _ hunbroken).1.trans (by decide +kernel)

end RouteTypes
