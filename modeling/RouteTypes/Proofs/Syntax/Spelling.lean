import RouteTypes.Proofs.Construction
import RouteTypes.Proofs.Syntax.Token
import RouteTypes.TypeTree.Render

/-!
# The Lexemes of a Type Tree

What the text of a tree is made of.

The text of a tree is one long string, in which nothing says where a name ends. Here the
tree is written once more, as lexemes, along the same lines as its text. Both say the
same: the lexemes spell the text, whatever names occur in it.

## Main definitions

* `separated`, `grouped`, `bracedEntries`: The lexemes around others.
* `commentLexemes`: The comment for a description.
* `TypeNode.lexemes`, `Property.lexemes`: The lexemes of a tree.

## Theorems

* `TypeNode.spelled_lexemes`: The lexemes spell the text of the tree.
-/

namespace RouteTypes

open Syntax

namespace Syntax

/-- Lexemes with a separator between neighbours. -/
def separated (separator : List Lexeme) : List (List Lexeme) → List Lexeme
  | [] => []
  | [ls] => ls
  | ls :: rest => ls ++ separator ++ separated separator rest

/-- A mark between blanks. -/
def operator (c : Char) : List Lexeme :=
  [.blanks 1, .token (.mark c), .blanks 1]

/-- Lexemes in parentheses where they are needed. -/
def grouped (needed : Bool) (ls : List Lexeme) : List Lexeme :=
  if needed then .token (.mark '(') :: ls ++ [.token (.mark ')')] else ls

/-- The inside of a comment with some lines. -/
def commentBody (indent : List Char) : List (List Char) → List Char
  | [line] => '*' :: ' ' :: line ++ [' ']
  | lines => '*' :: '\n' :: lines.flatMap (Comment.blockLine indent) ++ indent ++ [' ']

/-- The comment for a description at a depth, and the end of its last line. -/
def commentLexemes (depth : Nat) (description : Option String) : List Lexeme :=
  match description with
  | none => []
  | some text =>
    let text := Text.trim text.toList
    if text.isEmpty then []
    else [.blanks (2 * depth),
      .comment (commentBody (indentation depth).toList (Comment.shownLines text)),
      .token .newline]

/-- What stands behind the key of an entry. An entry that may be left out says so by a
    mark and in its value. -/
def entryTail (optional : Bool) (value : List Lexeme) : List Lexeme :=
  if optional then
    [.token (.mark '?'), .token (.mark ':'), .blanks 1] ++ value ++
      (operator '|' ++ [.token (.word "undefined")])
  else [.token (.mark ':'), .blanks 1] ++ value

/-- Entries below one another, with an empty line next to each tall one. -/
def joinedEntries : List (List Lexeme × Bool) → List Lexeme
  | [] => []
  | [entry] => entry.1
  | entry :: next :: rest =>
    entry.1 ++ (if entry.2 || next.2 then [.token .newline, .token .newline]
      else [.token .newline]) ++ joinedEntries (next :: rest)

/-- Braces around entries. -/
def bracedEntries (depth : Nat) (entries : List (List Lexeme × Bool)) : List Lexeme :=
  if entries.isEmpty then [.token (.mark '\x7b'), .token (.mark '\x7d')]
  else [.token (.mark '\x7b'), .token .newline] ++ joinedEntries entries ++
    [.token .newline, .blanks (2 * depth), .token (.mark '\x7d')]

end Syntax

/-- The lexeme of a literal. -/
def Literal.lexeme : Literal → Lexeme
  | quoted text => .token (.quoted text)
  | raw token => .token (.word token)

/-- The name of a declared type with its namespace. -/
def TypeRef.path (r : TypeRef) : String :=
  r.space ++ "." ++ r.name

/-- The lexemes of a reference. -/
def TypeRef.lexemes (r : TypeRef) : List Lexeme :=
  match r.property with
  | some property =>
    [.token (.word r.path), .token (.mark '['), .token (.quoted property), .token (.mark ']')]
  | none => [.token (.word r.path)]

/-- The lexemes of binary content. -/
def BinaryKind.lexemes : BinaryKind → List Lexeme
  | upload => grouped true
      ([.token (.word "File")] ++ operator '|' ++ [.token (.word "ReadStream")])
  | download => [.token (.word "Blob")]

/-- The lexemes of a key. -/
def PropertyName.lexemes : PropertyName → List Lexeme
  | field name => if Text.needsQuotes name then [.token (.quoted name)] else [.token (.word name)]
  | index => [.token (.mark '['), .token (.word "key"), .token (.mark ':'), .blanks 1,
      .token (.word "string"), .token (.mark ']')]

/-- The mark of the operator between the members of a combination. -/
def Combinator.mark (c : Combinator) : Char :=
  if c.isIntersection then '&' else '|'

mutual

/-- The lexemes of a node whose first line stands at a depth. -/
def TypeNode.lexemes (depth : Nat) : TypeNode → List Lexeme
  | ⟨nullable, _, shape⟩ =>
    if nullable then shape.lexemes depth ++ operator '|' ++ [.token (.word "null")]
    else shape.lexemes depth
termination_by structural n => n

/-- The lexemes of a shape. -/
def Shape.lexemes (depth : Nat) : Shape → List Lexeme
  | .primitive type => [.token (.word type.name)]
  | .binary kind => kind.lexemes
  | .literals members => separated (operator '|') (members.map fun m => [m.lexeme])
  | .object properties => bracedEntries depth (propertyLexemes (depth + 1) properties)
  | .combined combinator members =>
    separated (operator combinator.mark)
      (memberLexemes depth combinator.isIntersection members)
  | .array item =>
    grouped (item.isUnion || item.isIntersection) (item.lexemes depth) ++
      [.token (.mark '['), .token (.mark ']')]
  | .reference target => target.lexemes
  | .status code => [.token (.word (toString code))]
  | .format format => [.token (.word format.name)]
termination_by structural s => s

/-- The lexemes of a property: its comment, its key and its value. -/
def Property.lexemes (depth : Nat) : Property → List Lexeme
  | ⟨name, required, description, values⟩ =>
    commentLexemes depth description ++ [.blanks (2 * depth)] ++ name.lexemes ++
      entryTail (!required && name != .index)
        (separated (operator '&') (memberLexemes depth false values))
termination_by structural q => q

/-- The lexemes of the members of a combination. -/
def memberLexemes (depth : Nat) (intersection : Bool) : List TypeNode → List (List Lexeme)
  | [] => []
  | n :: rest =>
    grouped (intersection && n.isUnion) (n.lexemes depth) ::
      memberLexemes depth intersection rest
termination_by structural ns => ns

/-- The lexemes of properties, with what the lines between them depend on. -/
def propertyLexemes (depth : Nat) : List Property → List (List Lexeme × Bool)
  | [] => []
  | q :: rest => (q.lexemes depth, q.spansLines) :: propertyLexemes depth rest
termination_by structural qs => qs

end

theorem memberLexemes_eq (depth : Nat) (intersection : Bool) (ns : List TypeNode) :
    memberLexemes depth intersection ns
      = ns.map fun n => grouped (intersection && n.isUnion) (n.lexemes depth) := by
  induction ns with
  | nil => rfl
  | cons n ns ih => rw [memberLexemes, ih, List.map_cons]

theorem propertyLexemes_eq (depth : Nat) (qs : List Property) :
    propertyLexemes depth qs = qs.map fun q => (q.lexemes depth, q.spansLines) := by
  induction qs with
  | nil => rfl
  | cons q qs ih => rw [propertyLexemes, ih, List.map_cons]

theorem renderMembers_eq (depth : Nat) (intersection : Bool) (ns : List TypeNode) :
    renderMembers depth intersection ns
      = ns.map fun n => parenthesized (intersection && n.isUnion) (n.render depth) := by
  induction ns with
  | nil => rfl
  | cons n ns ih => rw [renderMembers, ih, List.map_cons]

theorem renderProperties_eq (depth : Nat) (qs : List Property) :
    renderProperties depth qs = qs.map fun q => ⟨q.render depth, q.spansLines⟩ := by
  induction qs with
  | nil => rfl
  | cons q qs ih => rw [renderProperties, ih, List.map_cons]

section Spelling

/-- Two lists made from one are related when what is made from each element is. -/
theorem forall₂_map_of_mem {β γ δ : Type} {R : γ → δ → Prop} {f : β → γ} {g : β → δ}
    {bs : List β} (h : ∀ b ∈ bs, R (f b) (g b)) : List.Forall₂ R (bs.map f) (bs.map g) := by
  rw [List.forall₂_map_left_iff, List.forall₂_map_right_iff, List.forall₂_same]
  exact h

theorem toList_indentation (depth : Nat) :
    (indentation depth).toList = List.replicate (2 * depth) ' ' :=
  String.toList_ofList

/-- Separated lexemes spell joined texts. -/
theorem spelled_separated {separator : List Lexeme} {between : String}
    (hs : spelled separator = between.toList) {lss : List (List Lexeme)} {texts : List String}
    (h : List.Forall₂ (fun ls text => spelled ls = text.toList) lss texts) :
    spelled (separated separator lss) = (joinWith between texts).toList := by
  induction h with
  | nil => rfl
  -- The separator stands behind a list only when another one follows.
  | @cons ls text lss texts hl ht ih =>
      cases ht with
      | nil => exact hl
      | cons _ _ =>
          rw [separated, joinWith, spelled_append, spelled_append, String.toList_append,
            String.toList_append, hl, hs, ih]
          · exact List.cons_ne_nil _ _
          · exact List.cons_ne_nil _ _

/-- Parentheses around lexemes are spelled as those around their text. -/
theorem spelled_grouped (needed : Bool) {ls : List Lexeme} {text : String}
    (h : spelled ls = text.toList) :
    spelled (grouped needed ls) = (parenthesized needed text).toList := by
  unfold grouped parenthesized
  cases needed with
  | false => exact h
  | true =>
      rw [if_pos rfl, if_pos rfl, List.cons_append, spelled_cons, spelled_append, h,
        String.toList_append, String.toList_append, List.append_assoc]
      rfl

theorem spelled_literal (m : Literal) : spelled [m.lexeme] = m.render.toList := by
  cases m <;> exact List.append_nil _

/-- A reference is spelled as it is written, with its property or without one. -/
theorem spelled_reference (r : TypeRef) : spelled r.lexemes = r.render.toList := by
  unfold TypeRef.lexemes TypeRef.render
  cases r.property with
  | none => exact List.append_nil _
  | some property =>
      simp only [spelled_cons, Lexeme.spell, TypeRef.path, String.toList_append,
        List.append_assoc]
      rfl

/-- So is the name of a property: the question of quotes is asked once in both. -/
theorem spelled_name (name : PropertyName) : spelled name.lexemes = name.render.toList := by
  cases name with
  | index => rfl
  | field name =>
      unfold PropertyName.lexemes PropertyName.render Text.objectKey
      dsimp only
      split <;> exact List.append_nil _

/-- A comment is its body between the two marks, indented, on one line or on several. -/
theorem comment_around (indent : List Char) (lines : List (List Char)) :
    Comment.around indent lines
      = indent ++ ('/' :: '*' :: commentBody indent lines ++ ['*', '/']) ++ ['\n'] := by
  unfold Comment.around commentBody
  split
  · simp only [List.cons_append, List.append_assoc]
    rfl
  · simp only [List.cons_append, List.append_assoc]
    rfl

/-- A comment is spelled as it is written. -/
theorem spelled_comment (depth : Nat) (description : Option String) :
    spelled (commentLexemes depth description)
      = (docComment description (indentation depth)).toList := by
  cases description with
  | none => rfl
  | some text =>
      unfold commentLexemes docComment
      dsimp only
      by_cases h : (Text.trim text.toList).isEmpty = true
      · -- A blank description shows no comment.
        rw [if_pos h, if_pos h]
        rfl
      · rw [if_neg h, if_neg h, String.toList_ofList]
        simp only [spelled_cons, spelled_nil, Lexeme.spell, ← toList_indentation,
          List.append_nil]
        rw [comment_around]
        simp only [List.append_assoc]

/-- Entries below one another are spelled as blocks below one another. -/
theorem spelled_joinedEntries {entries : List (List Lexeme × Bool)} {blocks : List Block}
    (h : List.Forall₂ (fun e b => spelled e.1 = b.text.toList ∧ e.2 = b.tall) entries blocks) :
    spelled (joinedEntries entries) = (joinBlocks blocks).toList := by
  induction h with
  | nil => rfl
  | @cons e b entries blocks he ht ih =>
      cases ht with
      | nil => exact he.1
      | @cons e' b' entries blocks he' ht =>
          rw [joinedEntries, joinBlocks, spelled_append, spelled_append, String.toList_append,
            String.toList_append, he.1, he.2, he'.2, ih]
          -- One empty line or none, by the same test on both sides.
          cases b.tall || b'.tall <;> rfl

/-- Braces around entries are spelled as those around their texts. -/
theorem spelled_braced (depth : Nat) {entries : List (List Lexeme × Bool)} {blocks : List Block}
    (h : List.Forall₂ (fun e b => spelled e.1 = b.text.toList ∧ e.2 = b.tall) entries blocks) :
    spelled (bracedEntries depth entries) = (braces depth blocks).toList := by
  have hjoined := spelled_joinedEntries h
  unfold bracedEntries braces
  cases h with
  -- Without entries the braces touch.
  | nil =>
      rw [List.isEmpty_nil, List.isEmpty_nil, if_pos rfl, if_pos rfl]
      rfl
  | cons _ _ =>
      rw [List.isEmpty_cons, List.isEmpty_cons, if_neg Bool.false_ne_true,
        if_neg Bool.false_ne_true, spelled_append, spelled_append, hjoined]
      simp only [String.toList_append, toList_indentation, spelled_cons, spelled_nil,
        List.append_assoc]
      rfl

/-- The members of a combination are spelled as they are written, whichever operator joins
    them. -/
theorem spelled_members {depth : Nat} {ns : List TypeNode}
    (ih : ∀ n ∈ ns, ∀ depth, spelled (n.lexemes depth) = (n.render depth).toList)
    {separator : List Lexeme} {between : String} (hs : spelled separator = between.toList)
    (intersection : Bool) :
    spelled (separated separator (memberLexemes depth intersection ns))
      = (joinWith between (renderMembers depth intersection ns)).toList := by
  rw [memberLexemes_eq, renderMembers_eq]
  refine spelled_separated hs (forall₂_map_of_mem ?_)
  intro n hn
  exact spelled_grouped _ (ih n hn depth)

/-- A property is spelled as it is written: its comment, its key and its value. -/
theorem spelled_property {depth : Nat} {q : Property}
    (ih : ∀ n ∈ q.values, ∀ depth, spelled (n.lexemes depth) = (n.render depth).toList) :
    spelled (q.lexemes depth) = (q.render depth).toList := by
  rcases q with ⟨name, required, description, values⟩
  have hand : spelled (operator '&') = " & ".toList := rfl
  have hvalue : spelled (separated (operator '&') (memberLexemes depth false values))
      = (joinWith " & " (renderMembers depth false values)).toList := spelled_members ih hand false
  rw [Property.lexemes, Property.render]
  rw [spelled_append, spelled_append, spelled_append, spelled_comment, spelled_name,
    String.toList_append, String.toList_append, String.toList_append, toList_indentation]
  -- What stands before the mark, and what stands behind it.
  refine congrArg₂ (· ++ ·) ?_ ?_
  · simp only [spelled_cons, spelled_nil, Lexeme.spell, List.append_nil]
  · unfold entryTail
    split
    · rw [spelled_append, spelled_append, hvalue, String.toList_append, String.toList_append]
      rfl
    · rw [spelled_append, hvalue, String.toList_append]
      rfl

/-- The lexemes of a tree spell its text. -/
theorem TypeNode.spelled_lexemes (n : TypeNode) :
    ∀ depth, spelled (n.lexemes depth) = (n.render depth).toList := by
  induction n using TypeNode.inductionOn with
  -- The induction is on the node, for every depth, since members stand deeper than it does.
  | step n ih =>
      intro depth
      rcases n with ⟨nullable, description, shape⟩
      have hshape : spelled (shape.lexemes depth) = (shape.render depth).toList := by
        cases shape with
        | object properties =>
            rw [Shape.lexemes, Shape.render, propertyLexemes_eq, renderProperties_eq]
            refine spelled_braced depth (forall₂_map_of_mem ?_)
            intro q hq
            exact ⟨spelled_property fun m hm => ih m (List.mem_flatMap.mpr ⟨q, hq, hm⟩), rfl⟩
        | combined combinator members =>
            rw [Shape.lexemes, Shape.render]
            refine spelled_members ih ?_ _
            cases combinator <;> rfl
        | array item =>
            rw [Shape.lexemes, Shape.render, spelled_append, String.toList_append,
              spelled_grouped _ (ih item (List.mem_singleton.mpr rfl) depth)]
            rfl
        | literals members =>
            rw [Shape.lexemes, Shape.render]
            refine spelled_separated rfl (forall₂_map_of_mem ?_)
            intro m _
            exact spelled_literal m
        | reference target => exact spelled_reference target
        | binary kind =>
            rw [Shape.lexemes, Shape.render]
            cases kind <;> rfl
        | primitive | status | format => exact List.append_nil _
      rw [TypeNode.lexemes, TypeNode.render]
      cases nullable with
      | false => exact hshape
      | true =>
          rw [if_pos rfl, if_pos rfl, spelled_append, spelled_append, hshape,
            String.toList_append, List.append_assoc]
          rfl

end Spelling

end RouteTypes
