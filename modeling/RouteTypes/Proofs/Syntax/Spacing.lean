import RouteTypes.Proofs.Declarations
import RouteTypes.Proofs.Syntax.Spelling
import Mathlib.Data.List.DropRight

/-!
# The Tokens of the Text of a Tree

Why the lexer finds the lexemes of a tree in its text.

Two words must not meet, and no comment may end early. Words are kept apart by the
lexemes between them, so lists of lexemes are put together from two kinds: those that
need something else behind them (`Fits`) and those that keep their neighbours apart
(`Parts`). A comment shows the lines of a description in which every end mark was broken
up, and taking a text apart into lines and dropping blanks does not bring one back.

## Main definitions

* `TypeNode.Plain`: The references in a tree are words.
* `Fits`, `Parts`: Lexemes that can stand between others.

## Theorems

* `noEnd_comment`: A comment holds no end mark.
* `TypeNode.fits_lexemes`: The lexemes of a tree can stand between others.
* `TypeNode.lex_render`: The tokens of the text of a tree.
* `TypeNode.plain_of_built`: The references in a built tree are words.
-/

namespace RouteTypes

open Syntax

namespace Syntax

section Comments

/-- No end mark in a text, and none that starts right before it. -/
def Soft (cs : List Char) : Prop :=
  NoEnd cs ∧ cs.head? ≠ some '/'

/-- A text without an end mark may go on with one that does not complete such a mark. -/
theorem noEnd_append {cs cs' : List Char} (h : NoEnd cs) (h' : Soft cs') : NoEnd (cs ++ cs') := by
  refine List.isChain_append.mpr ⟨h, h'.1, fun x _ y hy hend => h'.2 ?_⟩
  rw [← hend.2]
  exact hy

/-- A character other than a star starts no end mark. -/
theorem noEnd_cons {c : Char} {cs : List Char} (hc : c ≠ '*') (h : NoEnd cs) :
    NoEnd (c :: cs) :=
  List.isChain_cons.mpr ⟨fun _ _ hend => hc hend.1, h⟩

theorem soft_cons {c : Char} {cs : List Char} (hstar : c ≠ '*') (hslash : c ≠ '/')
    (h : NoEnd cs) : Soft (c :: cs) := by
  refine ⟨noEnd_cons hstar h, ?_⟩
  rw [List.head?_cons, ne_eq, Option.some.injEq]
  exact hslash

theorem soft_nil : Soft [] :=
  ⟨List.IsChain.nil, by decide⟩

theorem Soft.append {cs cs' : List Char} (h : Soft cs) (h' : Soft cs') : Soft (cs ++ cs') := by
  refine ⟨noEnd_append h.1 h', ?_⟩
  cases cs with
  | nil => exact h'.2
  | cons c cs => exact h.2

theorem soft_of_blanks {cs : List Char} (h : ∀ c ∈ cs, c = ' ') : Soft cs := by
  induction cs with
  | nil => exact soft_nil
  | cons c cs ih =>
      rw [h c List.mem_cons_self]
      exact soft_cons (by decide) (by decide) (ih fun d hd => h d (List.mem_cons_of_mem c hd)).1

/-- A text is escaped into one without an end mark. Escaping keeps the first character. -/
theorem noEnd_escape (cs : List Char) :
    NoEnd (Comment.escape cs) ∧ (Comment.escape cs).head? = cs.head? := by
  fun_induction Comment.escape cs with
  -- An end mark in the text: a backslash comes between its two characters.
  | case1 rest ih =>
      have hslash : NoEnd ('/' :: Comment.escape rest) := noEnd_cons (by decide) ih.1
      refine ⟨List.isChain_cons_cons.mpr ⟨by decide, ?_⟩, rfl⟩
      exact noEnd_cons (by decide) hslash
  | case2 c rest hne ih =>
      refine ⟨List.isChain_cons.mpr ⟨fun d hd hend => ?_, ih.1⟩, rfl⟩
      -- The text would have gone on with an end mark, which is another case.
      rw [ih.2, hend.2] at hd
      rcases List.head?_eq_some_iff.mp hd with ⟨rest', rfl⟩
      exact hne rest' hend.1 rfl
  | case3 => exact ⟨List.IsChain.nil, rfl⟩

/-- Every line that is split off is a part of the text, the line that was begun included. -/
theorem isInfix_of_mem_go (line cs : List Char) :
    ∀ l ∈ Text.lines.go line cs, l <:+: line.reverse ++ cs := by
  -- The induction is on the text that is left, for any beginning of the current line.
  induction cs generalizing line with
  | nil =>
      intro l hl
      rw [Text.lines.go] at hl
      split at hl
      · exact absurd hl List.not_mem_nil
      · rw [List.mem_singleton.mp hl]
        exact (List.prefix_append _ _).isInfix
  | cons c cs ih =>
      intro l hl
      rw [Text.lines.go] at hl
      split at hl
      · rcases List.mem_cons.mp hl with rfl | hl
        · -- The line that ends here, without its carriage return.
          have hdrop : Text.dropReturn line.reverse <+: line.reverse := by
            unfold Text.dropReturn
            split
            · exact List.dropLast_prefix _
            · exact List.prefix_refl _
          exact hdrop.isInfix.trans (List.prefix_append _ _).isInfix
        · exact (ih [] l hl).trans
            ((List.suffix_cons c cs).trans (List.suffix_append _ _)).isInfix
      · have := ih (c :: line) l hl
        rwa [List.reverse_cons, List.append_assoc, List.singleton_append] at this

/-- The lines of a text are parts of it. -/
theorem isInfix_of_mem_lines (cs : List Char) : ∀ l ∈ Text.lines cs, l <:+: cs := by
  intro l hl
  unfold Text.lines at hl
  split at hl
  · exact absurd hl List.not_mem_nil
  · exact isInfix_of_mem_go [] _ l hl

theorem isPrefix_trimEnd (cs : List Char) : Text.trimEnd cs <+: cs :=
  List.rdropWhile_prefix Text.isBlank cs

/-- The lines that a comment shows hold no end mark. -/
theorem noEnd_shownLines (text : List Char) :
    ∀ line ∈ Comment.shownLines text, NoEnd line := by
  intro line hline
  rcases List.mem_map.mp hline with ⟨l, hl, rfl⟩
  have hpart := (isPrefix_trimEnd l).isInfix.trans (isInfix_of_mem_lines _ l hl)
  exact List.IsChain.infix (noEnd_escape text).1 hpart

/-- A line of a block starts with blanks and a star, and a blank or a line break follows the
    star. -/
theorem soft_blockLine {indent line : List Char} (hi : Soft indent) (h : NoEnd line) :
    Soft (Comment.blockLine indent line) := by
  have hend : Soft ['\n'] := soft_cons (by decide) (by decide) List.IsChain.nil
  unfold Comment.blockLine
  split
  · refine hi.append (soft_cons (by decide) (by decide) ?_)
    exact List.isChain_cons_cons.mpr ⟨by decide, hend.1⟩
  · have hline : NoEnd (line ++ ['\n']) := noEnd_append h hend
    rw [List.append_assoc, List.append_assoc]
    refine hi.append (soft_cons (by decide) (by decide) ?_)
    exact List.isChain_cons_cons.mpr ⟨by decide, noEnd_cons (by decide) hline⟩

/-- So are all lines of a block, one below the other. -/
theorem soft_blockLines {indent : List Char} (hi : Soft indent) {lines : List (List Char)}
    (h : ∀ line ∈ lines, NoEnd line) : Soft (lines.flatMap (Comment.blockLine indent)) := by
  induction lines with
  | nil => exact soft_nil
  | cons line lines ih =>
      rw [List.flatMap_cons]
      exact (soft_blockLine hi (h line List.mem_cons_self)).append
        (ih fun l hl => h l (List.mem_cons_of_mem line hl))

/-- A comment holds no end mark. -/
theorem noEnd_comment {indent : List Char} (hi : Soft indent) {lines : List (List Char)}
    (h : ∀ line ∈ lines, NoEnd line) : NoEnd (commentBody indent lines) := by
  have hblank : Soft [' '] := soft_cons (by decide) (by decide) List.IsChain.nil
  unfold commentBody
  -- One line: the opening star, a blank, the line and a blank.
  split
  · next line =>
      refine List.isChain_cons_cons.mpr ⟨by decide, noEnd_cons (by decide) ?_⟩
      exact noEnd_append (h line List.mem_cons_self) hblank
  · refine List.isChain_cons_cons.mpr ⟨by decide, noEnd_cons (by decide) ?_⟩
    exact noEnd_append ((soft_blockLines hi h).append hi).1 hblank

end Comments

section Spaces

/-- Lexemes that can be read when something else than a word follows. -/
def Fits (ls : List Lexeme) : Prop :=
  ∀ rest, Spaced rest → Apart (spelled rest) → Spaced (ls ++ rest)

/-- Lexemes that can be read whatever follows, and stand behind a word. -/
def Parts (ls : List Lexeme) : Prop :=
  ∀ rest, Spaced rest → Spaced (ls ++ rest) ∧ Apart (spelled (ls ++ rest))

theorem fits_nil : Fits [] :=
  fun _ h _ => h

theorem fits_word {text : String} (h : IsWord text) : Fits [.token (.word text)] :=
  fun _ hrest ha => ⟨h, fun _ => ha, hrest⟩

/-- A quoted text ends itself, so it fits before anything. -/
theorem fits_quoted (text : String) : Fits [.token (.quoted text)] :=
  fun _ hrest _ => ⟨trivial, fun h => absurd h Bool.false_ne_true, hrest⟩

/-- Blanks and comments in front change nothing. -/
theorem Fits.cons (l : Lexeme) (hp : l.Proper) (hl : l.isWord = false) {ls : List Lexeme}
    (h : Fits ls) : Fits (l :: ls) := by
  intro rest hrest ha
  refine ⟨hp, fun hw => ?_, h rest hrest ha⟩
  rw [hl] at hw
  exact absurd hw Bool.false_ne_true

/-- Behind lexemes that fit there may be some that keep a word off. -/
theorem Fits.append {ls ls' : List Lexeme} (h : Fits ls) (h' : Parts ls') : Fits (ls ++ ls') := by
  intro rest hrest _
  rw [List.append_assoc]
  exact h _ (h' rest hrest).1 (h' rest hrest).2

/-- Such lexemes may also come first. -/
theorem Parts.append {ls ls' : List Lexeme} (h : Parts ls) (h' : Fits ls') :
    Fits (ls ++ ls') := by
  intro rest hrest ha
  rw [List.append_assoc]
  exact (h _ (h' rest hrest ha)).1

/-- Lexemes fit on both sides of others that keep them apart. -/
theorem Fits.between {ls ls' separator : List Lexeme} (h : Fits ls) (hs : Parts separator)
    (h' : Fits ls') : Fits (ls ++ separator ++ ls') := by
  intro rest hrest ha
  have hright := h' rest hrest ha
  rw [List.append_assoc, List.append_assoc]
  exact h _ (hs _ hright).1 (hs _ hright).2

/-- A mark keeps its neighbours apart. -/
theorem parts_mark {c : Char} (h : isMark c = true) : Parts [.token (.mark c)] := by
  intro rest hrest
  refine ⟨⟨h, fun hw => absurd hw Bool.false_ne_true, hrest⟩, fun d hd => ?_⟩
  obtain rfl := Option.some.inj hd
  unfold isMark at h
  rw [Bool.not_eq_true', Bool.or_eq_false_iff] at h
  exact h.1

theorem parts_newline : Parts [.token .newline] := by
  intro rest hrest
  refine ⟨⟨trivial, fun hw => absurd hw Bool.false_ne_true, hrest⟩, fun d hd => ?_⟩
  obtain rfl := Option.some.inj hd
  decide

theorem parts_blank : Parts [.blanks 1] := by
  intro rest hrest
  refine ⟨⟨trivial, fun hw => absurd hw Bool.false_ne_true, hrest⟩, fun d hd => ?_⟩
  obtain rfl := Option.some.inj hd
  decide

theorem Parts.parts {ls ls' : List Lexeme} (h : Parts ls) (h' : Parts ls') :
    Parts (ls ++ ls') := by
  intro rest hrest
  rw [List.append_assoc]
  exact h _ (h' rest hrest).1

theorem Parts.fits {ls : List Lexeme} (h : Parts ls) : Fits ls :=
  fun rest hrest _ => (h rest hrest).1

theorem parts_operator {c : Char} (h : isMark c = true) : Parts (operator c) :=
  parts_blank.parts ((parts_mark h).parts parts_blank)

/-- Lists that fit can be put side by side with a separator between them. -/
theorem fits_separated {separator : List Lexeme} (hs : Parts separator) {lss : List (List Lexeme)}
    (h : ∀ ls ∈ lss, Fits ls) : Fits (separated separator lss) := by
  induction lss with
  | nil => exact fits_nil
  | cons ls lss ih =>
      have hls := h ls List.mem_cons_self
      -- The separator stands between two lists only.
      cases lss with
      | nil => exact hls
      | cons ls' lss =>
          rw [separated]
          · exact hls.between hs (ih fun m hm => h m (List.mem_cons_of_mem ls hm))
          · exact List.cons_ne_nil _ _

theorem fits_grouped (needed : Bool) {ls : List Lexeme} (h : Fits ls) :
    Fits (grouped needed ls) := by
  unfold grouped
  cases needed with
  | false => exact h
  | true => exact (parts_mark (by decide)).append (h.append (parts_mark (by decide)))

/-- A comment fits in front, as it ends where its text is over. -/
theorem fits_comment (depth : Nat) (description : Option String) {ls : List Lexeme}
    (h : Fits ls) : Fits (commentLexemes depth description ++ ls) := by
  unfold commentLexemes
  split
  · exact h
  · next text =>
      dsimp only
      split
      · exact h
      · have hindent : Soft (indentation depth).toList := by
          rw [toList_indentation]
          exact soft_of_blanks fun c hc => (List.mem_replicate.mp hc).2
        -- The lines of the comment are escaped, so none of them ends it early.
        have hbody := noEnd_comment hindent (noEnd_shownLines (Text.trim text.toList))
        exact Fits.cons (.blanks _) trivial rfl
          (Fits.cons (.comment _) hbody rfl (Fits.cons (.token .newline) trivial rfl h))

/-- Entries that fit can be put below one another. -/
theorem fits_joinedEntries {entries : List (List Lexeme × Bool)} (h : ∀ e ∈ entries, Fits e.1) :
    Fits (joinedEntries entries) := by
  induction entries with
  | nil => exact fits_nil
  | cons e entries ih =>
      have he := h e List.mem_cons_self
      cases entries with
      | nil => exact he
      | cons e' entries =>
          have hgap : Parts (if e.2 || e'.2 then [.token .newline, .token .newline]
              else [.token .newline]) := by
            split
            · exact parts_newline.parts parts_newline
            · exact parts_newline
          exact he.between hgap (ih fun m hm => h m (List.mem_cons_of_mem e hm))

/-- Entries that fit can be put in braces. -/
theorem fits_braced (depth : Nat) {entries : List (List Lexeme × Bool)}
    (h : ∀ e ∈ entries, Fits e.1) : Fits (bracedEntries depth entries) := by
  unfold bracedEntries
  split
  · exact ((parts_mark (by decide)).parts (parts_mark (by decide))).fits
  -- The indentation before the brace is the one lexeme here that may be empty.
  · have hclose : Parts [.token .newline, .blanks (2 * depth), .token (.mark '\x7d')] := by
      intro rest hrest
      have hbrace := parts_mark (c := '\x7d') (by decide) rest hrest
      exact parts_newline _ ⟨trivial, fun hw => absurd hw Bool.false_ne_true, hbrace.1⟩
    have hopen : Parts [.token (.mark '\x7b'), .token .newline] :=
      (parts_mark (by decide)).parts parts_newline
    rw [List.append_assoc]
    exact hopen.append ((fits_joinedEntries h).append hclose)

end Spaces

end Syntax

/-- The references in a tree are words. -/
def TypeNode.Plain (n : TypeNode) : Prop :=
  ∀ m ∈ n.nodes, ∀ r, m.shape = .reference r → IsWord r.path

section Trees

/-- A key fits: in quotes it ends itself, and without them it is a word. -/
theorem fits_name (name : PropertyName) : Fits name.lexemes := by
  cases name with
  | field name =>
      unfold PropertyName.lexemes
      dsimp only
      split
      · exact fits_quoted name
      · next h => exact fits_word (isWord_of_not_needsQuotes (Bool.eq_false_iff.mpr h))
  | index =>
      have hkey : IsWord "key" := by decide
      have hstring : IsWord "string" := by decide
      have hcolon : Parts [.token (.mark ':'), .blanks 1] :=
        (parts_mark (by decide)).parts parts_blank
      refine (parts_mark (c := '[') (by decide)).append ?_
      exact (fits_word hkey).between hcolon ((fits_word hstring).append (parts_mark (by decide)))

theorem fits_literal {m : Literal} (h : m.Plain) : Fits [m.lexeme] := by
  cases m with
  | quoted text => exact fits_quoted text
  | raw token => exact fits_word h

/-- A reference fits when the name it starts with is a word. -/
theorem fits_reference {r : TypeRef} (h : IsWord r.path) : Fits r.lexemes := by
  unfold TypeRef.lexemes
  split
  · next property _ =>
      refine (fits_word h).between (parts_mark (c := '[') (by decide)) ?_
      exact (fits_quoted property).append (parts_mark (by decide))
  · exact fits_word h

/-- The members of a combination fit when each of them does. -/
theorem fits_members {depth : Nat} {ns : List TypeNode}
    (ih : ∀ n ∈ ns, ∀ depth, Fits (n.lexemes depth)) {c : Char} (hc : isMark c = true)
    (intersection : Bool) :
    Fits (separated (operator c) (memberLexemes depth intersection ns)) := by
  rw [memberLexemes_eq]
  refine fits_separated (parts_operator hc) fun ls hls => ?_
  rcases List.mem_map.mp hls with ⟨n, hn, rfl⟩
  exact fits_grouped _ (ih n hn depth)

/-- What stands behind a key fits there. -/
theorem fits_entry {key value : List Lexeme} (hk : Fits key) (hv : Fits value)
    (optional : Bool) : Fits (key ++ entryTail optional value) := by
  have hcolon : Parts [.token (.mark ':'), .blanks 1] :=
    (parts_mark (by decide)).parts parts_blank
  have hoptional : Parts [.token (.mark '?'), .token (.mark ':'), .blanks 1] :=
    (parts_mark (by decide)).parts hcolon
  have hundefined : Fits [.token (.word "undefined")] :=
    fits_word (isWord_fixed "undefined" (by decide))
  unfold entryTail
  cases optional with
  | false =>
      rw [if_neg Bool.false_ne_true, ← List.append_assoc]
      exact hk.between hcolon hv
  | true =>
      have hvalue := hv.between (parts_operator (c := '|') (by decide)) hundefined
      rw [List.append_assoc] at hvalue
      rw [if_pos rfl, List.append_assoc, ← List.append_assoc]
      exact hk.between hoptional hvalue

/-- A property fits with its comment, key and value. -/
theorem fits_property {depth : Nat} {q : Property}
    (ih : ∀ n ∈ q.values, ∀ depth, Fits (n.lexemes depth)) : Fits (q.lexemes depth) := by
  rcases q with ⟨name, required, description, values⟩
  have hvalue : Fits (separated (operator '&') (memberLexemes depth false values)) :=
    fits_members ih (by decide) false
  rw [Property.lexemes, List.append_assoc, List.append_assoc, List.singleton_append]
  exact fits_comment depth description
    (Fits.cons (.blanks _) trivial rfl (fits_entry (fits_name name) hvalue _))

/-- The type of binary content is a word, or two of them in parentheses. -/
theorem fits_binary (kind : BinaryKind) : Fits kind.lexemes := by
  cases kind with
  | download => exact fits_word (isWord_fixed "Blob" (by decide))
  | upload =>
      have hfile := fits_word (isWord_fixed "File" (by decide))
      have hstream := fits_word (isWord_fixed "ReadStream" (by decide))
      exact fits_grouped true (hfile.between (parts_operator (by decide)) hstream)

/-- An object fits when the values of its properties do. -/
theorem fits_object {properties : List Property} (depth : Nat)
    (ih : ∀ m ∈ (Shape.object properties).children, ∀ depth, Fits (m.lexemes depth)) :
    Fits ((Shape.object properties).lexemes depth) := by
  rw [Shape.lexemes, propertyLexemes_eq]
  refine fits_braced depth fun e he => ?_
  rcases List.mem_map.mp he with ⟨q, hq, rfl⟩
  exact fits_property fun m hm => ih m (List.mem_flatMap.mpr ⟨q, hq, hm⟩)

theorem fits_array {item : TypeNode} {depth : Nat} (h : Fits (item.lexemes depth)) :
    Fits ((Shape.array item).lexemes depth) := by
  rw [Shape.lexemes]
  refine (fits_grouped _ h).append ?_
  exact (parts_mark (by decide)).parts (parts_mark (by decide))

theorem fits_literals {members : List Literal} (h : ∀ m ∈ members, m.Plain) (depth : Nat) :
    Fits ((Shape.literals members).lexemes depth) := by
  rw [Shape.lexemes]
  refine fits_separated (parts_operator (by decide)) fun ls hls => ?_
  rcases List.mem_map.mp hls with ⟨m, hm, rfl⟩
  exact fits_literal (h m hm)

/-- The lexemes of a tree can stand between others. -/
theorem TypeNode.fits_lexemes {n : TypeNode} (hw : n.WellFormed) (hp : n.Plain) :
    ∀ depth, Fits (n.lexemes depth) := by
  induction n using TypeNode.inductionOn with
  -- The induction is on the node; of the node itself only the references matter.
  | step n ih =>
      intro depth
      rcases n with ⟨nullable, description, shape⟩
      have hroot : shape.WellShaped := hw _ (TypeNode.mem_nodes_self _)
      have hchild : ∀ m ∈ shape.children, ∀ depth, Fits (m.lexemes depth) := by
        intro m hm
        exact ih m hm (fun k hk => hw k (TypeNode.mem_nodes_of_child hm hk))
          fun k hk => hp k (TypeNode.mem_nodes_of_child hm hk)
      have hshape : Fits (shape.lexemes depth) := by
        cases shape with
        | object properties => exact fits_object depth hchild
        | combined combinator members =>
            rw [Shape.lexemes]
            refine fits_members hchild ?_ _
            cases combinator <;> decide
        | array item => exact fits_array (hchild item (List.mem_singleton.mpr rfl) depth)
        | literals members => exact fits_literals hroot.2 depth
        | reference target => exact fits_reference (hp _ (TypeNode.mem_nodes_self _) target rfl)
        | binary kind => exact fits_binary kind
        | primitive type => exact fits_word (isWord_fixed _ (by cases type <;> decide))
        | status code => exact fits_word (isWord_nat code)
        | format format => exact fits_word (isWord_fixed _ (by cases format <;> decide))
      rw [TypeNode.lexemes]
      split
      · exact hshape.between (parts_operator (by decide))
          (fits_word (isWord_fixed "null" (by decide)))
      · exact hshape

/-- The tokens of the text of a tree whose references are words. -/
theorem TypeNode.lex_render {n : TypeNode} (hw : n.WellFormed) (hp : n.Plain) (depth : Nat) :
    lex (n.render depth).toList = tokens (n.lexemes depth) := by
  rw [← n.spelled_lexemes depth]
  -- Behind the whole text nothing follows, so it need not keep anything off.
  have hspaced := TypeNode.fits_lexemes hw hp depth [] trivial fun c hc => by
    exact absurd hc (by simp only [spelled_nil, List.head?_nil, reduceCtorEq, not_false_eq_true])
  rw [List.append_nil] at hspaced
  exact lex_spell hspaced

end Trees

section Names

variable {setting : Setting}

/-- A reference of a document is a word when its namespace is one and the keys of the
    components start with characters of words. -/
theorem Setting.Names.isWord {r : TypeRef} (h : setting.Names r)
    (hspace : IsWord setting.options.space)
    (hkeys : ∀ e ∈ setting.components.entryKeys, ∀ c, e.2.toList.head? = some c →
      isWordChar c = true) : IsWord r.path := by
  rcases h with ⟨pointer, hpointer⟩
  rcases typeRef_yields hpointer with ⟨⟨e, he, hname⟩, hr⟩
  have hpoint : IsWord "." := by decide
  unfold TypeRef.path
  rw [hr, ← hname]
  exact (hspace.append hpoint.2).append (isWord_typeName (hkeys e he)).2

/-- So the references in a built tree are words then. -/
theorem TypeNode.plain_of_built {n : TypeNode} (h : setting.BuiltTree n)
    (hspace : IsWord setting.options.space)
    (hkeys : ∀ e ∈ setting.components.entryKeys, ∀ c, e.2.toList.head? = some c →
      isWordChar c = true) : n.Plain :=
  fun m hm r hr => ((h m hm).2 r hr).isWord hspace hkeys

end Names

end RouteTypes
