import RouteTypes.Proofs.Syntax.Spacing

/-!
# Descriptions in Comments

What a comment looks like, whatever the description in it says.

A comment is put together from rows: the mark that opens it, a row for each line of the
description, and the mark that closes it, or all of that in one row. Every row starts with
the indentation and none of them holds a line feed, because the description was cut at its
line feeds (`Comment.around_eq_rows`). The indentation is therefore in the rows alone, and
moving a comment to the right is moving its rows (`Comment.rows_indented`).

That no description closes its comment early is a matter of neighbours. The end marks of
the description are broken up before it is cut into lines, and cutting and trimming only
take characters away from the ends of lines. What is put next to a line is a blank or a
line feed, so no line can become part of an end mark (`Comment.end_around`).

## Main definitions

* `IsIndentation`: Blanks that can stand in front of a line.
* `Comment.row`, `Comment.rows`: The rows of a comment.
* `Comment.IsClosed`: A comment that ends at its last line only, row by row behind its
  indentation.
* `Comment.IsOneRow`: A comment on one row.

## Theorems

* `Comment.shownLines_singleton_iff`: When a description has one line.
* `Comment.around_eq_rows`: A comment is made of rows.
* `Comment.exists_of_mem_rows`: Every row starts with the indentation.
* `Comment.rows_indented`: Moving a comment to the right moves its rows.
* `Comment.end_around`: A comment ends at its last row only.
* `docComment_isClosed`: The comment of a description.
-/

namespace RouteTypes

open Syntax

/-- Blanks that can stand in front of a line: any but a line feed. -/
def IsIndentation (indent : List Char) : Prop :=
  ∀ c ∈ indent, Text.isBlank c = true ∧ c ≠ '\n'

theorem isIndentation_indentation (depth : Nat) : IsIndentation (indentation depth).toList := by
  intro c hc
  rw [toList_indentation] at hc
  rw [(List.mem_replicate.mp hc).2]
  decide

namespace Comment

section Lines

/-- Reading lines gives at least one when there is anything to read. -/
theorem lines_go_ne_nil {line cs : List Char} (h : line ≠ [] ∨ cs ≠ []) :
    Text.lines.go line cs ≠ [] := by
  induction cs generalizing line with
  | nil =>
      have hline : line ≠ [] := h.resolve_right fun hne => hne rfl
      rw [Text.lines.go, if_neg fun hempty => hline (List.isEmpty_iff.mp hempty)]
      exact List.cons_ne_nil _ _
  -- A line feed ends a line, so there is one. Otherwise the line that was begun has a character.
  | cons c cs ih =>
      rw [Text.lines.go]
      split
      · exact List.cons_ne_nil _ _
      · exact ih (Or.inl (List.cons_ne_nil _ _))

/-- A text without line feeds is one line. -/
theorem lines_go_of_not_mem {line cs : List Char} (h : '\n' ∉ cs) (hne : line ≠ [] ∨ cs ≠ []) :
    Text.lines.go line cs = [line.reverse ++ cs] := by
  induction cs generalizing line with
  | nil =>
      have hline : line ≠ [] := hne.resolve_right fun hne => hne rfl
      rw [Text.lines.go, if_neg fun hempty => hline (List.isEmpty_iff.mp hempty),
        List.append_nil]
  | cons c cs ih =>
      rw [List.mem_cons, not_or] at h
      rw [Text.lines.go, if_neg fun hc => h.1 hc.symm,
        ih h.2 (Or.inl (List.cons_ne_nil _ _)), List.reverse_cons, List.append_assoc,
        List.singleton_append]

/-- A text that goes on after a line feed is more than one line. -/
theorem exists_lines_go {line cs : List Char} (h : '\n' ∈ cs) (hlast : cs.getLast? ≠ some '\n') :
    ∃ first second rest, Text.lines.go line cs = first :: second :: rest := by
  induction cs generalizing line with
  | nil => exact absurd h List.not_mem_nil
  -- The last character is no line feed, so something follows the one that is met.
  | cons c cs ih =>
      have hcs : cs ≠ [] := by
        rintro rfl
        rw [List.mem_singleton] at h
        rw [h] at hlast
        exact hlast rfl
      rw [Text.lines.go]
      split
      · have hne : Text.lines.go [] cs ≠ [] := lines_go_ne_nil (Or.inr hcs)
        rcases List.exists_cons_of_ne_nil hne with ⟨second, rest, hrest⟩
        exact ⟨_, second, rest, by rw [hrest]⟩
      · next hc =>
          rw [List.getLast?_cons_of_ne_nil hcs] at hlast
          exact ih ((List.mem_cons.mp h).resolve_left fun heq => hc heq.symm) hlast

/-- No line holds a line feed. -/
theorem newline_not_mem_lines_go {line cs : List Char} (h : '\n' ∉ line) :
    ∀ l ∈ Text.lines.go line cs, '\n' ∉ l := by
  induction cs generalizing line with
  | nil =>
      intro l hl
      rw [Text.lines.go] at hl
      split at hl
      · exact absurd hl List.not_mem_nil
      · rw [List.mem_singleton.mp hl, List.mem_reverse]
        exact h
  | cons c cs ih =>
      intro l hl
      rw [Text.lines.go] at hl
      split at hl
      -- A line ends here. Dropping a carriage return adds nothing to it.
      · rcases List.mem_cons.mp hl with rfl | hl
        · intro hmem
          have hdrop : Text.dropReturn line.reverse ⊆ line.reverse := by
            unfold Text.dropReturn
            split
            · exact List.dropLast_subset _
            · exact List.Subset.refl _
          exact h (List.mem_reverse.mp (hdrop hmem))
        · exact ih List.not_mem_nil l hl
      · next hc =>
          refine ih (fun hmem => ?_) l hl
          rcases List.mem_cons.mp hmem with heq | hmem
          · exact hc heq.symm
          · exact h hmem

/-- Breaking up end marks adds no line feed and removes none. -/
theorem newline_mem_escape_iff (cs : List Char) : '\n' ∈ escape cs ↔ '\n' ∈ cs := by
  fun_induction escape cs with
  | case1 rest ih => simp [ih]
  | case2 c rest _ ih => simp [ih]
  | case3 => exact Iff.rfl

/-- Breaking up end marks leaves the last character where it is. -/
theorem getLast?_escape (cs : List Char) : (escape cs).getLast? = cs.getLast? := by
  -- Of the two characters of an end mark the second stays last.
  fun_induction escape cs with
  | case1 rest ih => simp [List.getLast?_cons, ih]
  | case2 c rest _ ih => simp [List.getLast?_cons, ih]
  | case3 => rfl

/-- The last character of a trimmed text is not blank. -/
theorem isBlank_getLast?_trim {cs : List Char} {c : Char} (h : (Text.trim cs).getLast? = some c) :
    Text.isBlank c = false := by
  rcases List.getLast?_eq_some_iff.mp h with ⟨front, hfront⟩
  have hne : (Text.trimStart cs).rdropWhile Text.isBlank ≠ [] := by
    change Text.trim cs ≠ []
    rw [hfront]
    exact List.append_ne_nil_of_right_ne_nil _ (List.cons_ne_nil _ _)
  -- What is dropped from the end are blanks, so the last one that is left is none.
  have hlast := List.rdropWhile_last_not Text.isBlank _ hne
  have hc : ((Text.trimStart cs).rdropWhile Text.isBlank).getLast hne = c := by
    rw [List.getLast_eq_iff_getLast?_eq_some]
    exact h
  rw [hc] at hlast
  exact Bool.eq_false_iff.mpr hlast

/-- Nothing is left of a text exactly when it is blank. -/
theorem trim_eq_nil_iff {cs : List Char} :
    Text.trim cs = [] ↔ ∀ c ∈ cs, Text.isBlank c = true := by
  change (Text.trimStart cs).rdropWhile Text.isBlank = [] ↔ _
  rw [List.rdropWhile_eq_nil_iff, Text.trimStart]
  constructor
  · intro h c hc
    rw [← List.takeWhile_append_dropWhile (p := Text.isBlank) (l := cs), List.mem_append] at hc
    rcases hc with hc | hc
    · exact List.mem_takeWhile_imp hc
    · exact h c hc
  · exact fun h c hc => h c ((List.dropWhile_suffix Text.isBlank).subset hc)

/-- The lines that a comment shows hold no line feed. -/
theorem newline_not_mem_shownLines {text line : List Char} (h : line ∈ shownLines text) :
    '\n' ∉ line := by
  rcases List.mem_map.mp h with ⟨l, hl, rfl⟩
  intro hmem
  have hline : '\n' ∉ l := by
    unfold Text.lines at hl
    split at hl
    · exact absurd hl List.not_mem_nil
    · exact newline_not_mem_lines_go List.not_mem_nil l hl
  exact hline ((isPrefix_trimEnd l).subset hmem)

/-- A trimmed description shows one line exactly when there is no line feed in it. -/
theorem shownLines_singleton_iff {text : List Char} (h : Text.trim text ≠ []) :
    (∃ line, shownLines (Text.trim text) = [line]) ↔ '\n' ∉ Text.trim text := by
  generalize ht : Text.trim text = cs at h
  -- Escaping keeps the last character, and so whether there is one.
  have hne : escape cs ≠ [] := by
    rw [ne_eq, ← List.getLast?_eq_none_iff, getLast?_escape, List.getLast?_eq_none_iff]
    exact h
  have hlines : Text.lines (escape cs) = Text.lines.go [] (escape cs) := by
    unfold Text.lines
    split
    · next hnil => exact absurd hnil hne
    · rfl
  have hlast : (escape cs).getLast? ≠ some '\n' := by
    rw [getLast?_escape, ← ht]
    exact fun hc => absurd (isBlank_getLast?_trim hc) (by decide)
  rw [shownLines, hlines, ← newline_mem_escape_iff cs]
  constructor
  · rintro ⟨line, hline⟩ hmem
    have hsplit : ∃ first second rest,
        Text.lines.go [] (escape cs) = first :: second :: rest := exists_lines_go hmem hlast
    -- Two lines at least are more than the one that is shown.
    rcases hsplit with ⟨first, second, rest, hrest⟩
    rw [hrest] at hline
    simp at hline
  · intro hmem
    rw [lines_go_of_not_mem hmem (Or.inr hne)]
    exact ⟨_, rfl⟩

end Lines

section Rows

/-- The row of a block for a line. -/
def row (indent line : List Char) : List Char :=
  if line.isEmpty then indent ++ [' ', '*'] else indent ++ [' ', '*', ' '] ++ line

/-- The rows of the comment around some lines, without the line feeds that end them. -/
def rows (indent : List Char) : List (List Char) → List (List Char)
  | [line] => [indent ++ "/** ".toList ++ line ++ " */".toList]
  | lines => (indent ++ "/**".toList) :: lines.map (row indent) ++ [indent ++ " */".toList]

theorem blockLine_eq (indent line : List Char) :
    blockLine indent line = row indent line ++ ['\n'] := by
  unfold blockLine row
  split
  · simp
  · rfl

/-- A comment is made of rows. -/
theorem around_eq_rows (indent : List Char) (lines : List (List Char)) :
    around indent lines = (rows indent lines).flatMap (· ++ ['\n']) := by
  have hblocks : lines.flatMap (blockLine indent)
      = (lines.map (row indent)).flatMap (· ++ ['\n']) := by
    rw [List.flatMap_map]
    exact congrArg (lines.flatMap ·) (funext (blockLine_eq indent))
  fun_cases rows indent lines with
  | case1 line => simp [around]
  | case2 lines hne =>
      rw [around]
      · rw [hblocks]
        simp
      · exact hne

/-- Every row is the indentation and something behind it, without a line feed if the lines
    are without one. -/
theorem exists_of_mem_rows {indent : List Char} {lines : List (List Char)}
    (hlines : ∀ line ∈ lines, '\n' ∉ line) {r : List Char} (h : r ∈ rows indent lines) :
    ∃ rest, rest ≠ [] ∧ '\n' ∉ rest ∧ r = indent ++ rest := by
  fun_cases rows indent lines with
  -- One line: the row holds both marks, and the line between them.
  | case1 line =>
      rw [rows, List.mem_singleton] at h
      have hline : '\n' ∉ line := hlines line List.mem_cons_self
      refine ⟨"/** ".toList ++ line ++ " */".toList, by simp, ?_, by simp [h]⟩
      simpa using hline
  | case2 lines hne =>
      rw [rows] at h
      · rw [List.cons_append, List.mem_cons, List.mem_append, List.mem_singleton,
          List.mem_map] at h
        rcases h with rfl | ⟨line, hmem, rfl⟩ | rfl
        · exact ⟨"/**".toList, by decide, by decide, rfl⟩
        · have hline := hlines line hmem
          unfold row
          split
          · exact ⟨[' ', '*'], by decide, by decide, rfl⟩
          · refine ⟨[' ', '*', ' '] ++ line, by simp, ?_, by simp⟩
            simpa using hline
        · exact ⟨" */".toList, by decide, by decide, rfl⟩
      · exact hne

/-- Moving a comment to the right moves its rows. -/
theorem rows_indented (pad indent : List Char) (lines : List (List Char)) :
    rows (pad ++ indent) lines = (rows indent lines).map (pad ++ ·) := by
  have hrow : ∀ line, row (pad ++ indent) line = pad ++ row indent line := by
    intro line
    unfold row
    split <;> simp
  fun_cases rows indent lines with
  | case1 line => simp [rows]
  | case2 lines hne =>
      rw [rows]
      · simp [hrow]
      · exact hne

end Rows

section Ends

/-- A text without stars can stand in front of one without end marks. -/
theorem noEnd_of_not_mem {cs cs' : List Char} (h : '*' ∉ cs) (h' : NoEnd cs') :
    NoEnd (cs ++ cs') := by
  induction cs with
  | nil => exact h'
  | cons c cs ih =>
      rw [List.mem_cons, not_or] at h
      exact noEnd_cons (fun hc => h.1 hc.symm) (ih h.2)

/-- The end mark of a line behind a text without end marks is the only one in it. -/
theorem end_eq_of_noEnd {front before after : List Char} (h : NoEnd (front ++ ['*']))
    (heq : front ++ ['*'] ++ ['/', '\n'] = before ++ ['*', '/'] ++ after) : after = ['\n'] := by
  -- An earlier mark would lie in the text.
  have hlate : ¬ (before ++ ['*', '/']).length ≤ (front ++ ['*']).length := by
    intro hle
    have hprefix : before ++ ['*', '/'] <+: front ++ ['*'] :=
      List.prefix_of_prefix_length_le (heq.symm ▸ List.prefix_append _ _)
        (List.prefix_append _ _) hle
    have hmark : NoEnd ['*', '/'] :=
      List.IsChain.infix h ((List.suffix_append before _).isInfix.trans hprefix.isInfix)
    exact (List.isChain_cons_cons.mp hmark).1 ⟨rfl, rfl⟩
  have hlength := congrArg List.length heq
  have hlast := congrArg List.getLast? heq
  simp only [List.length_append, List.length_cons, List.length_nil] at hlate hlength
  -- So at most one character follows, and it is the last one.
  -- Behind one character there is room for the line feed and nothing else.
  rcases after with _ | ⟨c, _ | ⟨d, rest⟩⟩
  · simp at hlast
  · simp at hlast
    rw [hlast]
  · simp only [List.length_cons] at hlength
    omega

/-- Neither a star nor a slash is blank, so an indentation has no part in an end mark. -/
theorem not_mem_of_isIndentation {indent : List Char} (h : IsIndentation indent) {c : Char}
    (hc : Text.isBlank c = false) : c ∉ indent :=
  fun hmem => Bool.false_ne_true (hc.symm.trans (h c hmem).1)

theorem soft_of_isIndentation {indent : List Char} (h : IsIndentation indent) : Soft indent := by
  have hstar : '*' ∉ indent := not_mem_of_isIndentation h (by decide)
  have hslash : '/' ∉ indent := not_mem_of_isIndentation h (by decide)
  refine ⟨?_, fun hhead => hslash (List.mem_of_mem_head? hhead)⟩
  rw [← List.append_nil indent]
  exact noEnd_of_not_mem hstar List.IsChain.nil

/-- The comment around some lines ends at its last row only. -/
theorem end_around {indent : List Char} (hindent : IsIndentation indent)
    {lines : List (List Char)} (hlines : ∀ line ∈ lines, NoEnd line) {before after : List Char}
    (h : around indent lines = before ++ ['*', '/'] ++ after) : after = ['\n'] := by
  have hbody := noEnd_comment (soft_of_isIndentation hindent) hlines
  have hhead : (commentBody indent lines).head? ≠ some '/' := by
    unfold commentBody
    split <;> simp
  -- The opening mark does not end the comment, and neither does half a mark at its end.
  have hopened : NoEnd ('/' :: '*' :: commentBody indent lines) := by
    refine noEnd_cons (by decide) (List.isChain_cons.mpr ⟨fun c hc hend => ?_, hbody⟩)
    exact hhead (hend.2 ▸ hc)
  have hstar : Soft ['*'] := ⟨List.isChain_singleton _, by decide⟩
  have hindented := noEnd_of_not_mem (not_mem_of_isIndentation hindent (by decide)) hopened
  have hsplit : around indent lines
      = indent ++ '/' :: '*' :: commentBody indent lines ++ ['*'] ++ ['/', '\n'] := by
    rw [comment_around]
    simp
  exact end_eq_of_noEnd (noEnd_append hindented hstar) (hsplit.symm.trans h)

end Ends

/-- A comment that ends at its last row only. Every row is ended by a line feed and starts
    with the indentation, and the first one goes on with the mark that opens a comment. -/
structure IsClosed (indent comment : List Char) : Prop where
  opens : indent ++ "/**".toList <+: comment
  closes : "*/\n".toList <:+ comment
  closes_once : ∀ before after, comment = before ++ "*/".toList ++ after → after = ['\n']
  indented : ∃ rows : List (List Char), comment = rows.flatMap (· ++ ['\n']) ∧
    ∀ r ∈ rows, '\n' ∉ r ∧ indent <+: r

/-- A comment on one row. -/
def IsOneRow (indent comment : List Char) : Prop :=
  ∃ line, '\n' ∉ line ∧ comment = indent ++ "/** ".toList ++ line ++ " */\n".toList

section Forms

variable {indent : List Char} {lines : List (List Char)}

/-- The comment around lines without end marks and line feeds is closed. -/
theorem isClosed_around (hindent : IsIndentation indent) (hends : ∀ line ∈ lines, NoEnd line)
    (hfeeds : ∀ line ∈ lines, '\n' ∉ line) : IsClosed indent (around indent lines) where
  opens := by
    rw [comment_around]
    unfold commentBody
    split <;> simp
  closes := by
    rw [comment_around]
    -- The last row ends with the mark and a line feed, for one line and for several.
    exact ⟨indent ++ '/' :: '*' :: commentBody indent lines, by simp⟩
  closes_once := fun _ _ => end_around hindent hends
  indented := by
    refine ⟨rows indent lines, around_eq_rows indent lines, fun r hr => ?_⟩
    rcases exists_of_mem_rows hfeeds hr with ⟨rest, _, hrest, rfl⟩
    refine ⟨fun hmem => ?_, List.prefix_append _ _⟩
    rcases List.mem_append.mp hmem with hmem | hmem
    · exact (hindent _ hmem).2 rfl
    · exact hrest hmem

/-- The comment around some lines is on one row when there is one line. -/
theorem isOneRow_around_iff (hfeeds : ∀ line ∈ lines, '\n' ∉ line) :
    IsOneRow indent (around indent lines) ↔ ∃ line, lines = [line] := by
  constructor
  · rintro ⟨line, _, heq⟩
    unfold around at heq
    split at heq
    · exact ⟨_, rfl⟩
    · -- The first row of a block has nothing behind the opening mark.
      simp at heq
  · rintro ⟨line, rfl⟩
    exact ⟨line, hfeeds line List.mem_cons_self, rfl⟩

end Forms

end Comment

section Descriptions

variable {text : String}

/-- The comment of a description that is not blank is the one around its lines. -/
theorem toList_docComment (indent : String) (h : Text.trim text.toList ≠ []) :
    (docComment (some text) indent).toList
      = Comment.around indent.toList (Comment.shownLines (Text.trim text.toList)) := by
  unfold docComment
  dsimp only
  rw [if_neg fun hempty => h (List.isEmpty_iff.mp hempty), String.toList_ofList]

/-- A text gives no comment exactly when nothing but blanks is in it. -/
theorem docComment_eq_empty_iff (indent : String) :
    docComment (some text) indent = "" ↔ ∀ c ∈ text.toList, Text.isBlank c = true := by
  rw [← Comment.trim_eq_nil_iff]
  constructor
  · intro h
    -- Any other text has a comment, which is not empty.
    by_contra hne
    have hlist := toList_docComment indent hne
    rw [h, comment_around] at hlist
    simp at hlist
  · intro h
    unfold docComment
    dsimp only
    rw [h]
    rfl

/-- A description gives no comment exactly when it is absent or blank. Any other comment is
    closed, and it is on one row exactly when the trimmed description is one line. -/
theorem docComment_isClosed {indent : String} (hindent : IsIndentation indent.toList) :
    docComment none indent = "" ∧
      (∀ text, docComment (some text) indent = "" ↔
        ∀ c ∈ text.toList, Text.isBlank c = true) ∧
      ∀ text, docComment (some text) indent ≠ "" →
        Comment.IsClosed indent.toList (docComment (some text) indent).toList ∧
          (Comment.IsOneRow indent.toList (docComment (some text) indent).toList ↔
            '\n' ∉ Text.trim text.toList) := by
  refine ⟨rfl, fun _ => docComment_eq_empty_iff indent, fun text hne => ?_⟩
  have htrim : Text.trim text.toList ≠ [] := by
    rwa [ne_eq, Comment.trim_eq_nil_iff, ← docComment_eq_empty_iff indent]
  have hfeeds : ∀ line ∈ Comment.shownLines (Text.trim text.toList), '\n' ∉ line :=
    fun _ => Comment.newline_not_mem_shownLines
  rw [toList_docComment indent htrim, Comment.isOneRow_around_iff hfeeds,
    Comment.shownLines_singleton_iff htrim]
  exact ⟨Comment.isClosed_around hindent (noEnd_shownLines _) hfeeds, Iff.rfl⟩

/-- A description that would end its comment three times, if it were not for the
    backslashes. -/
theorem docComment_isClosed_stars :
    IsIndentation "  ".toList ∧
      docComment (some " */ ends *\n\n/ and **/\n") "  "
        = "  /**\n   * *\\/ ends *\n   *\n   * / and **\\/\n   */\n" ∧
      Comment.IsClosed "  ".toList
        (docComment (some " */ ends *\n\n/ and **/\n") "  ").toList := by
  have hindent : IsIndentation "  ".toList := isIndentation_indentation 1
  have htext : docComment (some " */ ends *\n\n/ and **/\n") "  "
      = "  /**\n   * *\\/ ends *\n   *\n   * / and **\\/\n   */\n" := by decide
  refine ⟨hindent, htext, ?_⟩
  exact ((docComment_isClosed hindent).2.2 _ (by rw [htext]; decide)).1

end Descriptions

end RouteTypes
