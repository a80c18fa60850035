import RouteTypes.Proofs.Descriptions

/-!
# Depth and Indentation

What the depth does to the text of a tree.

The text at some depth is the text at the margin with blanks in front of its lines, two
for each level. Empty lines get none, and neither does the first line of a node, which
goes on behind a key. Every part of a text works its indentation out on its own, so this
is not read off one definition. It is proved along the text instead, by a relation between
two texts that are read side by side (`Shifts`). The relation keeps in mind whether a line
has just begun, which is all that decides where blanks have to go. Texts can then be put
together as long as one part begins where the other ended (`Shifts.append`).

Names and literals are written as they are. A line feed in one of them would begin a line
that is no line of the tree, so there must be none (`TypeNode.Unbroken`). Descriptions may
have any number of them, because a comment writes every line of a description on a row
with the indentation in front.

## Main definitions

* `Shifts`: A text and the same text with blanks in front of its lines.
* `TypeNode.Unbroken`, `Property.Unbroken`: No name in a tree holds a line feed.
* `linesOf`: The lines of a text, cut at its line feeds.
* `shiftLine`: A line with blanks in front, unless it is empty.

## Theorems

* `Shifts.append`: Shifted texts can be put one after another.
* `Shifts.lines`: The lines of a shifted text.
* `Shape.render_shifts`: The text of a shape shifts when those of its children do.
* `TypeNode.render_shifts`, `Property.render_shifts`: The text of a tree shifts with its
  depth.
* `render_shiftLines`: The lines of a tree at some depth.
-/

namespace RouteTypes

open Syntax

/-- The second text is the first with blanks in front of its lines but the empty ones. The
    flags say whether a line has just begun, in front of the texts and behind them. -/
inductive Shifts (width : Nat) : Bool → List Char → List Char → Bool → Prop where
  | nil {fresh : Bool} : Shifts width fresh [] [] fresh
  | newline {fresh fresh' : Bool} {cs cs' : List Char} (h : Shifts width true cs cs' fresh') :
      Shifts width fresh ('\n' :: cs) ('\n' :: cs') fresh'
  | first {fresh' : Bool} {c : Char} {cs cs' : List Char} (hc : c ≠ '\n')
      (h : Shifts width false cs cs' fresh') :
      Shifts width true (c :: cs) (List.replicate width ' ' ++ c :: cs') fresh'
  | further {fresh' : Bool} {c : Char} {cs cs' : List Char} (hc : c ≠ '\n')
      (h : Shifts width false cs cs' fresh') :
      Shifts width false (c :: cs) (c :: cs') fresh'

/-- The lines of a text, cut at its line feeds. -/
def linesOf (text : String) : List (List Char) :=
  text.toList.splitOn '\n'

/-- A line with blanks in front. An empty line stays empty. -/
def shiftLine (width : Nat) (line : List Char) : List Char :=
  if line = [] then [] else List.replicate width ' ' ++ line

namespace Shifts

variable {width : Nat} {fresh fresh' fresh'' : Bool} {cs cs' ds ds' : List Char}

/-- Shifted texts can be put one after another. -/
theorem append (h : Shifts width fresh cs cs' fresh') (h' : Shifts width fresh' ds ds' fresh'') :
    Shifts width fresh (cs ++ ds) (cs' ++ ds') fresh'' := by
  induction h with
  | nil => exact h'
  | newline _ ih => exact .newline (ih h')
  | first hc _ ih =>
      rw [List.append_assoc]
      exact .first hc (ih h')
  | further hc _ ih => exact .further hc (ih h')

theorem flat (h : '\n' ∉ cs) : Shifts width false cs cs false := by
  induction cs with
  | nil => exact .nil
  | cons c cs ih =>
      rw [List.mem_cons, not_or] at h
      exact .further (fun hc => h.1 hc.symm) (ih h.2)

theorem flat_first (h : '\n' ∉ cs) (hne : cs ≠ []) :
    Shifts width true cs (List.replicate width ' ' ++ cs) false := by
  rcases List.exists_cons_of_ne_nil hne with ⟨c, cs, rfl⟩
  rw [List.mem_cons, not_or] at h
  exact .first (fun hc => h.1 hc.symm) (flat h.2)

/-- What is put in front of a text lengthens its first line. -/
theorem splitOn_append_of_not_mem {front cs next : List Char} {more : List (List Char)}
    (h : '\n' ∉ front) (hcs : cs.splitOn '\n' = next :: more) :
    (front ++ cs).splitOn '\n' = (front ++ next) :: more := by
  induction front with
  | nil => exact hcs
  | cons c front ih =>
      rw [List.mem_cons, not_or] at h
      have hc : ¬ ((c == '\n') = true) := fun heq => h.1 (beq_iff_eq.mp heq).symm
      rw [List.cons_append, List.splitOn_cons_eq_if_modifyHead, if_neg hc, ih h.2]
      rfl

/-- Every line gets blanks in front that has something in it, but for the line that had
    begun before. -/
theorem lines (h : Shifts width fresh cs cs' fresh') {first : List Char}
    {rest : List (List Char)} (hlines : cs.splitOn '\n' = first :: rest) :
    cs'.splitOn '\n' = (if fresh then shiftLine width first else first)
      :: rest.map (shiftLine width) := by
  induction h generalizing first rest with
  | @nil fresh =>
      obtain ⟨rfl, rfl⟩ := List.cons.inj hlines
      cases fresh <;> rfl
  -- Behind a line feed a line begins, so the rest of the lines begin with one that is shifted.
  | @newline fresh fresh' cs cs' _ ih =>
      rcases List.exists_cons_of_ne_nil (List.splitOn_ne_nil '\n' cs) with ⟨next, more, hmore⟩
      rw [List.splitOn_cons_eq_if_modifyHead, if_pos (by rfl)] at hlines
      obtain ⟨rfl, rfl⟩ := List.cons.inj hlines
      rw [List.splitOn_cons_eq_if_modifyHead, if_pos (by rfl), ih hmore, hmore]
      cases fresh <;> rfl
  | @first fresh' c cs cs' hc _ ih =>
      rcases List.exists_cons_of_ne_nil (List.splitOn_ne_nil '\n' cs) with ⟨next, more, hmore⟩
      have hchar : '\n' ∉ [c] := fun hmem => hc (List.mem_singleton.mp hmem).symm
      -- Blanks do not break the line that they are put on.
      have hblanks : '\n' ∉ List.replicate width ' ' ++ [c] := by
        intro hmem
        rcases List.mem_append.mp hmem with hmem | hmem
        · exact absurd (List.mem_replicate.mp hmem).2 (by decide)
        · exact hchar hmem
      rw [← List.singleton_append, splitOn_append_of_not_mem hchar hmore] at hlines
      obtain ⟨rfl, rfl⟩ := List.cons.inj hlines
      have hline : shiftLine width ([c] ++ next) = List.replicate width ' ' ++ [c] ++ next := by
        rw [shiftLine, if_neg (by simp), List.append_assoc]
      rw [List.append_cons, splitOn_append_of_not_mem hblanks (ih hmore), if_pos rfl, hline]
      rfl
  | @further fresh' c cs cs' hc _ ih =>
      rcases List.exists_cons_of_ne_nil (List.splitOn_ne_nil '\n' cs) with ⟨next, more, hmore⟩
      have hchar : '\n' ∉ [c] := fun hmem => hc (List.mem_singleton.mp hmem).symm
      rw [← List.singleton_append, splitOn_append_of_not_mem hchar hmore] at hlines
      obtain ⟨rfl, rfl⟩ := List.cons.inj hlines
      rw [← List.singleton_append, splitOn_append_of_not_mem hchar (ih hmore)]
      rfl

end Shifts

section Names

/-- The text is on one line. -/
def IsUnbroken (text : String) : Prop :=
  '\n' ∉ text.toList

instance : DecidablePred IsUnbroken := fun text =>
  inferInstanceAs (Decidable ('\n' ∉ text.toList))

/-- The characters of the literal are on one line. -/
def Literal.IsUnbroken : Literal → Prop
  | quoted text => RouteTypes.IsUnbroken text
  | raw token => RouteTypes.IsUnbroken token

instance : DecidablePred Literal.IsUnbroken
  | .quoted text => inferInstanceAs (Decidable (IsUnbroken text))
  | .raw token => inferInstanceAs (Decidable (IsUnbroken token))

/-- The names in the reference are on one line each. -/
structure TypeRef.IsUnbroken (r : TypeRef) : Prop where
  space : RouteTypes.IsUnbroken r.space
  name : RouteTypes.IsUnbroken r.name
  property : ∀ p ∈ r.property, RouteTypes.IsUnbroken p

instance : DecidablePred TypeRef.IsUnbroken := fun r =>
  decidable_of_iff
    (IsUnbroken r.space ∧ IsUnbroken r.name ∧ ∀ p ∈ r.property, IsUnbroken p)
    ⟨fun h => ⟨h.1, h.2.1, h.2.2⟩, fun h => ⟨h.space, h.name, h.property⟩⟩

/-- The name of the property is on one line. -/
def PropertyName.IsUnbroken : PropertyName → Prop
  | field name => RouteTypes.IsUnbroken name
  | index => True

instance : DecidablePred PropertyName.IsUnbroken
  | .field name => inferInstanceAs (Decidable (IsUnbroken name))
  | .index => inferInstanceAs (Decidable True)

/-- The literals and the reference that the shape consists of are on one line each. -/
def Shape.LeavesUnbroken : Shape → Prop
  | .literals members => ∀ m ∈ members, m.IsUnbroken
  | .reference target => target.IsUnbroken
  | .primitive _ | .binary _ | .object _ | .combined _ _ | .array _ | .status _ | .format _ =>
    True

instance : DecidablePred Shape.LeavesUnbroken
  | .literals members => inferInstanceAs (Decidable (∀ m ∈ members, m.IsUnbroken))
  | .reference target => inferInstanceAs (Decidable target.IsUnbroken)
  | .primitive _ | .binary _ | .object _ | .combined _ _ | .array _ | .status _ | .format _ =>
    inferInstanceAs (Decidable True)

/-- The names of the properties of the shape are on one line each. -/
def Shape.NamesUnbroken : Shape → Prop
  | .object properties => ∀ q ∈ properties, q.name.IsUnbroken
  | .primitive _ | .binary _ | .literals _ | .combined _ _ | .array _ | .reference _ | .status _
  | .format _ => True

instance : DecidablePred Shape.NamesUnbroken
  | .object properties => inferInstanceAs (Decidable (∀ q ∈ properties, q.name.IsUnbroken))
  | .primitive _ | .binary _ | .literals _ | .combined _ _ | .array _ | .reference _ | .status _
  | .format _ => inferInstanceAs (Decidable True)

/-- No name and no literal in the tree holds a line feed. -/
def TypeNode.Unbroken (n : TypeNode) : Prop :=
  ∀ m ∈ n.nodes, m.shape.LeavesUnbroken ∧ m.shape.NamesUnbroken

instance : DecidablePred TypeNode.Unbroken := fun n =>
  inferInstanceAs (Decidable (∀ m ∈ n.nodes, m.shape.LeavesUnbroken ∧ m.shape.NamesUnbroken))

/-- Neither its own name nor one in its values holds a line feed. -/
def Property.Unbroken (q : Property) : Prop :=
  q.name.IsUnbroken ∧ ∀ v ∈ q.values, v.Unbroken

instance : DecidablePred Property.Unbroken := fun q =>
  inferInstanceAs (Decidable (q.name.IsUnbroken ∧ ∀ v ∈ q.values, v.Unbroken))

theorem IsUnbroken.append {a b : String} (ha : IsUnbroken a) (hb : IsUnbroken b) :
    IsUnbroken (a ++ b) := by
  unfold IsUnbroken at *
  rw [String.toList_append, List.mem_append, not_or]
  exact ⟨ha, hb⟩

/-- A word is on one line. -/
theorem isUnbroken_of_isWord {text : String} (h : IsWord text) : IsUnbroken text :=
  fun hmem => absurd (h.2 _ hmem) (by decide)

/-- So is a quoted text, since escaping adds no line feed. -/
theorem IsUnbroken.quoted {text : String} (h : IsUnbroken text) :
    IsUnbroken (Text.quoted text) := by
  have hescape : ∀ cs : List Char, '\n' ∉ cs → '\n' ∉ Text.escapeQuoted cs := by
    intro cs hcs
    induction cs with
    | nil => exact List.not_mem_nil
    | cons c cs ih =>
        rw [List.mem_cons, not_or] at hcs
        unfold Text.escapeQuoted
        split <;> simp [ih hcs.2, hcs.1]
  unfold IsUnbroken Text.quoted
  rw [String.toList_ofList]
  simp [hescape _ h]

/-- The name of a property is written on one line when it is on one. -/
theorem PropertyName.IsUnbroken.render {name : PropertyName} (h : name.IsUnbroken) :
    RouteTypes.IsUnbroken name.render := by
  cases name with
  | index =>
      have hkey : RouteTypes.IsUnbroken "[key: string]" := by decide
      exact hkey
  | field name =>
      have hname : RouteTypes.IsUnbroken name := h
      change RouteTypes.IsUnbroken (Text.objectKey name)
      -- A key that needs no quotes is written as it is.
      unfold Text.objectKey
      split
      · exact hname.quoted
      · exact hname

/-- A literal is written on one line when it is on one. -/
theorem Literal.IsUnbroken.render {m : Literal} (h : m.IsUnbroken) :
    RouteTypes.IsUnbroken m.render := by
  cases m with
  | quoted text =>
      have htext : RouteTypes.IsUnbroken text := h
      exact htext.quoted
  | raw token => exact h

/-- A reference is written on one line when its names are. -/
theorem TypeRef.IsUnbroken.render {r : TypeRef} (h : r.IsUnbroken) :
    RouteTypes.IsUnbroken r.render := by
  have hpoint : RouteTypes.IsUnbroken "." := by decide
  have hopen : RouteTypes.IsUnbroken "[" := by decide
  have hclose : RouteTypes.IsUnbroken "]" := by decide
  have hpath := (h.space.append hpoint).append h.name
  unfold TypeRef.render
  split
  · next property hproperty =>
      exact ((hpath.append hopen).append (h.property property hproperty).quoted).append hclose
  · exact hpath

end Names

section Parts

variable {width : Nat} {depth : Nat}

/-- The second text is the first with blanks in front of its lines but the empty ones, when
    the first line goes on or begins one. -/
def ShiftsTo (width : Nat) (fresh : Bool) (a b : String) (fresh' : Bool) : Prop :=
  Shifts width fresh a.toList b.toList fresh'

theorem ShiftsTo.append {fresh fresh' fresh'' : Bool} {a a' b b' : String}
    (h : ShiftsTo width fresh a a' fresh') (h' : ShiftsTo width fresh' b b' fresh'') :
    ShiftsTo width fresh (a ++ b) (a' ++ b') fresh'' := by
  unfold ShiftsTo
  rw [String.toList_append, String.toList_append]
  exact Shifts.append h h'

theorem IsUnbroken.shiftsTo {text : String} (h : IsUnbroken text) :
    ShiftsTo width false text text false :=
  Shifts.flat h

/-- Texts that shift inside a line do so between separators. -/
theorem shiftsTo_joinWith {separator : String} (hs : IsUnbroken separator) {ts ts' : List String}
    (h : List.Forall₂ (fun t t' => ShiftsTo width false t t' false) ts ts') :
    ShiftsTo width false (joinWith separator ts) (joinWith separator ts') false := by
  induction h with
  | nil => exact .nil
  | @cons t t' ts ts' ht hts ih =>
      cases hts with
      | nil => exact ht
      | cons _ _ => exact (ht.append hs.shiftsTo).append ih

/-- They do so in parentheses. -/
theorem shiftsTo_parenthesized (needed : Bool) {t t' : String}
    (h : ShiftsTo width false t t' false) :
    ShiftsTo width false (parenthesized needed t) (parenthesized needed t') false := by
  have hopen : IsUnbroken "(" := by decide
  have hclose : IsUnbroken ")" := by decide
  cases needed with
  | false => exact h
  | true => exact (hopen.shiftsTo.append h).append hclose.shiftsTo

theorem shiftsTo_newline {fresh : Bool} : ShiftsTo width fresh "\n" "\n" true :=
  .newline .nil

/-- The blanks of a deeper line are those of the difference and those of the line. -/
theorem toList_indentation_add (depth base : Nat) :
    (indentation (depth + base)).toList
      = List.replicate (2 * depth) ' ' ++ (indentation base).toList := by
  rw [toList_indentation, toList_indentation, Nat.mul_add, List.replicate_add]

/-- The rest of a line behind its indentation. -/
theorem shiftsTo_indented {text : String} (h : IsUnbroken text) (hne : text ≠ "")
    (depth base : Nat) :
    ShiftsTo (2 * depth) true (indentation base ++ text) (indentation (depth + base) ++ text)
      false := by
  have hblanks : '\n' ∉ (indentation base).toList :=
    fun hmem => (isIndentation_indentation base _ hmem).2 rfl
  unfold ShiftsTo
  rw [String.toList_append, String.toList_append, toList_indentation_add, List.append_assoc]
  refine Shifts.flat_first ?_ ?_
  · rw [List.mem_append, not_or]
    exact ⟨hblanks, h⟩
  · rw [ne_eq, List.append_eq_nil_iff, String.toList_eq_nil_iff (b := text)]
    exact fun hnil => hne hnil.2

/-- Rows that are not empty get blanks in front. -/
theorem shifts_rows {rows : List (List Char)} (h : ∀ r ∈ rows, '\n' ∉ r ∧ r ≠ []) :
    Shifts width true (rows.flatMap (· ++ ['\n']))
      ((rows.map (List.replicate width ' ' ++ ·)).flatMap (· ++ ['\n'])) true := by
  induction rows with
  | nil => exact .nil
  | cons r rows ih =>
      have hrow := h r List.mem_cons_self
      rw [List.map_cons, List.flatMap_cons, List.flatMap_cons]
      exact ((Shifts.flat_first hrow.1 hrow.2).append (.newline .nil)).append
        (ih fun r' hr' => h r' (List.mem_cons_of_mem r hr'))

/-- A comment shifts with the indentation of its rows. -/
theorem shiftsTo_docComment (description : Option String) (depth base : Nat) :
    ShiftsTo (2 * depth) true (docComment description (indentation base))
      (docComment description (indentation (depth + base))) true := by
  cases description with
  | none => exact .nil
  | some text =>
      by_cases htrim : Text.trim text.toList = []
      · have hblank := Comment.trim_eq_nil_iff.mp htrim
        rw [(docComment_eq_empty_iff _).mpr hblank, (docComment_eq_empty_iff _).mpr hblank]
        exact .nil
      · unfold ShiftsTo
        rw [toList_docComment _ htrim, toList_docComment _ htrim, toList_indentation_add,
          Comment.around_eq_rows, Comment.around_eq_rows, Comment.rows_indented]
        refine shifts_rows fun r hr => ?_
        rcases Comment.exists_of_mem_rows (fun _ => Comment.newline_not_mem_shownLines) hr with
          ⟨rest, hne, hrest, rfl⟩
        rw [List.mem_append, not_or]
        exact ⟨⟨fun hmem => (isIndentation_indentation base _ hmem).2 rfl, hrest⟩,
          List.append_ne_nil_of_right_ne_nil _ hne⟩

end Parts

section Trees

variable {depth : Nat}

/-- A node whose text shifts with its depth, wherever its first line begins. -/
def TypeNode.RenderShifts (depth : Nat) (n : TypeNode) : Prop :=
  ∀ base, ShiftsTo (2 * depth) false (n.render base) (n.render (depth + base)) false

theorem shiftsTo_members {ns : List TypeNode} (h : ∀ n ∈ ns, n.RenderShifts depth)
    {separator : String} (hs : IsUnbroken separator) (intersection : Bool) (base : Nat) :
    ShiftsTo (2 * depth) false (joinWith separator (renderMembers base intersection ns))
      (joinWith separator (renderMembers (depth + base) intersection ns)) false := by
  rw [renderMembers_eq, renderMembers_eq]
  refine shiftsTo_joinWith hs (forall₂_map_of_mem fun n hn => ?_)
  exact shiftsTo_parenthesized _ (h n hn base)

/-- A property shifts when its values do, from its first line on. -/
theorem shiftsTo_property {q : Property} (hname : q.name.IsUnbroken)
    (h : ∀ n ∈ q.values, n.RenderShifts depth) (base : Nat) :
    ShiftsTo (2 * depth) true (q.render base) (q.render (depth + base)) false := by
  rcases q with ⟨name, required, description, values⟩
  have hand : IsUnbroken " & " := by decide
  have hvalue := shiftsTo_members h hand false base
  have hcomment := shiftsTo_docComment description depth base
  -- The mark keeps the line from being empty, which would get no blanks.
  have hkey : ∀ mark, IsUnbroken mark → mark ≠ "" →
      ShiftsTo (2 * depth) true (indentation base ++ (name.render ++ mark))
        (indentation (depth + base) ++ (name.render ++ mark)) false := by
    intro mark hmark hne
    refine shiftsTo_indented (hname.render.append hmark) ?_ depth base
    rw [ne_eq, String.append_eq_empty_iff]
    exact fun hempty => hne hempty.2
  rw [Property.render, Property.render]
  split
  · have hline := hcomment.append (hkey "?: " (by decide) (by decide))
    have hend : IsUnbroken " | undefined" := by decide
    have := (hline.append hvalue).append hend.shiftsTo
    simpa only [String.append_assoc] using this
  · have hline := hcomment.append (hkey ": " (by decide) (by decide))
    simpa only [String.append_assoc] using hline.append hvalue

/-- Properties below one another shift together, whatever stands between them. -/
theorem shiftsTo_joinBlocks {width : Nat} {b b' : Block} {bs bs' : List Block}
    (h : List.Forall₂ (fun b b' => ShiftsTo width true b.text b'.text false ∧ b.tall = b'.tall)
      (b :: bs) (b' :: bs')) :
    ShiftsTo width true (joinBlocks (b :: bs)) (joinBlocks (b' :: bs')) false := by
  -- The gap in front of a block depends on both neighbours, so two blocks are looked at in each
  -- step.
  induction bs generalizing b b' bs' with
  | nil =>
      cases h with
      | cons hb hbs =>
          cases hbs with
          | nil => exact hb.1
  | cons next bs ih =>
      cases h with
      | cons hb hbs =>
          cases hbs with
          | @cons _ next' _ bs' hnext hrest =>
              have hgap : ∀ tall : Bool, ShiftsTo width false
                  (if tall then "\n\n" else "\n") (if tall then "\n\n" else "\n") true := by
                intro tall
                cases tall with
                | false => exact shiftsTo_newline
                | true => exact shiftsTo_newline.append shiftsTo_newline
              -- Whether there is a gap depends on the properties alone, so it is the same at both
              -- depths.
              rw [joinBlocks, joinBlocks, ← hb.2, ← hnext.2]
              exact (hb.1.append (hgap _)).append (ih (.cons hnext hrest))

/-- Braces shift with the properties inside. -/
theorem shiftsTo_braces {bs bs' : List Block} (base : Nat)
    (h : List.Forall₂ (fun b b' => ShiftsTo (2 * depth) true b.text b'.text false ∧
      b.tall = b'.tall) bs bs') :
    ShiftsTo (2 * depth) false (braces base bs) (braces (depth + base) bs') false := by
  have hopen : IsUnbroken "\x7b" := by decide
  have hnone : IsUnbroken "\x7b\x7d" := by decide
  have hbrace : IsUnbroken "\x7d" := by decide
  have hclose := shiftsTo_indented hbrace (by decide) depth base
  cases h with
  | nil => exact hnone.shiftsTo
  | cons hb hbs =>
      have hstart : ShiftsTo (2 * depth) false "\x7b\n" "\x7b\n" true :=
        hopen.shiftsTo.append shiftsTo_newline
      have hwhole := ((hstart.append (shiftsTo_joinBlocks (.cons hb hbs))).append
        shiftsTo_newline).append hclose
      simpa only [braces, List.isEmpty_cons, Bool.false_eq_true, if_false,
        String.append_assoc] using hwhole

/-- The text of a shape shifts when the texts of its children do. -/
theorem Shape.render_shifts {shape : Shape} (hleaves : shape.LeavesUnbroken)
    (hnames : shape.NamesUnbroken) (h : ∀ m ∈ shape.children, m.RenderShifts depth)
    (base : Nat) :
    ShiftsTo (2 * depth) false (shape.render base) (shape.render (depth + base)) false := by
  cases shape with
  | object properties =>
      rw [Shape.render, Shape.render, renderProperties_eq, renderProperties_eq, Nat.add_assoc]
      refine shiftsTo_braces base (forall₂_map_of_mem fun q hq => ⟨?_, rfl⟩)
      have hvalues : ∀ m ∈ q.values, m.RenderShifts depth := fun m hm =>
        h m (List.mem_flatMap.mpr ⟨q, hq, hm⟩)
      exact shiftsTo_property (hnames q hq) hvalues (base + 1)
  | combined combinator members =>
      rw [Shape.render, Shape.render]
      refine shiftsTo_members h ?_ _ base
      cases combinator <;> decide
  | array item =>
      have hbrackets : IsUnbroken "[]" := by decide
      have hitem : item.RenderShifts depth := h item (List.mem_singleton.mpr rfl)
      rw [Shape.render, Shape.render]
      exact (shiftsTo_parenthesized _ (hitem base)).append hbrackets.shiftsTo
  | literals members =>
      rw [Shape.render, Shape.render]
      refine shiftsTo_joinWith (by decide) (forall₂_map_of_mem fun m hm => ?_)
      exact (hleaves m hm).render.shiftsTo
  | reference target => exact hleaves.render.shiftsTo
  -- The other shapes are fixed words.
  | binary kind =>
      have hkind : IsUnbroken kind.render := by cases kind <;> decide
      exact hkind.shiftsTo
  | primitive type =>
      have htype : IsUnbroken type.name := by cases type <;> decide
      exact htype.shiftsTo
  | status code => exact (isUnbroken_of_isWord (isWord_nat code)).shiftsTo
  | format format =>
      have hformat : IsUnbroken format.name := by cases format <;> decide
      exact hformat.shiftsTo

/-- The text of a tree whose names are on one line each shifts with its depth. -/
theorem TypeNode.render_shifts {n : TypeNode} (h : n.Unbroken) : n.RenderShifts depth := by
  induction n using TypeNode.inductionOn with
  | step n ih =>
      intro base
      rcases n with ⟨nullable, description, shape⟩
      have hroot : shape.LeavesUnbroken ∧ shape.NamesUnbroken := h _ (TypeNode.mem_nodes_self _)
      have hchild : ∀ m ∈ shape.children, m.RenderShifts depth := fun m hm =>
        ih m hm fun k hk => h k (TypeNode.mem_nodes_of_child hm hk)
      -- The mark for null is on the last line of the shape, inside it.
      have hshape := Shape.render_shifts hroot.1 hroot.2 hchild base
      have hnull : IsUnbroken " | null" := by decide
      rw [TypeNode.render, TypeNode.render]
      cases nullable with
      | false => exact hshape
      | true => exact hshape.append hnull.shiftsTo

theorem Property.render_shifts {q : Property} (h : q.Unbroken) (base : Nat) :
    ShiftsTo (2 * depth) true (q.render base) (q.render (depth + base)) false :=
  shiftsTo_property h.1 (fun v hv => TypeNode.render_shifts (h.2 v hv)) base

/-- The lines of a tree at a depth are those at the margin with two blanks for each level in
    front. Empty lines stay empty, and the line that a node begins on stays as it is. -/
theorem render_shiftLines (depth : Nat) :
    (∀ n : TypeNode, n.Unbroken → ∃ first rest, linesOf (n.render 0) = first :: rest ∧
        linesOf (n.render depth) = first :: rest.map (shiftLine (2 * depth))) ∧
      (∀ q : Property, q.Unbroken →
        linesOf (q.render depth) = (linesOf (q.render 0)).map (shiftLine (2 * depth))) ∧
      ∀ line, shiftLine (2 * depth) line = [] ↔ line = [] := by
  refine ⟨fun n h => ?_, fun q h => ?_, fun line => ?_⟩
  · rcases List.exists_cons_of_ne_nil (List.splitOn_ne_nil '\n' (n.render 0).toList) with
      ⟨first, rest, hlines⟩
    exact ⟨first, rest, hlines, Shifts.lines (TypeNode.render_shifts h 0) hlines⟩
  · rcases List.exists_cons_of_ne_nil (List.splitOn_ne_nil '\n' (q.render 0).toList) with
      ⟨first, rest, hlines⟩
    have hmargin : linesOf (q.render 0) = first :: rest := hlines
    -- A property starts a line, so its first line is shifted like the others.
    have hshift : ShiftsTo (2 * depth) true (q.render 0) (q.render (depth + 0)) false :=
      Property.render_shifts h 0
    rw [hmargin]
    exact Shifts.lines hshift hlines
  · unfold shiftLine
    split <;> simp [*]

/-- A property with a comment of several rows and a tall value inside. -/
def ownedProperty : Property :=
  .field "pet" true (some "One pet\n\nand its owner") { shape := .object [
    .field "id" true none { shape := .reference { space := "Types", name := "Id" } },
    .field "owner" false none { shape := .object [
      .field "first name" true none { shape := .literals [.quoted "Ann", .quoted "Bo"] }] }] }

theorem render_shiftLines_owned :
    ownedProperty.Unbroken ∧
      linesOf (ownedProperty.render 3)
        = (linesOf (ownedProperty.render 0)).map (shiftLine 6) ∧
      ownedProperty.render 0 = String.join [
        "/**\n", " * One pet\n", " *\n", " * and its owner\n", " */\n",
        "pet: \x7b\n",
        "  id: Types.Id\n",
        "\n",
        "  owner?: \x7b\n",
        "    'first name': 'Ann' | 'Bo'\n",
        "  \x7d | undefined\n",
        "\x7d"] := by
  have hunbroken : ownedProperty.Unbroken := by decide
  exact ⟨hunbroken, (render_shiftLines 3).2.1 _ hunbroken, by decide⟩

end Trees

end RouteTypes
