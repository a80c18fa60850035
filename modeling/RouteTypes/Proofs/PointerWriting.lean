import RouteTypes.Proofs.Pointers

/-!
# Writing Pointers

How pointers are written, and that no two of them are written alike.

A text is cut at its slashes before any escape is undone, so the slashes and tildes of a
name have to be escaped and nothing else has to be. Undoing the escapes reads a part once
from left to right. It can also be done in two rounds, first for slashes and then for
tildes (`unescape_eq_rounds`); the order matters, because a tilde that the other round
brought back could be taken for the start of an escape.

The grammar of pointers is given by the function that spells one out of its parts
(`Pointer.spelled`). It takes the parts as they stand in the text, so it describes the
texts that can be read, and after escaping the texts that are written.

## Main definitions

* `Pointer.spelled`: The text for a registry, a key and perhaps a property.
* `Pointer.escape`: A name as it stands in a text.
* `Pointer.text`: A pointer in writing.
* `Pointer.undo`, `Pointer.undone`: One round of undoing escapes, and both.
* `Pointer.IsSpelled`: A text with parts that can be told apart.

## Theorems

* `Pointer.unescape_escape`: The escapes of a name can be undone.
* `Pointer.unescape_eq_rounds`: They are undone in two rounds as well.
* `Pointer.parse_eq_ok_iff_isSpelled`: What a text is read as.
* `Pointer.text_injective`: Different pointers are written differently.
* `Pointer.parse_grammar`: Which texts are read, and that writing is undone.
-/

namespace RouteTypes

namespace Pointer

/-- The text for a registry, a key and perhaps a property, which stand in it as they
    are. -/
def spelled (registry : Registry) (key : String) : Option String → String
  | some property => "#/components/" ++ registry.key ++ "/" ++ key ++ "/properties/" ++ property
  | none => "#/components/" ++ registry.key ++ "/" ++ key

/-- A name as it stands in a text, without a slash and with a digit after each tilde. -/
def escape : List Char → List Char
  | [] => []
  | c :: rest =>
    if c = '~' then '~' :: '0' :: escape rest
    else if c = '/' then '~' :: '1' :: escape rest
    else c :: escape rest

/-- A pointer in writing. -/
def text (p : Pointer) : String :=
  spelled p.registry (String.ofList (escape p.key.toList))
    (p.property.map fun name => String.ofList (escape name.toList))

/-- The text in which every tilde before a digit has become another character together
    with it. -/
def undo (digit c : Char) : List Char → List Char
  | [] => []
  | [d] => [d]
  | d :: e :: rest =>
    if d = '~' ∧ e = digit then c :: undo digit c rest else d :: undo digit c (e :: rest)

/-- A name without its escapes, those of slashes undone first. -/
def undone (name : String) : String :=
  String.ofList (undo '0' '~' (undo '1' '/' name.toList))

section Escapes

theorem unescape_cons {c : Char} (h : c ≠ '~') (rest : List Char) :
    unescape (c :: rest) = c :: unescape rest := by
  rw [unescape]
  · exact fun _ hc _ => h hc
  · exact fun _ hc _ => h hc

/-- The escapes of a name can be undone. -/
theorem unescape_escape (name : List Char) : unescape (escape name) = name := by
  induction name with
  | nil => rfl
  | cons c rest ih =>
      unfold escape
      by_cases htilde : c = '~'
      · rw [if_pos htilde, unescape, ih, htilde]
      · rw [if_neg htilde]
        by_cases hslash : c = '/'
        · rw [if_pos hslash, unescape, ih, hslash]
        · rw [if_neg hslash, unescape_cons htilde, ih]

/-- Different names are escaped differently. -/
theorem escape_injective : Function.Injective escape :=
  Function.LeftInverse.injective unescape_escape

/-- No slash is left in an escaped name. -/
theorem slash_not_mem_escape (name : List Char) : '/' ∉ escape name := by
  induction name with
  | nil => exact List.not_mem_nil
  | cons c rest ih =>
      unfold escape
      by_cases htilde : c = '~'
      · rw [if_pos htilde]
        simpa using ih
      · rw [if_neg htilde]
        by_cases hslash : c = '/'
        · rw [if_pos hslash]
          simpa using ih
        · rw [if_neg hslash, List.mem_cons, not_or]
          exact ⟨fun hc => hslash hc.symm, ih⟩

/-- An escaped name is empty only when the name is. -/
theorem escape_eq_nil_iff {name : List Char} : escape name = [] ↔ name = [] := by
  cases name with
  | nil => exact Iff.rfl
  | cons c rest =>
      unfold escape
      split
      · simp
      · split <;> simp

/-- A round that brings back no zero leaves a zero in front only where one was. -/
theorem head?_undo {digit c : Char} (hc : c ≠ '0') {cs : List Char}
    (h : (undo digit c cs).head? = some '0') : cs.head? = some '0' := by
  fun_cases undo digit c cs with
  | case1 => exact h
  | case2 d => exact h
  | case3 d e rest heq =>
      rw [undo, if_pos heq] at h
      exact absurd (Option.some.inj h) hc
  -- The front stays where it is, so the head is the one that there was.
  | case4 d e rest hne =>
      rw [undo, if_neg hne] at h
      exact h

theorem undo_tilde {digit c : Char} {cs : List Char} (h : cs.head? ≠ some digit) :
    undo digit c ('~' :: cs) = '~' :: undo digit c cs := by
  cases cs with
  | nil => rfl
  | cons d rest => rw [undo, if_neg fun heq => h (congrArg some heq.2)]

theorem undo_cons {digit c d : Char} (h : d ≠ '~') (cs : List Char) :
    undo digit c (d :: cs) = d :: undo digit c cs := by
  cases cs with
  | nil => rfl
  | cons e rest => rw [undo, if_neg fun heq => h heq.1]

/-- Undoing all escapes at once is undoing those of slashes and then those of tildes. -/
theorem unescape_eq_rounds (cs : List Char) : unescape cs = undo '0' '~' (undo '1' '/' cs) := by
  fun_induction unescape cs with
  | case1 rest ih =>
      rw [undo, if_pos ⟨rfl, rfl⟩, undo_cons (by decide), ih]
  | case2 rest ih =>
      -- The first round leaves this escape to the second one.
      have hround : undo '1' '/' ('~' :: '0' :: rest) = '~' :: '0' :: undo '1' '/' rest := by
        rw [undo_tilde (by simp), undo_cons (by decide)]
      rw [hround, undo, if_pos ⟨rfl, rfl⟩, ih]
  | case3 c rest hone hzero ih =>
      by_cases htilde : c = '~'
      · subst htilde
        have hhead : ∀ d, (∀ more, rest = d :: more → False) → rest.head? ≠ some d := by
          intro d hd hc
          rcases List.head?_eq_some_iff.mp hc with ⟨more, hmore⟩
          exact hd more hmore
        -- Neither digit follows this tilde, so both rounds pass it over.
        have hfirst : rest.head? ≠ some '1' := hhead '1' fun more => hone more rfl
        have hsecond : rest.head? ≠ some '0' := hhead '0' fun more => hzero more rfl
        rw [undo_tilde hfirst, undo_tilde fun hc => hsecond (head?_undo (by decide) hc), ih]
      · rw [undo_cons htilde, undo_cons htilde, ih]
  | case4 => rfl

theorem undone_eq (name : String) : undone name = String.ofList (unescape name.toList) := by
  rw [undone, unescape_eq_rounds]

-- A tilde that was escaped is no part of another escape.
example : undone "~01" = "~1" := by decide

theorem unescape_eq_nil_iff {cs : List Char} : unescape cs = [] ↔ cs = [] := by
  fun_cases unescape cs <;> simp

end Escapes

section Texts

/-- The characters of a spelled text. -/
theorem toList_spelled (registry : Registry) (key : String) (property : Option String) :
    (spelled registry key property).toList
      = componentsPath ++ registry.key.toList ++ '/' :: key.toList
        ++ narrowing (property.map String.toList) := by
  -- The fixed parts are not taken apart, so that no step has to compare their characters.
  have hjoin : ∀ path registry slash key : String, (path ++ registry ++ slash ++ key).toList
      = path.toList ++ registry.toList ++ (slash.toList ++ key.toList) := by
    intro path registry slash key
    simp only [String.toList_append, List.append_assoc]
  have hend : ∀ front word property : String, word.toList = '/' :: "properties".toList ++ ['/'] →
      (front ++ word ++ property).toList = front.toList ++ narrowing (some property.toList) := by
    intro front word property hword
    simp only [narrowing, String.toList_append, hword, List.append_assoc, List.cons_append,
      List.nil_append]
  have hfront : ("#/components/" ++ registry.key ++ "/" ++ key).toList
      = componentsPath ++ registry.key.toList ++ '/' :: key.toList :=
    hjoin "#/components/" registry.key "/" key
  cases property with
  | none => exact hfront.trans (List.append_nil _).symm
  | some property =>
      have hwhole := hend ("#/components/" ++ registry.key ++ "/" ++ key) "/properties/"
        property rfl
      rw [hfront] at hwhole
      exact hwhole

/-- The text is spelled out of these parts, which can be told apart again. -/
structure IsSpelled (text : String) (registry : Registry) (key : String)
    (property : Option String) : Prop where
  text_eq : text = spelled registry key property
  key_ne_empty : key ≠ ""
  slash_not_mem_key : '/' ∉ key.toList
  slash_not_mem_property : ∀ name ∈ property, '/' ∉ name.toList

/-- A spelled text is read as its parts without their escapes. -/
theorem parse_eq_ok_iff_isSpelled {text : String} {p : Pointer} :
    parse text = .ok p ↔ ∃ key property, IsSpelled text p.registry key property ∧
      p.key = undone key ∧ p.property = property.map undone := by
  rw [parse_eq_ok_iff]
  constructor
  -- The one side speaks of lists of characters, the other of texts.
  · rintro ⟨key, property, hne, hkey, hname, htext, hp, hproperty⟩
    refine ⟨String.ofList key, property.map String.ofList, {
      text_eq := ?_
      key_ne_empty := fun hempty => hne (String.ofList_eq_empty_iff.mp hempty)
      slash_not_mem_key := by rwa [String.toList_ofList]
      slash_not_mem_property := fun name hmem => ?_ }, ?_, ?_⟩
    · rw [← String.toList_inj, toList_spelled, htext]
      simp [Function.comp_def]
    · rcases Option.map_eq_some_iff.mp hmem with ⟨chars, hchars, rfl⟩
      rw [String.toList_ofList]
      exact hname chars hchars
    · rw [hp, undone_eq, String.toList_ofList]
    · rw [hproperty]
      simp [Function.comp_def, undone_eq]
  · rintro ⟨key, property, h, hp, hproperty⟩
    refine ⟨key.toList, property.map String.toList, fun hnil => ?_, h.slash_not_mem_key,
      fun chars hmem => ?_, ?_, ?_, ?_⟩
    · exact h.key_ne_empty (String.toList_eq_nil_iff.mp hnil)
    · rcases Option.map_eq_some_iff.mp hmem with ⟨name, hproperty, rfl⟩
      exact h.slash_not_mem_property name hproperty
    · rw [h.text_eq, toList_spelled]
    · rw [hp, undone_eq]
    · simp [hproperty, Function.comp_def, ← undone_eq]

/-- What a spelled text is read as. -/
theorem IsSpelled.parse_eq_ok {text : String} {registry : Registry} {key : String}
    {property : Option String} (h : IsSpelled text registry key property) :
    parse text = .ok { registry, key := undone key, property := property.map undone } :=
  parse_eq_ok_iff_isSpelled.mpr ⟨key, property, h, rfl, rfl⟩

theorem undone_escape (name : String) : undone (String.ofList (escape name.toList)) = name := by
  rw [undone_eq, String.toList_ofList, unescape_escape, String.ofList_toList]

/-- A written pointer is spelled out of its escaped names, when its key is not empty. -/
theorem text_isSpelled {p : Pointer} (h : p.key ≠ "") :
    IsSpelled p.text p.registry (String.ofList (escape p.key.toList))
      (p.property.map fun name => String.ofList (escape name.toList)) where
  text_eq := rfl
  key_ne_empty := by
    rwa [ne_eq, String.ofList_eq_empty_iff, escape_eq_nil_iff, String.toList_eq_nil_iff]
  slash_not_mem_key := by
    rw [String.toList_ofList]
    exact slash_not_mem_escape _
  slash_not_mem_property := by
    intro name hname
    rcases Option.map_eq_some_iff.mp hname with ⟨property, _, rfl⟩
    rw [String.toList_ofList]
    exact slash_not_mem_escape _

/-- No text is read as a pointer with an empty key. -/
theorem key_ne_empty_of_parse {text : String} {p : Pointer} (h : parse text = .ok p) :
    p.key ≠ "" := by
  rcases parse_eq_ok_iff_isSpelled.mp h with ⟨key, _, hspelled, hkey, _⟩
  rw [hkey, undone_eq, ne_eq, String.ofList_eq_empty_iff, unescape_eq_nil_iff,
    String.toList_eq_nil_iff]
  exact hspelled.key_ne_empty

/-- A written pointer is read as itself, unless its key is empty. -/
theorem parse_text_iff (p : Pointer) : parse p.text = .ok p ↔ p.key ≠ "" := by
  refine ⟨key_ne_empty_of_parse, fun hne => ?_⟩
  refine parse_eq_ok_iff_isSpelled.mpr ⟨_, _, text_isSpelled hne, (undone_escape _).symm, ?_⟩
  simp [Function.comp_def, undone_escape]

/-- The parts of a written pointer are found in it, whatever its key. -/
theorem parts?_text (p : Pointer) :
    (dropBeginning? componentsPath p.text.toList).bind parts?
      = some (p.registry.key.toList, escape p.key.toList,
          p.property.map fun name => escape name.toList) := by
  have hrest : dropBeginning? componentsPath p.text.toList
      = some (p.registry.key.toList ++ '/' :: escape p.key.toList
          ++ narrowing (p.property.map fun name => escape name.toList)) := by
    rw [dropBeginning?_eq_some_iff, text, toList_spelled]
    simp [Function.comp_def]
  rw [hrest, Option.bind_some, parts?_eq_some_iff]
  refine ⟨not_mem_registry_key _, slash_not_mem_escape _, fun name hname => ?_, rfl⟩
  rcases Option.map_eq_some_iff.mp hname with ⟨property, _, rfl⟩
  exact slash_not_mem_escape _

/-- Different pointers are written differently. -/
theorem text_injective : Function.Injective text := by
  intro p q h
  have hparts := parts?_text p
  rw [h, parts?_text q, Option.some.injEq, Prod.mk.injEq, Prod.mk.injEq] at hparts
  rcases hparts with ⟨hregistry, hkey, hproperty⟩
  have hname : Function.Injective fun name : String => escape name.toList :=
    -- The parts that are found in the text have lost nothing of the pointer.
    escape_injective.comp fun _ _ => String.toList_injective
  have hr : q.registry = p.registry := by
    have hfound := Registry.ofKey?_eq_some_iff.mpr (String.toList_inj.mp hregistry)
    exact Option.some.inj ((Registry.ofKey?_eq_some_iff.mpr rfl).symm.trans hfound)
  cases p
  cases q
  simp only [Pointer.mk.injEq]
  exact ⟨hr.symm, (hname hkey).symm, (Option.map_injective hname hproperty).symm⟩

/-- A text is read exactly when it is spelled out of the key of a registry, a key that is
    not empty and perhaps a property, neither of them with a slash, and it is read as
    these without their escapes. A pointer in writing is read as itself, and different
    pointers are written differently. -/
theorem parse_grammar (text : String) (p q : Pointer) :
    ((∃ r, parse text = .ok r) ↔
        ∃ registry key property, IsSpelled text registry key property) ∧
      (∀ registry key property, IsSpelled text registry key property →
        parse text = .ok { registry, key := undone key, property := property.map undone }) ∧
      (parse p.text = .ok p ↔ p.key ≠ "") ∧ (p.text = q.text ↔ p = q) := by
  refine ⟨⟨?_, ?_⟩, ?_, parse_text_iff p, text_injective.eq_iff⟩
  · rintro ⟨r, hr⟩
    rcases parse_eq_ok_iff_isSpelled.mp hr with ⟨key, property, hspelled, _⟩
    exact ⟨r.registry, key, property, hspelled⟩
  · rintro ⟨registry, key, property, hspelled⟩
    exact ⟨_, hspelled.parse_eq_ok⟩
  · exact fun _ _ _ hspelled => hspelled.parse_eq_ok

end Texts

end Pointer

end RouteTypes
