import RouteTypes.Proofs.GlobalNames

/-!
# Type Names

Which component keys are declared under an identifier.

Every character of a key but the first is replaced when it cannot stand in an identifier.
The first is only written in upper case, and a `$` is put before it when it cannot start
one. So a key that starts with a point, a dash or a letter of another script is declared
under a name that is no identifier. Few letters beyond ASCII do better: those whose
capital is spelled with ASCII letters, like `ß`.

The capitals stand in tables, and a fact about all characters is decided for the entries
of the tables. A stretch of letters whose capitals lie beyond ASCII is settled by where
it starts.

## Main definitions

* `Text.asciiCapitals`: The letters beyond ASCII with an ASCII capital.
* `Text.IsNameable`: A key that starts with a character whose capital can stand in an
  identifier.
* `TypeRef.IsQualified`: A reference made of two identifiers.

## Theorems

* `Text.all_upper`: Which characters have a capital that can stand in an identifier.
* `Text.isIdentifier_typeName_iff`: Which keys have an identifier as type name.
* `names_identifiers_iff`: Which names in the output are identifiers.
-/

namespace RouteTypes

namespace Text

/-- The letters beyond ASCII whose capital is spelled with ASCII letters. -/
def asciiCapitals : List Char :=
  ['ß', 'ı', 'ſ', 'ﬀ', 'ﬁ', 'ﬂ', 'ﬃ', 'ﬄ', 'ﬅ', 'ﬆ']

/-- A character whose capital can stand in an identifier. -/
def startsName (c : Char) : Bool :=
  isNamePart c || asciiCapitals.contains c

/-- A key that is empty or starts with a character whose capital can stand in an
    identifier. -/
def IsNameable (key : String) : Prop :=
  ∀ c, key.toList.head? = some c → startsName c = true

/-- Whatever has the number of a character beyond ASCII is no part of a name. -/
theorem isNamePart_ofNat {code : Nat} (h : 128 ≤ code) : isNamePart (Char.ofNat code) = false := by
  rw [Bool.eq_false_iff]
  intro hpart
  -- Characters of words have numbers below 128, and this one would have the number itself.
  have hlt := Syntax.toNat_lt_of_isWordChar (Syntax.isWordChar_of_isNamePart hpart)
  by_cases hvalid : code.isValidChar
  · have hcode : (Char.ofNat code).toNat = code := congrArg Char.toNat (dif_pos hvalid)
    exact absurd (hcode ▸ hlt) (Nat.not_lt.mpr h)
  · -- Numbers without a character stand for the first one, which is no part either.
    have hfirst : Char.ofNat code = Char.ofNat 0 := dif_neg hvalid
    rw [hfirst] at hpart
    exact absurd hpart (by decide)

/-- The spelled-out capital of a letter that has no ASCII capital is not made of parts of
    names. -/
theorem spelledOut_notAll {code : Nat} {codes : List Nat} (h : (code, codes) ∈ spelledOut)
    (hother : asciiCapitals.contains (Char.ofNat code) = false) :
    (codes.map Char.ofNat).all isNamePart = false := by
  -- The table is finite, so the property of its entries is decided by running through it.
  have hall : spelledOut.all (fun e => asciiCapitals.contains (Char.ofNat e.1) ||
      !(e.2.map Char.ofNat).all isNamePart) = true := by decide
  have hentry := List.all_eq_true.mp hall _ h
  rw [hother, Bool.false_or, Bool.not_eq_true'] at hentry
  exact hentry

/-- The capitals of a run of letters lie beyond ASCII, unless the run is a single letter
    with an ASCII capital. -/
theorem le_of_covers {r : LetterRun} (h : r ∈ letterRuns) {code : Nat}
    (hcovers : r.covers code = true)
    (hother : asciiCapitals.contains (Char.ofNat code) = false) :
    128 ≤ ((code : Int) + r.shift).toNat := by
  -- So is the table of runs, where the first letter of a run stands for all of them.
  have hall : letterRuns.all (fun r => decide (128 ≤ r.first + r.shift) ||
      (r.first == r.last && asciiCapitals.contains (Char.ofNat r.first))) = true := by decide
  have hrun := List.all_eq_true.mp hall r h
  simp only [LetterRun.covers, Bool.and_eq_true, decide_eq_true_eq] at hcovers
  rcases (Bool.or_eq_true _ _).mp hrun with hbeyond | hsingle
  · have hfirst := of_decide_eq_true hbeyond
    omega
  · rw [Bool.and_eq_true, beq_iff_eq] at hsingle
    have hcode : code = r.first :=
      Nat.le_antisymm (hsingle.1 ▸ hcovers.1.2) hcovers.1.1
    rw [hcode, hsingle.2] at hother
    exact absurd hother (by decide)

/-- The capital of a character can stand in an identifier when the character can, or is
    one of a few letters beyond ASCII. -/
theorem all_upper (c : Char) : (upper c).all isNamePart = startsName c := by
  unfold startsName
  -- Within ASCII every character is tried.
  by_cases hascii : c.toNat < 128
  · have hall : ∀ code < 128, [(Char.ofNat code).toUpper].all isNamePart
        = (isNamePart (Char.ofNat code) || asciiCapitals.contains (Char.ofNat code)) := by
      decide
    have hc := hall c.toNat hascii
    rw [Char.ofNat_toNat] at hc
    rw [upper, if_pos hascii]
    exact hc
  · have hpart : isNamePart c = false := by
      have := isNamePart_ofNat (Nat.not_lt.mp hascii)
      rwa [Char.ofNat_toNat] at this
    rw [hpart, Bool.false_or]
    -- Beyond ASCII a character is no part of a name, and the question is what its capital is.
    cases hother : asciiCapitals.contains c with
    | true =>
        have hall : asciiCapitals.all (fun c => (upper c).all isNamePart) = true := by decide
        exact List.all_eq_true.mp hall c (List.contains_iff_mem.mp hother)
    | false =>
        rw [upper, if_neg hascii]
        have hcode : asciiCapitals.contains (Char.ofNat c.toNat) = false := by
          rwa [Char.ofNat_toNat]
        split
        · next codes hlookup =>
            rcases List.lookup_eq_some_iff.mp hlookup with ⟨before, after, htable, _⟩
            have hentry : (c.toNat, codes) ∈ spelledOut := by
              rw [htable]
              exact List.mem_append_right _ List.mem_cons_self
            exact spelledOut_notAll hentry hcode
        · split
          · next code hrun =>
              rcases Option.map_eq_some_iff.mp hrun with ⟨r, hr, rfl⟩
              have hcovers := List.find?_some hr
              have hbound := le_of_covers (List.mem_of_find?_eq_some hr) hcovers hcode
              rw [List.all_cons, isNamePart_ofNat hbound, Bool.false_and]
          -- What is in neither table is its own capital.
          · rw [List.all_cons, hpart, Bool.false_and]

/-- A character that starts a name still does in upper case. -/
theorem isNameStart_toUpper {c : Char} (h : isNameStart c = true) :
    isNameStart c.toUpper = true ∧ upper c = [c.toUpper] := by
  have hascii : c.toNat < 128 := Syntax.toNat_lt_of_isWordChar
    (Syntax.isWordChar_of_isNamePart (isNamePart_of_isNameStart h))
  exact ⟨Syntax.holds_of_ascii (P := fun c => isNameStart c = true → isNameStart c.toUpper = true)
    (by decide) hascii h, if_pos hascii⟩

/-- The characters after the first are replaced where they have to be. -/
theorem all_replaced (cs : List Char) :
    (cs.map fun d => if isNamePart d then d else '_').all isNamePart = true := by
  rw [List.all_map, List.all_eq_true]
  intro d _
  rw [Function.comp_apply]
  split
  · next hpart => exact hpart
  · decide

/-- The type name of a key is an identifier when the key is empty or starts with a
    character whose capital can stand in one. -/
theorem isIdentifier_typeName_iff (key : String) :
    IsIdentifier (typeName key).toList ↔ IsNameable key := by
  unfold IsNameable
  rw [typeName, String.toList_ofList]
  cases key.toList with
  | nil =>
      refine iff_of_true (by decide) fun c h => ?_
      exact absurd h (by simp only [List.head?_nil, reduceCtorEq, not_false_eq_true])
  | cons c rest =>
      simp only [List.head?_cons, Option.some.injEq, forall_eq']
      unfold typeNameChars
      dsimp only
      by_cases hstart : isNameStart c = true
      · -- A character that can start a name has one capital, and nothing is put before it.
        rcases isNameStart_toUpper hstart with ⟨hupper, hsingle⟩
        rw [if_pos hstart, hsingle]
        refine iff_of_true ⟨hupper, all_replaced rest⟩ ?_
        rw [startsName, isNamePart_of_isNameStart hstart, Bool.true_or]
      · rw [if_neg hstart, List.append_assoc, List.singleton_append]
        -- The sign in front can start a name, so only the parts behind it are asked about.
        change isNameStart '$' = true ∧ (upper c ++ rest.map _).all isNamePart = true ↔ _
        rw [List.all_append, all_replaced, Bool.and_true, all_upper]
        exact and_iff_right (by decide)

end Text

/-- The namespace and the name of the reference are identifiers. -/
def TypeRef.IsQualified (r : TypeRef) : Prop :=
  Text.IsIdentifier r.space.toList ∧ Text.IsIdentifier r.name.toList

section Documents

variable {document : Document} {options : Options} {api : Api}

/-- A declaration is named after the key of its entry. -/
theorem name_of_mem_types (h : (document.toApi options).Yields api) {t : NamedType}
    (ht : t ∈ api.types) :
    (t.registry, t.key) ∈ document.components.entryKeys ∧ t.name = Text.typeName t.key := by
  rcases exists_of_mem_types (toApi_yields h).2.1 ht with ⟨e, he, value, _, rfl⟩
  exact ⟨he, rfl⟩

/-- A reference is written in the namespace that was asked for, with the name of an entry
    of the components. -/
theorem reference_of_mem_nodes (h : (document.toApi options).Yields api) {n : TypeNode}
    (hn : n ∈ api.nodes) {r : TypeRef} (hr : n.shape = .reference r) :
    r.space = options.space ∧ ∃ e ∈ document.components.entryKeys, entryName e = r.name := by
  rcases (toApi_built h n hn n n.mem_nodes_self).2 r hr with ⟨pointer, hpointer⟩
  exact (typeRef_yields hpointer).symm

end Documents

/-- Which names are identifiers. The type name of a key is one exactly when the key is
    empty or starts with a character whose capital can stand in an identifier. So in a
    document that compiles a declaration has an identifier for its name exactly when its
    key is such a key, and a reference is made of identifiers exactly when the namespace is
    one and the key of the entry it names is such a key. -/
theorem names_identifiers_iff (key : String) (document : Document) (options : Options) :
    (Text.IsIdentifier (Text.typeName key).toList ↔ Text.IsNameable key) ∧
      ∀ c, (document.compile options).Yields c →
        ∃ api, (document.toApi options).Yields api ∧ api.compilation = c ∧
          (∀ t ∈ api.types, (t.registry, t.key) ∈ document.components.entryKeys ∧
            (Text.IsIdentifier t.name.toList ↔ Text.IsNameable t.key)) ∧
          ∀ n ∈ api.nodes, ∀ r, n.shape = .reference r →
            ∃ e ∈ document.components.entryKeys, entryName e = r.name ∧
              (r.IsQualified ↔
                Text.IsIdentifier options.space.toList ∧ Text.IsNameable e.2) := by
  refine ⟨Text.isIdentifier_typeName_iff key, fun c h => ?_⟩
  rcases compile_yields_iff.mp h with ⟨api, hapi, hc⟩
  refine ⟨api, hapi, hc, fun t ht => ?_, fun n hn r hr => ?_⟩
  · rcases name_of_mem_types hapi ht with ⟨hentry, hname⟩
    rw [hname]
    exact ⟨hentry, Text.isIdentifier_typeName_iff t.key⟩
  · rcases reference_of_mem_nodes hapi hn hr with ⟨hspace, e, he, hname⟩
    refine ⟨e, he, hname, ?_⟩
    rw [TypeRef.IsQualified, hspace, ← hname]
    exact and_congr_right fun _ => Text.isIdentifier_typeName_iff e.2

/-- The schema `Pet` of a document and the reference to it are both called by an
    identifier. -/
theorem names_identifiers_pet :
    (typedReference.compile {}).Yields typedReferenceApi.compilation ∧
      (∀ t ∈ typedReferenceApi.types, Text.IsIdentifier t.name.toList) ∧
      TypeRef.IsQualified { space := "Types", name := "Pet" } := by
  have h : (typedReference.compile {}).Yields typedReferenceApi.compilation :=
    compile_yields_iff.mpr ⟨_, rfl, rfl⟩
  have htyped : (typedReference.toApi {}).Yields typedReferenceApi := rfl
  -- The statement is applied to the document, and its keys are two.
  rcases (names_identifiers_iff "Pet" typedReference {}).2 _ h with ⟨api, hapi, _, htypes, hrefs⟩
  obtain rfl := htyped.unique hapi
  have hkeys : ∀ e ∈ typedReference.components.entryKeys, Text.IsNameable e.2 := by
    intro e he c hc
    rcases List.mem_cons.mp he with rfl | he
    · obtain rfl := Option.some.inj hc
      decide
    · obtain rfl := List.mem_singleton.mp he
      obtain rfl := Option.some.inj hc
      decide
  refine ⟨h, fun t ht => ?_, ?_⟩
  · exact (htypes t ht).2.mpr (hkeys _ (htypes t ht).1)
  · have hn : TypeRef.node { space := "Types", name := "Pet" } ∈ typedReferenceApi.nodes :=
      List.mem_append_left _ (List.mem_cons_of_mem _ List.mem_cons_self)
    rcases hrefs _ hn _ rfl with ⟨e, he, _, hiff⟩
    exact hiff.mpr ⟨by decide, hkeys e he⟩

/-- A document whose only schema has a key that starts with a dash. -/
def dashedDocument : Document where
  components :=
    { schemas := { entries := [("-pet", .inline { type := some (.single "string") })] } }

/-- The dash at the start of a key is kept, and the name in the output is no identifier. -/
theorem leading_dash_kept :
    (∃ c, (dashedDocument.compile {}).Yields c ∧ c.types = some
      "/* eslint-disable */\nexport namespace Types \x7b\n  export type $-pet = string\n\x7d\n") ∧
      ¬ Text.IsIdentifier (Text.typeName "-pet").toList := by
  refine ⟨⟨_, compile_yields_iff.mpr ⟨_, rfl, rfl⟩, by decide⟩, by decide⟩

end RouteTypes
