import RouteTypes.Reference.Pointer
import Mathlib.Data.List.Basic

/-!
# The Texts of Pointers

Which texts are read as a pointer, and as which.

Reading goes from left to right and stops at the first fault, so the accepted texts are
spread over four tests. Here they are one description (`Pointer.IsWritten`): the path of
the components, the key of a registry, a key that is not empty, and perhaps a property.
Neither the key nor the property holds a slash as it is written, and a key is empty
without its escapes only if it was empty with them.

## Main definitions

* `Pointer.narrowing`: The end of a text that narrows to a property.
* `Pointer.IsWritten`: A text is a pointer in writing.

## Theorems

* `splitOn_eq_iff`: The parts between separators, and what they are joined to.
* `Pointer.parts?_eq_some_iff`: The parts of a pointer.
* `Pointer.parse_eq_ok_iff`: A text is read as a pointer when it is one in writing.
-/

namespace RouteTypes

section Splitting

variable {α : Type} [DecidableEq α]

/-- No part between separators holds one. -/
theorem not_mem_of_mem_splitOn {x : α} {xs l : List α} (h : l ∈ xs.splitOn x) : x ∉ l := by
  induction xs generalizing l with
  | nil =>
      rw [List.splitOn_nil, List.mem_singleton] at h
      simp [h]
  | cons y xs ih =>
      rw [List.splitOn_cons_eq_if_modifyHead] at h
      split at h
      · rcases List.mem_cons.mp h with rfl | h
        · exact List.not_mem_nil
        · exact ih h
      · next hy =>
          -- The element in front belongs to the first part.
          rcases List.exists_cons_of_ne_nil (List.splitOn_ne_nil x xs) with ⟨first, rest, hxs⟩
          rw [hxs, List.modifyHead_cons] at h
          rcases List.mem_cons.mp h with rfl | h
          · have hfirst : x ∉ first := ih (hxs ▸ List.mem_cons_self)
            simp only [beq_iff_eq] at hy
            simp only [List.mem_cons, not_or]
            exact ⟨fun hx => hy hx.symm, hfirst⟩
          · exact ih (hxs ▸ List.mem_cons_of_mem first h)

/-- Parts are those between separators when none holds a separator and joining them
    gives the list back. -/
theorem splitOn_eq_iff {x : α} {xs : List α} {ls : List (List α)} :
    xs.splitOn x = ls ↔ ls ≠ [] ∧ (∀ l ∈ ls, x ∉ l) ∧ xs = [x].intercalate ls := by
  constructor
  · rintro rfl
    refine ⟨List.splitOn_ne_nil x xs, fun l hl => not_mem_of_mem_splitOn hl, ?_⟩
    exact (List.intercalate_splitOn x).symm
  · rintro ⟨hne, hl, rfl⟩
    exact List.splitOn_intercalate x hl hne

end Splitting

/-- A registry is found by its key. -/
theorem Registry.ofKey?_eq_some_iff {key : String} {r : Registry} :
    Registry.ofKey? key = some r ↔ key = r.key := by
  constructor
  · intro h
    have hkey := List.find?_some h
    rw [decide_eq_true_eq] at hkey
    exact hkey.symm
  · rintro rfl
    cases r <;> rfl

namespace Pointer

/-- The end of a text that narrows to a property, the property still escaped. -/
def narrowing : Option (List Char) → List Char
  | some property => '/' :: "properties".toList ++ '/' :: property
  | none => []

/-- The text is this pointer in writing. -/
def IsWritten (text : String) (p : Pointer) : Prop :=
  ∃ (key : List Char) (property : Option (List Char)),
    key ≠ [] ∧ '/' ∉ key ∧ (∀ name ∈ property, '/' ∉ name) ∧
    text.toList = componentsPath ++ p.registry.key.toList ++ '/' :: key ++ narrowing property ∧
    p.key = String.ofList (unescape key) ∧
    p.property = property.map fun name => String.ofList (unescape name)

/-- What is left of a text is what stands behind its beginning. -/
theorem dropBeginning?_eq_some_iff {beginning text rest : List Char} :
    dropBeginning? beginning text = some rest ↔ text = beginning ++ rest := by
  induction beginning generalizing text with
  | nil => simp [dropBeginning?]
  | cons b beginning ih =>
      cases text with
      | nil => simp [dropBeginning?]
      | cons c text =>
          unfold dropBeginning?
          by_cases hbc : b = c
          · simp [hbc, ih]
          · simp [hbc, Ne.symm hbc]

/-- The parts of a pointer stand between slashes, and the word for properties stands
    before the last one if there are four. -/
theorem parts?_eq_some_iff {text registry key : List Char} {property : Option (List Char)} :
    parts? text = some (registry, key, property) ↔
      '/' ∉ registry ∧ '/' ∉ key ∧ (∀ name ∈ property, '/' ∉ name) ∧
        text = registry ++ '/' :: key ++ narrowing property := by
  have hslash : '/' ∉ "properties".toList := by decide
  unfold parts? narrowing
  -- Only that the word holds no slash matters, not how it is spelled.
  generalize "properties".toList = word at hslash ⊢
  cases property with
  | none =>
      have hparts : text.splitOn '/' = [registry, key] ↔
          '/' ∉ registry ∧ '/' ∉ key ∧ text = registry ++ '/' :: key := by
        -- There are two parts when there is one slash.
        rw [splitOn_eq_iff]
        simp [List.intercalate, and_assoc]
      simp only [List.append_nil, Option.mem_def, reduceCtorEq, false_implies, implies_true,
        true_and]
      rw [← hparts]
      split
      · next heq => simp [heq]
      · next heq =>
          rw [heq]
          split <;> simp
      · next hne _ =>
          simp only [reduceCtorEq, false_iff]
          exact hne registry key
  | some name =>
      have hparts : text.splitOn '/' = [registry, key, word, name] ↔
          '/' ∉ registry ∧ '/' ∉ key ∧ '/' ∉ name ∧
            text = registry ++ '/' :: key ++ ('/' :: word ++ '/' :: name) := by
        -- There are four parts when there are three slashes, and none of them is in the word.
        rw [splitOn_eq_iff]
        simp [List.intercalate, hslash, and_assoc]
      simp only [Option.mem_def, Option.some.injEq, forall_eq']
      rw [← hparts]
      split
      · next heq => simp [heq]
      · next r k keyword n heq =>
          rw [heq]
          by_cases hword : keyword = word
          · simp [hword]
          · simp [hword]
      · next _ hne =>
          simp only [reduceCtorEq, false_iff]
          exact hne registry key word name

theorem not_mem_registry_key (r : Registry) : '/' ∉ r.key.toList := by
  cases r <;> decide

/-- A text is read as a pointer when it is that pointer in writing. -/
theorem parse_eq_ok_iff {text : String} {p : Pointer} :
    parse text = .ok p ↔ IsWritten text p := by
  constructor
  · intro h
    unfold parse at h
    -- Every fault that is looked for is one that the text does not have.
    split at h
    · exact absurd h (by simp only [reduceCtorEq, not_false_eq_true])
    next rest hrest =>
    split at h
    · exact absurd h (by simp only [reduceCtorEq, not_false_eq_true])
    next registry key property hparts =>
    split at h
    · exact absurd h (by simp only [reduceCtorEq, not_false_eq_true])
    next r hregistry =>
    split at h
    · exact absurd h (by simp only [reduceCtorEq, not_false_eq_true])
    next hkey =>
    rw [Except.ok.injEq] at h
    subst h
    rcases parts?_eq_some_iff.mp hparts with ⟨_, hslash, hname, htext⟩
    have hr : registry = r.key.toList := by
      rw [← Registry.ofKey?_eq_some_iff.mp hregistry, String.toList_ofList]
    refine ⟨key, property, fun hnil => hkey (by rw [hnil]; rfl), hslash, hname, ?_, rfl, rfl⟩
    rw [dropBeginning?_eq_some_iff.mp hrest, htext, hr]
    simp only [List.append_assoc]
  · rintro ⟨key, property, hne, hslash, hname, htext, hkey, hproperty⟩
    have hrest : dropBeginning? componentsPath text.toList
        = some (p.registry.key.toList ++ '/' :: key ++ narrowing property) := by
      rw [dropBeginning?_eq_some_iff, htext]
      simp only [List.append_assoc]
    have hparts : parts? (p.registry.key.toList ++ '/' :: key ++ narrowing property)
        = some (p.registry.key.toList, key, property) :=
      parts?_eq_some_iff.mpr ⟨not_mem_registry_key _, hslash, hname, rfl⟩
    have hregistry : Registry.ofKey? (String.ofList p.registry.key.toList) = some p.registry := by
      rw [Registry.ofKey?_eq_some_iff, String.ofList_toList]
    -- The key is there, so the last of the tests passes like the others.
    have hempty : ¬ (key.isEmpty = true) := fun hc => hne (List.isEmpty_iff.mp hc)
    unfold parse
    rw [hrest]
    dsimp only
    rw [hparts]
    dsimp only
    rw [hregistry]
    dsimp only
    rw [if_neg hempty, ← hkey, ← hproperty]

end Pointer

end RouteTypes
