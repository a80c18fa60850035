import RouteTypes.Proofs.Syntax.Token
import RouteTypes.Text.Identifier
import RouteTypes.Typing.Schema

/-!
# Words in the Text of a Type

Which of the names and numbers in a type are single words.

A word may have points and signs in it, so a number is one however it is written, and
the name of a built-in type is one. The name that a component key is turned into keeps
the first character of the key in its upper-case form, whatever character that is. It is
a word when the key starts with a character of a word, as all keys do that follow the
rules for them.

## Main definitions

* `Syntax.WordChars`: The characters of a text can stand in a word.
* `Literal.Plain`: A literal is quoted or a word.

## Theorems

* `Syntax.isWord_plain`, `Syntax.isWord_plainText`: Numbers are words.
* `Schema.literal_plain`: The literals of an enumeration are quoted or words.
* `Syntax.isWord_typeName`: The name of a type is a word.
-/

namespace RouteTypes

namespace Syntax

/-- The characters of a text can stand in a word. -/
def WordChars (text : String) : Prop :=
  ∀ c ∈ text.toList, isWordChar c = true

section Numbers

variable {s t : String}

theorem WordChars.append (hs : WordChars s) (ht : WordChars t) : WordChars (s ++ t) := by
  intro c hc
  rw [String.toList_append] at hc
  rcases List.mem_append.mp hc with hc | hc
  · exact hs c hc
  · exact ht c hc

/-- A word goes on with more characters of its kind. -/
theorem IsWord.append (hs : IsWord s) (ht : WordChars t) : IsWord (s ++ t) := by
  refine ⟨?_, WordChars.append hs.2 ht⟩
  rw [String.toList_append]
  exact List.append_ne_nil_of_left_ne_nil hs.1 _

theorem WordChars.isWord (hs : WordChars s) (ht : IsWord t) : IsWord (s ++ t) := by
  refine ⟨?_, hs.append ht.2⟩
  rw [String.toList_append]
  exact List.append_ne_nil_of_right_ne_nil _ ht.1

theorem wordChars_ofList {cs : List Char} (hs : WordChars s) (h : ∀ c ∈ cs, c ∈ s.toList) :
    WordChars (String.ofList cs) := by
  intro c hc
  rw [String.toList_ofList] at hc
  exact hs c (h c hc)

theorem isWord_nat (code : Nat) : IsWord (toString code) := by
  have hdigits : (toString code).toList = Nat.toDigits 10 code := Nat.toList_repr
  unfold IsWord
  rw [hdigits]
  refine ⟨Nat.toDigits_ne_nil, fun c hc => ?_⟩
  have hdigit := Nat.isDigit_of_mem_toDigits (by decide) (by decide) hc
  rw [isWordChar, Char.isAlphanum, hdigit, Bool.or_true, Bool.true_or]

theorem isWord_int (value : Int) : IsWord (toString value) := by
  cases value with
  | ofNat n => exact isWord_nat n
  | negSucc n =>
      have hminus : IsWord "-" := by decide
      exact hminus.append (isWord_nat (n + 1)).2

theorem wordChars_zeros (n : Nat) : WordChars (Decimal.zeros n) := by
  intro c hc
  rw [Decimal.zeros, String.toList_ofList] at hc
  rw [List.eq_of_mem_replicate hc]
  decide

/-- A decimal is a word wherever its point stands. -/
theorem isWord_plain (d : Decimal) : IsWord d.plain := by
  have hdigits := isWord_nat d.digits
  unfold Decimal.plain
  dsimp only
  -- The point stands behind the digits, among them, or in front.
  split
  · exact hdigits.append (wordChars_zeros _)
  · split
    · have hpoint : IsWord "." := by decide
      refine (WordChars.isWord ?_ hpoint).append ?_
      · exact wordChars_ofList hdigits.2 fun c hc => List.mem_of_mem_take hc
      · exact wordChars_ofList hdigits.2 fun c hc => List.mem_of_mem_drop hc
    · have hzero : IsWord "0." := by decide
      exact (hzero.append (wordChars_zeros _)).append hdigits.2

theorem wordChars_sign (negative : Bool) : WordChars (Double.sign negative) := by
  cases negative with
  | true =>
      have hminus : IsWord "-" := by decide
      exact hminus.2
  | false => exact fun c hc => absurd hc List.not_mem_nil

/-- A floating-point number is written as a word, also when it is none. -/
theorem isWord_plainText (x : Double) : IsWord x.plainText := by
  cases x with
  | finite negative significand exponent =>
      refine (wordChars_sign negative).isWord ?_
      split
      · exact isWord_nat 0
      · exact isWord_plain _
  | infinite negative =>
      have hinf : IsWord "inf" := by decide
      exact (wordChars_sign negative).isWord hinf
  | nan =>
      have hnan : IsWord "NaN" := by decide
      exact hnan

end Numbers

section Names

/-- A part of a name can stand in a word. -/
theorem isWordChar_of_isNamePart {c : Char} (h : Text.isNamePart c = true) :
    isWordChar c = true := by
  unfold Text.isNamePart at h
  unfold isWordChar
  rw [Bool.or_eq_true, Bool.or_eq_true, beq_iff_eq, beq_iff_eq] at h
  rcases h with (halnum | rfl) | rfl
  · rw [halnum, Bool.true_or]
  · decide
  · decide

/-- A key that needs no quotes is a word. -/
theorem isWord_of_not_needsQuotes {name : String} (h : Text.needsQuotes name = false) :
    IsWord name := by
  unfold Text.needsQuotes at h
  unfold IsWord
  split at h
  · exact absurd h (by decide)
  · next c rest hname =>
      rw [Bool.or_eq_false_iff, Bool.not_eq_false', Bool.not_eq_false', List.all_eq_true] at h
      rw [hname]
      refine ⟨List.cons_ne_nil _ _, fun d hd => ?_⟩
      exact isWordChar_of_isNamePart (h.2 d hd)

/-- The characters of words are ASCII characters. -/
theorem toNat_lt_of_isWordChar {c : Char} (h : isWordChar c = true) : c.toNat < 128 := by
  have hbound {last : Char} (hlast : last.toNat < 128) (hle : c.val ≤ last.val) :
      c.toNat < 128 := Nat.lt_of_le_of_lt (UInt32.le_iff_toNat_le.mp hle) hlast
  unfold isWordChar at h
  rw [Bool.or_eq_true, List.contains_iff_mem] at h
  rcases h with h | h
  · -- Letters and digits stand before the last of their kind.
    rcases (Bool.or_eq_true _ _).mp h with halpha | hdigit
    · rcases (Bool.or_eq_true _ _).mp halpha with hupper | hlower
      · have hz : 'Z'.toNat < 128 := by decide
        exact hbound hz (of_decide_eq_true hupper).2
      · have hz : 'z'.toNat < 128 := by decide
        exact hbound hz (of_decide_eq_true ((Bool.and_eq_true _ _).mp hlower).2)
    · have hnine : '9'.toNat < 128 := by decide
      exact hbound hnine (of_decide_eq_true ((Bool.and_eq_true _ _).mp hdigit).2)
  · simp only [List.mem_cons, List.not_mem_nil, or_false] at h
    rcases h with rfl | rfl | rfl | rfl <;> decide

/-- What is true of the first 128 characters by their numbers is true of each of them. -/
theorem holds_of_ascii {P : Char → Prop} (hall : ∀ code < 128, P (Char.ofNat code)) {c : Char}
    (hc : c.toNat < 128) : P c := by
  have hcode := hall c.toNat hc
  rwa [Char.ofNat_toNat] at hcode

/-- A character of a word stays one in upper case. -/
theorem isWordChar_toUpper {c : Char} (h : isWordChar c = true) :
    isWordChar c.toUpper = true := by
  have hall : ∀ code < 128, isWordChar (Char.ofNat code) = true →
      isWordChar (Char.ofNat code).toUpper = true := by decide
  refine holds_of_ascii (P := fun c => isWordChar c = true → isWordChar c.toUpper = true) hall ?_ h
  exact toNat_lt_of_isWordChar h

/-- The name of a type is a word when its key starts with a character of one. -/
theorem isWord_typeName {key : String}
    (h : ∀ c, key.toList.head? = some c → isWordChar c = true) : IsWord (Text.typeName key) := by
  unfold IsWord Text.typeName
  rw [String.toList_ofList]
  cases hkey : key.toList with
  | nil =>
      refine ⟨List.cons_ne_nil _ _, fun d hd => ?_⟩
      rw [List.mem_singleton.mp hd]
      decide
  | cons c rest =>
      rw [hkey] at h
      have hc := h c rfl
      -- The first character is within ASCII, so it has one capital.
      have hupper : Text.upper c = [c.toUpper] := if_pos (toNat_lt_of_isWordChar hc)
      rw [Text.typeNameChars, hupper]
      refine ⟨?_, fun d hd => ?_⟩
      · exact List.append_ne_nil_of_left_ne_nil
          (List.append_ne_nil_of_right_ne_nil _ (List.cons_ne_nil _ _)) _
      · rcases List.mem_append.mp hd with hd | hd
        · rcases List.mem_append.mp hd with hd | hd
          · split at hd
            · exact absurd hd List.not_mem_nil
            · rw [List.mem_singleton.mp hd]
              decide
          · rw [List.mem_singleton.mp hd]
            exact isWordChar_toUpper hc
        · rcases List.mem_map.mp hd with ⟨e, _, rfl⟩
          -- Behind the first character a part of a name stays, and a sign takes the place of any
          -- other.
          split
          · next hpart => exact isWordChar_of_isNamePart hpart
          · decide

/-- The fixed names of types are words. -/
theorem isWord_fixed : ∀ text ∈ ["string", "number", "boolean", "null", "any", "Date", "File",
    "ReadStream", "Blob", "FormData", "URLSearchParams", "undefined"], IsWord text := by
  decide

end Names

end Syntax

open Syntax

/-- A literal that stands for itself is a word. -/
def Literal.Plain : Literal → Prop
  | quoted _ => True
  | raw token => IsWord token

/-- The literals of an enumeration are quoted or words. -/
theorem Schema.literal_plain (quoteAll : Bool) (m : EnumMember) :
    (Schema.literal quoteAll m).Plain := by
  have htoken {text : String} (h : IsWord text) : (Schema.literal.token quoteAll text).Plain := by
    unfold Schema.literal.token
    split
    · trivial
    · exact h
  -- The words that stand for themselves are the same for all members.
  have hfixed : ∀ text ∈ ["null", "true", "false"], IsWord text := by decide
  cases m with
  | string text => trivial
  | null => exact hfixed "null" (by decide)
  | integer value => exact htoken (isWord_int value)
  | float value => exact htoken (isWord_plainText value)
  | boolean value => exact htoken (hfixed _ (by cases value <;> decide))

end RouteTypes
