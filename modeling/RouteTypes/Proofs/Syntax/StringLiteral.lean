import RouteTypes.Proofs.GlobalNames
import RouteTypes.Proofs.SchemaKeys
import RouteTypes.Text.Hexadecimal

/-!
# String Literals

What the quoted texts of the output mean to their reader.

Enumeration members, narrowed properties and the names that are no identifiers are
written between single quotes. Here they are read back by the rules of the target
language: a text is a sequence of 16-bit units, a backslash begins an escape, and the
first quote that is not part of an escape ends the literal. A line feed or a carriage
return may not stand in a literal as it is; the other two line terminators may.

Writing puts a backslash before backslashes and quotes and nowhere else. So the scanner
is in its first mode before every character of the text, and what it yields is the text.
Only a line break is in its way: it would have to be escaped too, and is not. A text
without line breaks is thus read back whatever follows the literal, and a text with one
is no literal at all (`read?_quoted`).

## Main definitions

* `StringLiteral.units`: The 16-bit units of a text.
* `StringLiteral.Mode`, `StringLiteral.step`: A scanner for single-quoted literals.
* `StringLiteral.read?`: The units of the literal at the start of a text.
* `StringLiteral.keyValue?`: The units of the name that an object key stands for.
* `Text.ReadsBack`: What reading makes of a text in quotes and as a key.

## Theorems

* `StringLiteral.units_injective`: Distinct texts have distinct units.
* `StringLiteral.scan_escapeQuoted`: Scanning what was escaped.
* `StringLiteral.objectKey_injective`: Distinct names have distinct keys.
* `quoted_readsBack`: Which texts are read back.
-/

namespace RouteTypes

namespace StringLiteral

section Units

/-- The 16-bit units of a code point: the number itself, or two halves. -/
def codeUnits (code : Nat) : List Nat :=
  if code < 0x10000 then [code]
  else [0xD800 + (code - 0x10000) / 0x400, 0xDC00 + (code - 0x10000) % 0x400]

/-- The units of some characters. -/
def units (cs : List Char) : List Nat :=
  cs.flatMap fun c => codeUnits c.toNat

theorem units_cons (c : Char) (cs : List Char) :
    units (c :: cs) = codeUnits c.toNat ++ units cs := List.flatMap_cons

/-- A character is none of the halves that pairs are made of. -/
theorem toNat_valid (c : Char) :
    c.toNat < 0xD800 ∨ 0xDFFF < c.toNat ∧ c.toNat < 0x110000 := c.valid

/-- The first units of a text are those of one character only: no character is a half of
    another. -/
theorem codeUnits_append_inj {c d : Char} {us vs : List Nat}
    (h : codeUnits c.toNat ++ us = codeUnits d.toNat ++ vs) : c = d ∧ us = vs := by
  have hc := toNat_valid c
  have hd := toNat_valid d
  rw [← Char.toNat_inj]
  unfold codeUnits at h
  -- One unit or two: a pair begins with a half, which is no character, so both have as many.
  by_cases hcs : c.toNat < 0x10000
  · by_cases hds : d.toNat < 0x10000
    · rw [if_pos hcs, if_pos hds, List.singleton_append, List.singleton_append,
        List.cons.injEq] at h
      exact h
    · rw [if_pos hcs, if_neg hds, List.singleton_append, List.cons_append, List.cons.injEq] at h
      omega
  · by_cases hds : d.toNat < 0x10000
    · rw [if_neg hcs, if_pos hds, List.singleton_append, List.cons_append, List.cons.injEq] at h
      omega
    · rw [if_neg hcs, if_neg hds, List.cons_append, List.singleton_append, List.cons_append,
        List.singleton_append, List.cons.injEq, List.cons.injEq] at h
      rcases h with ⟨hhigh, hlow, hrest⟩
      exact ⟨by omega, hrest⟩

theorem codeUnits_ne_nil (code : Nat) : codeUnits code ≠ [] := by
  unfold codeUnits
  split <;> exact List.cons_ne_nil _ _

/-- Distinct texts have distinct units. -/
theorem units_injective {cs ds : List Char} (h : units cs = units ds) : cs = ds := by
  induction cs generalizing ds with
  | nil =>
      cases ds with
      | nil => rfl
      | cons d ds =>
          -- A character leaves a unit, and the empty text has none.
          rw [units_cons] at h
          exact absurd (List.append_eq_nil_iff.mp h.symm).1 (codeUnits_ne_nil _)
  | cons c cs ih =>
      cases ds with
      | nil =>
          rw [units_cons] at h
          exact absurd (List.append_eq_nil_iff.mp h).1 (codeUnits_ne_nil _)
      | cons d ds =>
          rw [units_cons, units_cons] at h
          rcases codeUnits_append_inj h with ⟨rfl, hrest⟩
          rw [ih hrest]

end Units

section Scanner

/-- Where the scanner is in a literal. -/
inductive Mode where
  /-- Before any character. -/
  | plain
  /-- Behind a backslash. -/
  | escape
  /-- Behind an escaped zero, which no digit may follow. -/
  | zero
  /-- Behind an escaped carriage return, which a line feed belongs to. -/
  | continued
  /-- Before one hexadecimal digit and some more. -/
  | hex (more value : Nat)
  /-- At the start of an escaped code point. -/
  | code
  /-- Among the hexadecimal digits in braces. -/
  | braces (value : Option Nat)

/-- What a character does to the scanner. -/
inductive Scan where
  | fail
  | close
  | go (mode : Mode) (units : List Nat)

/-- A character that is not part of an escape. -/
def plainStep (c : Char) : Scan :=
  if c = '\'' then .close
  else if c = '\\' then .go .escape []
  else if c = '\n' ∨ c = '\r' then .fail
  else .go .plain (codeUnits c.toNat)

/-- The unit that a letter behind a backslash stands for. -/
def letterUnit? : Char → Option Nat
  | 'b' => some 8
  | 't' => some 9
  | 'n' => some 10
  | 'v' => some 11
  | 'f' => some 12
  | 'r' => some 13
  | _ => none

/-- The character behind a backslash. A line terminator goes on with the literal on the
    next line, and any character without a meaning of its own stands for itself. -/
def escapeStep (c : Char) : Scan :=
  if c = '\r' then .go .continued []
  else if c = '\n' ∨ c = '\u2028' ∨ c = '\u2029' then .go .plain []
  else if c = '0' then .go .zero [0]
  else if c.isDigit then .fail
  else if c = 'x' then .go (.hex 1 0) []
  else if c = 'u' then .go .code []
  else
    match letterUnit? c with
    | some unit => .go .plain [unit]
    | none => .go .plain (codeUnits c.toNat)

/-- A hexadecimal digit with some more to come. -/
def hexStep (more value : Nat) (c : Char) : Scan :=
  match Text.hexDigit? c, more with
  | none, _ => .fail
  | some digit, 0 => .go .plain [value * 16 + digit]
  | some digit, more + 1 => .go (.hex more (value * 16 + digit)) []

/-- A hexadecimal digit of a code point, or the brace behind it. -/
def bracesStep (value : Option Nat) (c : Char) : Scan :=
  if c = '}' then
    match value with
    | some code => .go .plain (codeUnits code)
    | none => .fail
  else
    match Text.hexDigit? c with
    | some digit =>
      if value.getD 0 * 16 + digit ≤ 0x10FFFF then
        .go (.braces (some (value.getD 0 * 16 + digit))) []
      else .fail
    | none => .fail

/-- One step of the scanner. -/
def step : Mode → Char → Scan
  | .plain, c => plainStep c
  | .escape, c => escapeStep c
  | .zero, c => if c.isDigit then .fail else plainStep c
  | .continued, c => if c = '\n' then .go .plain [] else plainStep c
  | .hex more value, c => hexStep more value c
  | .code, c => if c = '{' then .go (.braces none) [] else hexStep 3 0 c
  | .braces value, c => bracesStep value c

/-- The units up to the end of the literal, and the text behind it. -/
def scan : Mode → List Char → Option (List Nat × List Char)
  | _, [] => none
  | mode, c :: rest =>
    match step mode c with
    | .fail => none
    | .close => some ([], rest)
    | .go mode units => (scan mode rest).map fun r => (units ++ r.1, r.2)

/-- The units of the single-quoted literal at the start of a text, and the rest of the
    text. -/
def read? : List Char → Option (List Nat × List Char)
  | '\'' :: rest => scan .plain rest
  | _ => none

/-- The units of the name that an object key stands for: an identifier stands for itself,
    a literal for its value. -/
def keyValue? (key : List Char) : Option (List Nat) :=
  if Text.IsIdentifier key then some (units key)
  else
    match read? key with
    | some (value, []) => some value
    | _ => none

/-- A line feed or a carriage return. -/
def IsLineBreak (c : Char) : Prop :=
  c = '\n' ∨ c = '\r'

instance : DecidablePred IsLineBreak := fun c =>
  inferInstanceAs (Decidable (c = '\n' ∨ c = '\r'))

/-- A line feed or a carriage return stands in the text. -/
def BreaksLine (cs : List Char) : Prop :=
  ∃ c ∈ cs, IsLineBreak c

instance : DecidablePred BreaksLine := fun cs =>
  decidable_of_iff ((cs.any fun c => decide (IsLineBreak c)) = true) (by
    rw [List.any_eq_true]
    simp only [decide_eq_true_iff]
    rfl)

theorem not_breaksLine_nil : ¬ BreaksLine [] := by
  rintro ⟨c, hc, -⟩
  exact List.not_mem_nil hc

theorem breaksLine_cons_iff (c : Char) (cs : List Char) :
    BreaksLine (c :: cs) ↔ IsLineBreak c ∨ BreaksLine cs :=
  List.exists_mem_cons_iff IsLineBreak c cs

end Scanner

section Reading

variable {mode next : Mode} {c : Char} {us : List Nat} {cs rest : List Char}

/-- The scanner goes on in the next mode, with the units of the character in front. -/
theorem scan_of_go (h : step mode c = .go next us) :
    scan mode (c :: cs) = (scan next cs).map fun r => (us ++ r.1, r.2) := by
  rw [scan, h]

theorem scan_of_fail (h : step mode c = .fail) : scan mode (c :: cs) = none := by
  rw [scan, h]

/-- A character that is escaped is read as itself. -/
theorem scan_escaped (hc : c = '\\' ∨ c = '\'') :
    scan .plain ('\\' :: c :: cs) =
      (scan .plain cs).map fun r => (codeUnits c.toNat ++ r.1, r.2) := by
  have hescape : step .plain '\\' = .go .escape [] := rfl
  have hstep : step .escape c = .go .plain (codeUnits c.toNat) := by
    rcases hc with rfl | rfl <;> rfl
  rw [scan_of_go hescape, scan_of_go hstep, Option.map_map]
  rfl

/-- So is one that needs no escape, if it breaks no line. -/
theorem scan_unescaped (hc : ¬ (c = '\\' ∨ c = '\'')) (hline : ¬ IsLineBreak c) :
    scan .plain (c :: cs) = (scan .plain cs).map fun r => (codeUnits c.toNat ++ r.1, r.2) := by
  rw [not_or] at hc
  have hstep : step .plain c = .go .plain (codeUnits c.toNat) := by
    rw [step, plainStep, if_neg hc.2, if_neg hc.1]
    exact if_neg hline
  exact scan_of_go hstep

/-- A line break stops the scanner. -/
theorem scan_lineBreak (hline : IsLineBreak c) : scan .plain (c :: cs) = none := by
  have hquote : c ≠ '\'' := by rcases hline with rfl | rfl <;> decide
  have hescape : c ≠ '\\' := by rcases hline with rfl | rfl <;> decide
  refine scan_of_fail ?_
  rw [step, plainStep, if_neg hquote, if_neg hescape]
  exact if_pos hline

/-- What was escaped is read up to the quote behind it, unless it breaks a line. -/
theorem scan_escapeQuoted (cs rest : List Char) :
    scan .plain (Text.escapeQuoted cs ++ '\'' :: rest) =
      if BreaksLine cs then none else some (units cs, rest) := by
  induction cs with
  | nil =>
      rw [if_neg not_breaksLine_nil]
      rfl
  | cons c cs ih =>
      -- The units of the first character stand in front of those of the rest, if these are read.
      have hmap : Option.map (fun r => (codeUnits c.toNat ++ r.1, r.2))
          (if BreaksLine cs then none else some (units cs, rest)) =
          if BreaksLine cs then none else some (units (c :: cs), rest) := by
        rw [units_cons]
        by_cases hrest : BreaksLine cs
        · rw [if_pos hrest, if_pos hrest]
          rfl
        · rw [if_neg hrest, if_neg hrest]
          rfl
      rw [Text.escapeQuoted]
      by_cases hc : c = '\\' ∨ c = '\''
      -- The characters that are escaped break no line.
      · have hline : ¬ IsLineBreak c := by rcases hc with rfl | rfl <;> decide
        rw [if_pos hc, List.cons_append, List.cons_append, scan_escaped hc, ih, hmap]
        simp only [breaksLine_cons_iff, hline, false_or]
      · rw [if_neg hc, List.cons_append]
        by_cases hline : IsLineBreak c
        · rw [scan_lineBreak hline, if_pos ((breaksLine_cons_iff c cs).mpr (Or.inl hline))]
        · rw [scan_unescaped hc hline, ih, hmap]
          simp only [breaksLine_cons_iff, hline, false_or]

end Reading

section Keys

/-- A text in quotes is one literal with the text as its value, unless it breaks a line. -/
theorem read?_quoted (text : String) (rest : List Char) :
    read? ((Text.quoted text).toList ++ rest) =
      if BreaksLine text.toList then none else some (units text.toList, rest) := by
  rw [Text.quoted, String.toList_ofList, List.cons_append, List.cons_append, List.append_assoc,
    List.singleton_append, read?]
  exact scan_escapeQuoted text.toList rest

/-- All characters of an identifier are characters of names. -/
theorem isIdentifier_cons_iff (c : Char) (rest : List Char) :
    Text.IsIdentifier (c :: rest) ↔
      Text.isNameStart c = true ∧ (c :: rest).all Text.isNamePart = true := by
  rw [List.all_cons, Bool.and_eq_true]
  exact and_congr_right fun hstart => (and_iff_right (isNamePart_of_isNameStart hstart)).symm

/-- A name needs quotes when it is no identifier. -/
theorem needsQuotes_iff (name : String) :
    Text.needsQuotes name = true ↔ ¬ Text.IsIdentifier name.toList := by
  unfold Text.needsQuotes
  cases name.toList with
  | nil => exact iff_of_true rfl id
  | cons c rest =>
      dsimp only
      rw [isIdentifier_cons_iff, not_and_or, Bool.not_eq_true, Bool.not_eq_true, Bool.or_eq_true,
        Bool.not_eq_true', Bool.not_eq_true']

/-- An identifier breaks no line. -/
theorem not_isLineBreak_of_isIdentifier {cs : List Char} (h : Text.IsIdentifier cs) :
    ¬ BreaksLine cs := by
  rintro ⟨c, hc, hline⟩
  have hpart : Text.isNamePart c = true := by
    cases cs with
    | nil => exact absurd hc List.not_mem_nil
    | cons d rest => exact List.all_eq_true.mp ((isIdentifier_cons_iff d rest).mp h).2 c hc
  rcases hline with rfl | rfl
  · exact absurd hpart (by decide)
  · exact absurd hpart (by decide)

theorem not_isIdentifier_quoted (text : String) :
    ¬ Text.IsIdentifier (Text.quoted text).toList := by
  rw [Text.quoted, String.toList_ofList, List.cons_append]
  exact fun h => absurd h.1 (by decide)

/-- A name is a key as it is when it is an identifier, and in quotes otherwise. -/
theorem objectKey_eq (name : String) :
    Text.objectKey name = if Text.IsIdentifier name.toList then name else Text.quoted name := by
  unfold Text.objectKey
  by_cases hname : Text.IsIdentifier name.toList
  · rw [if_pos hname, if_neg (mt (needsQuotes_iff name).mp (not_not.mpr hname))]
  · rw [if_neg hname, if_pos ((needsQuotes_iff name).mpr hname)]

/-- An object key stands for the name it was written for, unless the name breaks a line. -/
theorem keyValue?_objectKey (name : String) :
    keyValue? (Text.objectKey name).toList =
      if BreaksLine name.toList then none else some (units name.toList) := by
  unfold keyValue?
  rw [objectKey_eq]
  by_cases hname : Text.IsIdentifier name.toList
  · rw [if_pos hname, if_pos hname, if_neg (not_isLineBreak_of_isIdentifier hname)]
  -- The literal is the whole key, so nothing is left behind it.
  · have hread := read?_quoted name []
    rw [List.append_nil] at hread
    rw [if_neg hname, if_neg (not_isIdentifier_quoted name), hread]
    by_cases hline : BreaksLine name.toList
    · rw [if_pos hline, if_pos hline]
    · rw [if_neg hline, if_neg hline]

/-- Distinct names have distinct keys, whether these can be read or not. -/
theorem objectKey_injective {name other : String}
    (h : Text.objectKey name = Text.objectKey other) : name = other := by
  have hrender : PropertyName.render (.field name) = PropertyName.render (.field other) := h
  exact PropertyName.field.inj (PropertyName.render_injective hrender)

end Keys

end StringLiteral

section ReadingBack

open StringLiteral

/-- What reading makes of a text in quotes, and of a name as an object key. -/
structure Text.ReadsBack (text : String) : Prop where
  /-- In quotes the text is one literal, which ends where the quotes end and has the text
      as its value, unless the text breaks a line. Then it is no literal at all. -/
  literal : ∀ rest, read? ((quoted text).toList ++ rest) =
    if BreaksLine text.toList then none else some (units text.toList, rest)
  /-- As a key it stands bare when it is an identifier, and in quotes otherwise. -/
  key : objectKey text = if IsIdentifier text.toList then text else quoted text
  /-- Either way the key stands for the name, with the same exception. -/
  keyValue : keyValue? (objectKey text).toList =
    if BreaksLine text.toList then none else some (units text.toList)
  /-- The value tells which text was written. -/
  value_injective : ∀ other : String, units other.toList = units text.toList → other = text
  /-- Distinct names never have the same key. -/
  key_injective : ∀ other, objectKey other = objectKey text → other = text

/-- Every text is read back as it was written, except where it breaks a line. -/
theorem quoted_readsBack (text : String) : Text.ReadsBack text where
  literal := read?_quoted text
  key := objectKey_eq text
  keyValue := keyValue?_objectKey text
  value_injective := fun _ h => String.toList_inj.mp (units_injective h)
  key_injective := fun _ h => objectKey_injective h

/-- A line feed is written as it is, and stops the literal. With an escape in its place
    the literal would have the text as its value. -/
theorem quoted_lineFeed_unread :
    Text.quoted "a\nb" = "'a\nb'" ∧ read? (Text.quoted "a\nb").toList = none ∧
      keyValue? (Text.objectKey "a\nb").toList = none ∧
      read? "'a\\nb'".toList = some (units "a\nb".toList, []) := by
  refine ⟨by decide, by decide, by decide, by decide⟩

end ReadingBack

end RouteTypes
