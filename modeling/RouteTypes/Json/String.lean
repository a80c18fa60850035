import RouteTypes.Data.Node
import RouteTypes.Text.Hexadecimal

/-!
# JSON Strings

How a text is written in JSON.

Between its quotes a text stands for itself, except for escapes and for controls,
which may not occur. A character above U+FFFF is escaped as two halves. A half alone
stands for no character: that is a fault of the text's value, but not of the way it
is written, so a string that is passed over may have it.

## Main definitions

* `StringText`: A string: its text, or what is wrong with it, and what follows.
* `StringText.read`: Reads a string after its opening quote.
-/

namespace RouteTypes

namespace Json

/-- A string and what follows it. `text` is its text, unless a half of a character
    is in it. -/
structure StringText where
  text : Except TextFault (List Char)
  rest : List Char

namespace StringText

/-- The value of four hexadecimal digits at the start of a text. A text of less than
    four bytes ends before the escape does. -/
def hexEscape (cs : List Char) : Except TextFault (Nat × List Char) :=
  if (String.ofList (cs.take 4)).utf8ByteSize < 4 then .error .endInString
  else match Text.hexNumber? (cs.take 4) with
    | some code => .ok (code, cs.drop 4)
    | none => .error .invalidEscape

/-- The character of a one-letter escape. -/
def shortEscape? : Char → Option Char
  | '"' => some '"'
  | '\\' => some '\\'
  | '/' => some '/'
  | 'b' => some '\x08'
  | 'f' => some '\x0c'
  | 'n' => some '\n'
  | 'r' => some '\r'
  | 't' => some '\t'
  | _ => none

/-- The first half of a character. -/
def isLeading (code : Nat) : Bool := 0xD800 ≤ code && code ≤ 0xDBFF

/-- The second half of a character. -/
def isTrailing (code : Nat) : Bool := 0xDC00 ≤ code && code ≤ 0xDFFF

/-- What follows the first half of a character has to be an escape with the second
    half. The result is the character, what is wrong with it, or a fault of the
    text; a good second half is taken away. -/
def pair (first : Nat) (cs : List Char) :
    Except TextFault (Except TextFault Char × List Char) :=
  match cs with
  | [] => .error .endInString
  | '\\' :: [] => .error .endInString
  | '\\' :: 'u' :: rest => do
    let (second, rest) ← hexEscape rest
    if isTrailing second then
      pure (.ok (Char.ofNat (0x10000 + (first - 0xD800) * 0x400 + (second - 0xDC00))), rest)
    else pure (.error .loneSurrogate, cs)
  | _ => .ok (.error .endOfHexEscape, cs)

/-- The character of an escape, after its backslash. -/
def escape : List Char → Except TextFault (Except TextFault Char × List Char)
  | [] => .error .endInString
  | 'u' :: cs => do
    let (code, cs) ← hexEscape cs
    if isTrailing code then pure (.error .loneSurrogate, cs)
    else if isLeading code then
      match pair code cs with
      | .ok result => pure result
      | .error fault => pure (.error fault, cs)
    else pure (.ok (Char.ofNat code), cs)
  | c :: cs =>
    match shortEscape? c with
    | some c => .ok (.ok c, cs)
    | none => .error .invalidEscape

/-- A text with one more character before it. The first thing wrong with it counts. -/
def prepend (c : Except TextFault Char) (s : StringText) : StringText :=
  { s with
    text := do
      let c ← c
      let cs ← s.text
      pure (c :: cs) }

/-- An escape takes digits away and adds nothing. -/
theorem length_le_of_hexEscape {cs rest : List Char} {code : Nat}
    (h : hexEscape cs = .ok (code, rest)) : rest.length ≤ cs.length := by
  unfold hexEscape at h
  split at h
  · exact absurd h (by simp)
  · split at h
    · next found _ =>
      obtain ⟨rfl, rfl⟩ := Prod.mk.inj (Except.ok.inj h)
      rw [List.length_drop]
      omega
    · exact absurd h (by simp)

theorem length_le_of_pair {first : Nat} {cs rest : List Char} {c : Except TextFault Char}
    (h : pair first cs = .ok (c, rest)) : rest.length ≤ cs.length := by
  unfold pair at h
  split at h
  · exact absurd h (by simp)
  · exact absurd h (by simp)
  · next digits =>
    cases hhex : hexEscape digits with
    | error fault =>
      rw [hhex] at h
      exact absurd h (by simp [bind, Except.bind])
    | ok found =>
      obtain ⟨second, after⟩ := found
      have hle := length_le_of_hexEscape hhex
      rw [hhex] at h
      simp only [bind, Except.bind, pure, Except.pure] at h
      split at h
      · obtain ⟨_, rfl⟩ := Prod.mk.inj (Except.ok.inj h)
        simp only [List.length_cons]
        omega
      · obtain ⟨_, rfl⟩ := Prod.mk.inj (Except.ok.inj h)
        exact Nat.le_refl _
  · obtain ⟨_, rfl⟩ := Prod.mk.inj (Except.ok.inj h)
    exact Nat.le_refl _

/-- What follows an escape is shorter than what follows its backslash. -/
theorem length_lt_of_escape {cs rest : List Char} {c : Except TextFault Char}
    (h : escape cs = .ok (c, rest)) : rest.length < cs.length := by
  unfold escape at h
  split at h
  · exact absurd h (by simp)
  · next digits =>
    cases hhex : hexEscape digits with
    | error fault =>
      rw [hhex] at h
      exact absurd h (by simp [bind, Except.bind])
    | ok found =>
      obtain ⟨code, after⟩ := found
      have hle := length_le_of_hexEscape hhex
      rw [hhex] at h
      simp only [bind, Except.bind, pure, Except.pure] at h
      rw [List.length_cons]
      split at h
      · obtain ⟨_, rfl⟩ := Prod.mk.inj (Except.ok.inj h)
        omega
      · split at h
        · split at h
          · next result hpair =>
            obtain rfl := Except.ok.inj h
            have := length_le_of_pair hpair
            omega
          · obtain ⟨_, rfl⟩ := Prod.mk.inj (Except.ok.inj h)
            omega
        · obtain ⟨_, rfl⟩ := Prod.mk.inj (Except.ok.inj h)
          omega
  · split at h
    · obtain ⟨_, rfl⟩ := Prod.mk.inj (Except.ok.inj h)
      simp
    · exact absurd h (by simp)

/-- Reads a string after its opening quote. The error is the fault by both its names,
    which differ when a half of a character comes before it. -/
def read : List Char → Except Fault StringText
  | [] => .error (.same .endInString)
  | '"' :: rest => .ok { text := .ok [], rest }
  | '\\' :: cs =>
    match _h : escape cs with
    | .error fault => .error (.same fault)
    | .ok (c, rest) =>
      match read rest, c with
      | .ok s, c => .ok (s.prepend c)
      | .error fault, .ok _ => .error fault
      | .error fault, .error first => .error { fault with wanted := first }
  | c :: cs =>
    if c.toNat < 0x20 then .error (.same .controlCharacter)
    else (read cs).map (prepend (.ok c))
termination_by cs => cs.length
decreasing_by
  · have := length_lt_of_escape _h
    simp only [List.length_cons]
    omega
  · simp

end StringText

end Json

end RouteTypes
