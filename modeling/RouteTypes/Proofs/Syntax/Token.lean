import RouteTypes.Text.Quoted
import Mathlib.Data.List.Chain

/-!
# The Tokens of a Type

How the text of a type falls apart into tokens.

A lexeme is a token or something between tokens, so a list of lexemes spells a text
(`Lexeme.spell`) and also says which tokens are in it. The lexer goes the other way. It
knows nothing of where the text comes from: it takes words and quoted texts as far as
they reach and skips blanks and comments.

Both agree on texts in which every word ends where the next lexeme begins and no comment
holds the mark that ends it (`Spaced`). The first condition looks at the spelled text and
not at the next lexeme, because blanks may be none at all.

## Main definitions

* `Token`, `Lexeme`: The parts of a text.
* `Lexeme.spell`: The characters of a lexeme.
* `lex`: The tokens of a text.
* `Spaced`: Lexemes that the lexer can tell apart.

## Theorems

* `lex_spell`: The lexer finds the tokens of spelled lexemes.
-/

namespace RouteTypes

namespace Syntax

/-- A part of a type that means something. Names, numbers and keywords are words. -/
inductive Token where
  | word (text : String)
  | quoted (text : String)
  | mark (c : Char)
  | newline
  deriving DecidableEq, Repr

/-- A token, or what may stand between two. -/
inductive Lexeme where
  | token (t : Token)
  | blanks (count : Nat)
  | comment (body : List Char)
  deriving DecidableEq, Repr

namespace Lexeme

/-- The token of a lexeme, if it is one. -/
def token? : Lexeme → Option Token
  | token t => some t
  | blanks _ | comment _ => none

/-- The characters of a lexeme. -/
def spell : Lexeme → List Char
  | token (.word text) => text.toList
  | token (.quoted text) => (Text.quoted text).toList
  | token (.mark c) => [c]
  | token .newline => ['\n']
  | blanks count => List.replicate count ' '
  | comment body => '/' :: '*' :: body ++ ['*', '/']

end Lexeme

/-- The tokens among some lexemes. -/
def tokens (ls : List Lexeme) : List Token :=
  ls.filterMap Lexeme.token?

/-- The text that some lexemes spell. -/
def spelled (ls : List Lexeme) : List Char :=
  ls.flatMap Lexeme.spell

@[simp] theorem tokens_token (t : Token) (ls : List Lexeme) :
    tokens (.token t :: ls) = t :: tokens ls := rfl

@[simp] theorem tokens_append (ls ls' : List Lexeme) :
    tokens (ls ++ ls') = tokens ls ++ tokens ls' :=
  List.filterMap_append

@[simp] theorem spelled_nil : spelled [] = [] := rfl

@[simp] theorem spelled_cons (l : Lexeme) (ls : List Lexeme) :
    spelled (l :: ls) = l.spell ++ spelled ls := rfl

@[simp] theorem spelled_append (ls ls' : List Lexeme) :
    spelled (ls ++ ls') = spelled ls ++ spelled ls' :=
  List.flatMap_append

/-- A character of a word. A number may have a sign and a point, and the parts of a
    qualified name are one word. -/
def isWordChar (c : Char) : Bool :=
  c.isAlphanum || ['_', '$', '.', '-'].contains c

/-- What the lexer is in the middle of. Characters already read stand last first. -/
inductive LexMode where
  | between
  | word (read : List Char)
  | quote (read : List Char)
  | escape (read : List Char)
  | slash
  | comment
  | star

/-- The lexer at a character that starts something new. -/
def begin (c : Char) : LexMode × List Token :=
  if isWordChar c then (.word [c], [])
  else if c = '\'' then (.quote [], [])
  else if c = '/' then (.slash, [])
  else if c = '\n' then (.between, [.newline])
  else if c = ' ' then (.between, [])
  else (.between, [.mark c])

/-- The lexer after one more character, with the tokens that end before it or at it. -/
def lexStep : LexMode → Char → LexMode × List Token
  | .between, c => begin c
  | .word read, c =>
    if isWordChar c then (.word (c :: read), [])
    else ((begin c).1, .word (String.ofList read.reverse) :: (begin c).2)
  | .quote read, c =>
    if c = '\\' then (.escape read, [])
    else if c = '\'' then (.between, [.quoted (String.ofList read.reverse)])
    else (.quote (c :: read), [])
  | .escape read, c => (.quote (c :: read), [])
  | .slash, c =>
    if c = '*' then (.comment, []) else ((begin c).1, .mark '/' :: (begin c).2)
  | .comment, c => if c = '*' then (.star, []) else (.comment, [])
  | .star, c =>
    if c = '/' then (.between, []) else if c = '*' then (.star, []) else (.comment, [])

/-- The tokens of a text in the middle of something. -/
def lexFrom : LexMode → List Char → List Token
  | .word read, [] => [.word (String.ofList read.reverse)]
  | .slash, [] => [.mark '/']
  | _, [] => []
  | mode, c :: cs => (lexStep mode c).2 ++ lexFrom (lexStep mode c).1 cs

/-- The tokens of a text. -/
def lex (cs : List Char) : List Token :=
  lexFrom .between cs

/-- The text does not start inside a word. -/
def Apart (cs : List Char) : Prop :=
  ∀ c, cs.head? = some c → isWordChar c = false

/-- The mark that ends a comment does not occur. -/
def NoEnd (cs : List Char) : Prop :=
  cs.IsChain fun c d => ¬ (c = '*' ∧ d = '/')

/-- A character that is a token of its own. -/
def isMark (c : Char) : Bool :=
  !(isWordChar c || ['\'', '/', '\n', ' '].contains c)

/-- The text is one word. -/
def IsWord (text : String) : Prop :=
  text.toList ≠ [] ∧ ∀ c ∈ text.toList, isWordChar c = true

instance : DecidablePred IsWord := fun text =>
  decidable_of_iff (text.toList ≠ [] ∧ text.toList.all isWordChar = true)
    (and_congr_right fun _ => List.all_eq_true)

/-- A lexeme that the lexer can recognise. -/
def Lexeme.Proper : Lexeme → Prop
  | token (.word text) => IsWord text
  | token (.mark c) => isMark c = true
  | token (.quoted _) | token .newline | blanks _ => True
  | comment body => NoEnd body

/-- A lexeme that goes on as long as there are characters for it. -/
def Lexeme.isWord : Lexeme → Bool
  | token (.word _) => true
  | _ => false

/-- Lexemes that the lexer can tell apart. -/
def Spaced : List Lexeme → Prop
  | [] => True
  | l :: rest => l.Proper ∧ (l.isWord = true → Apart (spelled rest)) ∧ Spaced rest

section Lexer

variable {rest : List Char}

theorem lexFrom_cons (mode : LexMode) (c : Char) (cs : List Char) :
    lexFrom mode (c :: cs) = (lexStep mode c).2 ++ lexFrom (lexStep mode c).1 cs := by
  cases mode <;> rfl

/-- A word is read on to its end. -/
theorem lexFrom_word {read cs : List Char} (h : ∀ c ∈ cs, isWordChar c = true) :
    lexFrom (.word read) (cs ++ rest) = lexFrom (.word (cs.reverse ++ read)) rest := by
  induction cs generalizing read with
  | nil => rfl
  | cons c cs ih =>
      have hc := h c List.mem_cons_self
      -- The first character is added to what was read, in front of the rest reversed.
      rw [List.cons_append, lexFrom_cons, lexStep, if_pos hc, List.nil_append,
        ih fun d hd => h d (List.mem_cons_of_mem c hd), List.reverse_cons, List.append_assoc]
      rfl

/-- Where a word ends, the lexer goes on as if nothing had been read. -/
theorem lexFrom_word_end {read : List Char} (h : Apart rest) :
    lexFrom (.word read) rest = .word (String.ofList read.reverse) :: lexFrom .between rest := by
  cases rest with
  | nil => rfl
  | cons c cs =>
      have hc : ¬ (isWordChar c = true) := by
        rw [h c rfl]
        decide
      rw [lexFrom_cons, lexFrom_cons, lexStep, lexStep, if_neg hc, List.cons_append]

/-- A quoted text is read up to its closing quote, with its escapes undone. -/
theorem lexFrom_quote (read cs : List Char) :
    lexFrom (.quote read) (Text.escapeQuoted cs ++ '\'' :: rest)
      = .quoted (String.ofList (read.reverse ++ cs)) :: lexFrom .between rest := by
  induction cs generalizing read with
  | nil =>
      rw [Text.escapeQuoted, List.nil_append, List.append_nil, lexFrom_cons]
      rfl
  | cons c cs ih =>
      have hread : (c :: read).reverse ++ cs = read.reverse ++ c :: cs := by
        rw [List.reverse_cons, List.append_assoc, List.singleton_append]
      rw [Text.escapeQuoted]
      -- The two characters that would be misread stand behind a backslash.
      by_cases hc : c = '\\' ∨ c = '\''
      · rw [if_pos hc, List.cons_append, List.cons_append, lexFrom_cons, lexFrom_cons,
          ← hread, ← ih]
        rfl
      · rw [not_or] at hc
        rw [if_neg (not_or.mpr hc), List.cons_append, lexFrom_cons, lexStep, if_neg hc.1,
          if_neg hc.2, ← hread, ← ih]
        rfl

/-- A comment ends at its last two characters, whatever the lexer saw before. After a
    star it must not go on with a slash, which would have ended it. -/
theorem lexFrom_comment {body : List Char} (h : NoEnd body) :
    lexFrom .comment (body ++ '*' :: '/' :: rest) = lexFrom .between rest ∧
      (body.head? ≠ some '/' →
        lexFrom .star (body ++ '*' :: '/' :: rest) = lexFrom .between rest) := by
  induction body with
  | nil => exact ⟨rfl, fun _ => rfl⟩
  | cons c body ih =>
      have htail : NoEnd body := List.IsChain.tail h
      rcases ih htail with ⟨hcomment, hstar⟩
      -- A star may begin the end mark, so the character behind it is looked at too.
      by_cases hc : c = '*'
      · have hslash : body.head? ≠ some '/' := by
          intro hhead
          rcases List.head?_eq_some_iff.mp hhead with ⟨body', rfl⟩
          exact (List.isChain_cons_cons.mp h).1 ⟨hc, rfl⟩
        rw [hc]
        exact ⟨hstar hslash, fun _ => hstar hslash⟩
      -- Any other character leads back into the comment, behind a star or not.
      · refine ⟨?_, fun hne => ?_⟩
        · rw [List.cons_append, lexFrom_cons, lexStep, if_neg hc]
          exact hcomment
        · rw [List.head?_cons, ne_eq, Option.some.injEq] at hne
          rw [List.cons_append, lexFrom_cons, lexStep, if_neg hne, if_neg hc]
          exact hcomment

/-- Blanks between tokens are skipped. -/
theorem lexFrom_blanks (count : Nat) :
    lexFrom .between (List.replicate count ' ' ++ rest) = lexFrom .between rest := by
  induction count with
  | zero => rfl
  | succ count ih =>
      rw [List.replicate_succ, List.cons_append, lexFrom_cons, ← ih]
      rfl

/-- A mark is a token at once, since it is none of the characters with another role. -/
theorem lexFrom_mark {c : Char} (h : isMark c = true) :
    lexFrom .between (c :: rest) = .mark c :: lexFrom .between rest := by
  simp only [isMark, Bool.not_eq_true', List.contains_cons, List.contains_nil,
    Bool.or_false, Bool.or_eq_false_iff, beq_eq_false_iff_ne] at h
  rcases h with ⟨hword, hquote, hslash, hline, hblank⟩
  have hword' : ¬ (isWordChar c = true) := by
    rw [hword]
    decide
  rw [lexFrom_cons, lexStep, begin, if_neg hword', if_neg hquote, if_neg hslash, if_neg hline,
    if_neg hblank]
  rfl

/-- The lexer reads one lexeme at a time. -/
theorem lexFrom_spell {l : Lexeme} (hp : l.Proper) (ha : l.isWord = true → Apart rest) :
    lexFrom .between (l.spell ++ rest) = l.token?.toList ++ lexFrom .between rest := by
  cases l with
  | blanks count => exact lexFrom_blanks count
  | comment body =>
      change lexFrom .between ('/' :: '*' :: (body ++ ['*', '/']) ++ rest) = _
      rw [List.cons_append, List.cons_append, List.append_assoc]
      exact (lexFrom_comment hp).1
  | token t =>
      cases t with
      | word text =>
          rcases hp with ⟨hne, hchars⟩
          change lexFrom .between (text.toList ++ rest) = _
          -- A word has a first character, which starts it, and ends where the rest is no word.
          cases hcs : text.toList with
          | nil => exact absurd hcs hne
          | cons c cs =>
              rw [hcs] at hchars
              have hc := hchars c List.mem_cons_self
              rw [List.cons_append, lexFrom_cons, lexStep, begin, if_pos hc, List.nil_append,
                lexFrom_word fun d hd => hchars d (List.mem_cons_of_mem c hd),
                lexFrom_word_end (ha rfl), List.reverse_append, List.reverse_reverse,
                List.reverse_singleton, List.singleton_append, ← hcs, String.ofList_toList]
              rfl
      | quoted text =>
          change lexFrom .between ((Text.quoted text).toList ++ rest) = _
          -- The opening quote starts the text; the rest is read up to the closing one.
          rw [Text.quoted, String.toList_ofList, List.cons_append, List.cons_append,
            List.append_assoc, lexFrom_cons]
          refine (lexFrom_quote [] text.toList).trans ?_
          rw [List.reverse_nil, List.nil_append, String.ofList_toList]
          rfl
      | mark c => exact lexFrom_mark hp
      | newline => rfl

end Lexer

/-- The lexer finds the tokens of spelled lexemes. -/
theorem lex_spell {ls : List Lexeme} (h : Spaced ls) : lex (spelled ls) = tokens ls := by
  induction ls with
  | nil => rfl
  | cons l ls ih =>
      -- What is left of the list is spaced too, so the induction goes lexeme by lexeme.
      rcases h with ⟨hp, ha, hrest⟩
      unfold lex at ih ⊢
      rw [spelled_cons, lexFrom_spell hp ha, ih hrest]
      cases l <;> rfl

end Syntax

end RouteTypes
