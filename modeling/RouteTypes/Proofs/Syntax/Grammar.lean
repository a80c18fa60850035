import RouteTypes.Proofs.Syntax.Token
import RouteTypes.TypeTree.Basic

/-!
# The Grammar of Types

How tokens are read as a type.

The grammar has one category for each strength of binding: a union joins intersections,
an intersection joins what brackets may follow, and that starts with a name, a literal,
a group in parentheses or a block in braces. What a type means is left open. A reading
has its value in an algebra with an operation for each form, of which only one thing is
asked, that `|` and `&` do not care how several of them are grouped. So two readings
agree in every algebra exactly when they are the same up to nested uses of one operator.

A text has one reading at most (`Reads.unique`). The proof runs a machine over the
tokens that keeps the operands of the innermost open group and a frame for each group
around it. It looks at each token once and never goes back, and every derivation drives
it to the value that it derives.

## Main definitions

* `Member`, `TypeAlgebra`: What a type may mean.
* `Reads`: The grammar.
* `Operands`, `Mode`, `Frame`, `Machine.step`: The machine.

## Theorems

* `Reads.or_union`, `Reads.and_inter`: The grammar is closed under its operators.
* `Reads.run`: A derivation drives the machine.
* `Reads.unique`: A text has one reading at most.
-/

namespace RouteTypes

namespace Syntax

/-- An entry of a block: its key, whether it may be left out, and its value. -/
structure Member (α : Type) where
  name : PropertyName
  optional : Bool
  value : α

/-- An operation for each form of a type. -/
structure TypeAlgebra (α : Type) where
  word : String → α
  quoted : String → α
  array : α → α
  narrowed : α → String → α
  block : List (Member α) → α
  union : α → α → α
  inter : α → α → α
  union_assoc : ∀ a b c, union (union a b) c = union a (union b c)
  inter_assoc : ∀ a b c, inter (inter a b) c = inter a (inter b c)

/-- The categories of the grammar, from the one that binds tightest. The last is that of
    the entries between braces. -/
inductive Category where
  | primary
  | postfixed
  | inter
  | union
  | members

/-- What the readings of a category have as their value. -/
abbrev Category.Value (α : Type) : Category → Type
  | primary | postfixed | inter | union => α
  | members => List (Member α)

/-- The tokens between the key of a signature for all further keys and its value. -/
def signatureTail : List Token :=
  [.word "key", .mark ':', .word "string", .mark ']']

/-- The tokens of a key. A name is a word or in quotes. -/
inductive ReadsKey : List Token → PropertyName → Prop
  | word (name : String) : ReadsKey [.word name] (.field name)
  | quoted (name : String) : ReadsKey [.quoted name] (.field name)
  | index : ReadsKey (.mark '[' :: signatureTail) .index

/-- The mark of an entry that may be left out. -/
def optionalMark (optional : Bool) : List Token :=
  if optional then [.mark '?'] else []

/-- Tokens are read as a value. -/
inductive Reads {α : Type} (A : TypeAlgebra α) : (c : Category) → List Token → c.Value α → Prop
  | word (text : String) : Reads A .primary [.word text] (A.word text)
  | quoted (text : String) : Reads A .primary [.quoted text] (A.quoted text)
  | group {ts : List Token} {a : α} : Reads A .union ts a →
      Reads A .primary (.mark '(' :: ts ++ [.mark ')']) a
  | block {ts : List Token} {ms : List (Member α)} : Reads A .members ts ms →
      Reads A .primary (.mark '\x7b' :: ts ++ [.mark '\x7d']) (A.block ms)
  | primary {ts : List Token} {a : α} : Reads A .primary ts a → Reads A .postfixed ts a
  | array {ts : List Token} {a : α} : Reads A .postfixed ts a →
      Reads A .postfixed (ts ++ [.mark '[', .mark ']']) (A.array a)
  | narrowed {ts : List Token} {a : α} (name : String) : Reads A .postfixed ts a →
      Reads A .postfixed (ts ++ [.mark '[', .quoted name, .mark ']']) (A.narrowed a name)
  | postfixed {ts : List Token} {a : α} : Reads A .postfixed ts a → Reads A .inter ts a
  | and {ts ts' : List Token} {a b : α} : Reads A .inter ts a → Reads A .postfixed ts' b →
      Reads A .inter (ts ++ .mark '&' :: ts') (A.inter a b)
  | inter {ts : List Token} {a : α} : Reads A .inter ts a → Reads A .union ts a
  | or {ts ts' : List Token} {a b : α} : Reads A .union ts a → Reads A .inter ts' b →
      Reads A .union (ts ++ .mark '|' :: ts') (A.union a b)
  | empty : Reads A .members [] ([] : List (Member α))
  | skip {ts : List Token} {ms : List (Member α)} : Reads A .members ts ms →
      Reads A .members (.newline :: ts) ms
  | entry {ks ts rest : List Token} {name : PropertyName} {a : α} {ms : List (Member α)}
      (optional : Bool) : ReadsKey ks name → Reads A .union ts a → Reads A .members rest ms →
      Reads A .members (ks ++ optionalMark optional ++ .mark ':' :: ts ++ .newline :: rest)
        ({ name, optional, value := a } :: ms)

section Closure

variable {α : Type} {A : TypeAlgebra α}

/-- A reading can stand behind the operator of its category. The other categories have
    no operator. -/
def Joins (A : TypeAlgebra α) : (c : Category) → List Token → c.Value α → Prop
  | .inter, ts', b => ∀ (ts : List Token) (a : α), Reads A .inter ts a →
      Reads A .inter (ts ++ .mark '&' :: ts') (A.inter a b)
  | .union, ts', b => ∀ (ts : List Token) (a : α), Reads A .union ts a →
      Reads A .union (ts ++ .mark '|' :: ts') (A.union a b)
  | .primary, _, _ | .postfixed, _, _ | .members, _, _ => True

/-- Every reading can stand behind the operator of its category. -/
theorem Reads.joins {c : Category} {ts : List Token} {v : c.Value α} (h : Reads A c ts v) :
    Joins A c ts v := by
  -- Only the left operand of an operator can be of its own category, so that operand is
  -- where the new one is joined, and associativity moves it to the front.
  induction h with
  | postfixed h' _ => exact fun ts a h => Reads.and h h'
  | @and us us' b c' _ h₂ ih _ =>
      intro ts a h
      have := Reads.and (ih ts a h) h₂
      rwa [A.inter_assoc, List.append_assoc, List.cons_append] at this
  | inter h' _ => exact fun ts a h => Reads.or h h'
  | @or us us' b c' _ h₂ ih _ =>
      intro ts a h
      have := Reads.or (ih ts a h) h₂
      rwa [A.union_assoc, List.append_assoc, List.cons_append] at this
  | _ => trivial

variable {ts ts' : List Token} {a b : α}

/-- An intersection goes on with another one. -/
theorem Reads.and_inter (h : Reads A .inter ts a) (h' : Reads A .inter ts' b) :
    Reads A .inter (ts ++ .mark '&' :: ts') (A.inter a b) :=
  h'.joins ts a h

/-- A union goes on with another one. -/
theorem Reads.or_union (h : Reads A .union ts a) (h' : Reads A .union ts' b) :
    Reads A .union (ts ++ .mark '|' :: ts') (A.union a b) :=
  h'.joins ts a h

end Closure

section Machines

variable {α : Type}

/-- The operands of a group that have been read: what stands before the last `|`, what
    stands between that and the last `&`, and what brackets may still follow. -/
structure Operands (α : Type) where
  alternatives : Option α := none
  factors : Option α := none
  last : Option α := none

/-- Two values joined, or the second alone. -/
def joined (op : α → α → α) : Option α → α → α
  | none, b => b
  | some a, b => op a b

/-- The value of the operands behind the last `|`. -/
def Operands.factor (A : TypeAlgebra α) (s : Operands α) : Option α :=
  s.last.map (joined A.inter s.factors)

/-- The value of all operands. -/
def Operands.value (A : TypeAlgebra α) (s : Operands α) : Option α :=
  (s.factor A).map (joined A.union s.alternatives)

/-- What is read at the moment. -/
inductive Mode (α : Type) where
  /-- The operands of a type. -/
  | type (s : Operands α)
  /-- Brackets, open behind the last operand. -/
  | bracket (s : Operands α) (a : α)
  /-- Brackets with a name in them. -/
  | narrowing (s : Operands α) (a : α)
  /-- The place of an entry in a block, behind some entries. -/
  | place (ms : List (Member α))
  /-- The signature of all further keys, up to some tokens. -/
  | signature (ms : List (Member α)) (expected : List Token)
  /-- The key of an entry. -/
  | key (ms : List (Member α)) (name : PropertyName) (optional : Bool)
  | failed

/-- What a group waits for. -/
inductive Frame (α : Type) where
  /-- A closing parenthesis, behind some operands. -/
  | group (s : Operands α)
  /-- A closing brace, behind some operands. -/
  | block (s : Operands α)
  /-- The end of an entry, behind some entries. -/
  | entry (ms : List (Member α)) (name : PropertyName) (optional : Bool)

/-- What is read at the moment, and the groups around it. -/
structure Machine (α : Type) where
  mode : Mode α
  frames : List (Frame α) := []

namespace Machine

/-- The machine after a token where an operand has to stand. -/
def atOperand (A : TypeAlgebra α) (s : Operands α) (fs : List (Frame α)) : Token → Machine α
  | .word text => ⟨.type { s with last := some (A.word text) }, fs⟩
  | .quoted text => ⟨.type { s with last := some (A.quoted text) }, fs⟩
  | .mark '(' => ⟨.type {}, .group s :: fs⟩
  | .mark '\x7b' => ⟨.place [], .block s :: fs⟩
  | _ => ⟨.failed, fs⟩

/-- The machine after a token behind an operand. -/
def behindOperand (A : TypeAlgebra α) (s : Operands α) (a : α) (fs : List (Frame α)) :
    Token → Machine α
  | .mark '[' => ⟨.bracket s a, fs⟩
  | .mark '&' => ⟨.type { s with factors := s.factor A, last := none }, fs⟩
  | .mark '|' => ⟨.type { alternatives := s.value A }, fs⟩
  | .mark ')' =>
    match fs with
    | .group outer :: fs => ⟨.type { outer with last := s.value A }, fs⟩
    | _ => ⟨.failed, fs⟩
  | .newline =>
    match fs, s.value A with
    | .entry ms name optional :: fs, some value => ⟨.place (ms ++ [{ name, optional, value }]), fs⟩
    | fs, _ => ⟨.failed, fs⟩
  | _ => ⟨.failed, fs⟩

/-- The machine after a token where an entry may stand. -/
def atPlace (A : TypeAlgebra α) (ms : List (Member α)) (fs : List (Frame α)) :
    Token → Machine α
  | .newline => ⟨.place ms, fs⟩
  | .word name => ⟨.key ms (.field name) false, fs⟩
  | .quoted name => ⟨.key ms (.field name) false, fs⟩
  | .mark '[' => ⟨.signature ms signatureTail, fs⟩
  | .mark '\x7d' =>
    match fs with
    | .block outer :: fs => ⟨.type { outer with last := some (A.block ms) }, fs⟩
    | _ => ⟨.failed, fs⟩
  | _ => ⟨.failed, fs⟩

/-- The machine after one more token. -/
def step (A : TypeAlgebra α) (m : Machine α) (t : Token) : Machine α :=
  match m with
  | ⟨.type s, fs⟩ =>
    match s.last with
    | none => atOperand A s fs t
    | some a => behindOperand A s a fs t
  | ⟨.bracket s a, fs⟩ =>
    match t with
    | .mark ']' => ⟨.type { s with last := some (A.array a) }, fs⟩
    | .quoted name => ⟨.narrowing s (A.narrowed a name), fs⟩
    | _ => ⟨.failed, fs⟩
  | ⟨.narrowing s a, fs⟩ =>
    if t = .mark ']' then ⟨.type { s with last := some a }, fs⟩ else ⟨.failed, fs⟩
  | ⟨.place ms, fs⟩ => atPlace A ms fs t
  | ⟨.signature ms expected, fs⟩ =>
    match expected with
    | [last] => if t = last then ⟨.key ms .index false, fs⟩ else ⟨.failed, fs⟩
    | next :: expected => if t = next then ⟨.signature ms expected, fs⟩ else ⟨.failed, fs⟩
    | [] => ⟨.failed, fs⟩
  | ⟨.key ms name optional, fs⟩ =>
    match t with
    | .mark '?' => ⟨.key ms name true, fs⟩
    | .mark ':' => ⟨.type {}, .entry ms name optional :: fs⟩
    | _ => ⟨.failed, fs⟩
  | ⟨.failed, fs⟩ => ⟨.failed, fs⟩

/-- The machine after some tokens. -/
def run (A : TypeAlgebra α) (m : Machine α) (ts : List Token) : Machine α :=
  ts.foldl (step A) m

theorem run_append (A : TypeAlgebra α) (m : Machine α) (ts ts' : List Token) :
    run A m (ts ++ ts') = run A (run A m ts) ts' :=
  List.foldl_append

theorem run_cons (A : TypeAlgebra α) (m : Machine α) (t : Token) (ts : List Token) :
    run A m (t :: ts) = run A (step A m t) ts := rfl

/-- The value of a type that was read to its end. -/
def value (A : TypeAlgebra α) (m : Machine α) : Option α :=
  match m.mode with
  | .type s => s.value A
  | _ => none

end Machine

variable {A : TypeAlgebra α} {fs : List (Frame α)}

/-- The tokens of a key lead to its name. -/
theorem ReadsKey.run {ks : List Token} {name : PropertyName} (h : ReadsKey ks name)
    (ms : List (Member α)) :
    Machine.run A ⟨.place ms, fs⟩ ks = ⟨.key ms name false, fs⟩ := by
  cases h <;> rfl

/-- What the machine does while the tokens of a reading go by. An operand is put behind
    the operands before it, an intersection takes part in a union, a union fills a group,
    and entries are put behind the entries before them. -/
def Drives (A : TypeAlgebra α) : (c : Category) → List Token → c.Value α → Prop
  | .primary, ts, a | .postfixed, ts, a =>
    ∀ (s : Operands α) (fs : List (Frame α)), s.last = none →
      Machine.run A ⟨.type s, fs⟩ ts = ⟨.type { s with last := some a }, fs⟩
  | .inter, ts, a =>
    ∀ (alternatives : Option α) (fs : List (Frame α)), ∃ s : Operands α,
      Machine.run A ⟨.type { alternatives }, fs⟩ ts = ⟨.type s, fs⟩ ∧
        s.alternatives = alternatives ∧ s.factor A = some a
  | .union, ts, a =>
    ∀ fs : List (Frame α), ∃ s : Operands α,
      Machine.run A ⟨.type {}, fs⟩ ts = ⟨.type s, fs⟩ ∧ s.value A = some a
  | .members, ts, ms =>
    ∀ (before : List (Member α)) (fs : List (Frame α)),
      Machine.run A ⟨.place before, fs⟩ ts = ⟨.place (before ++ ms), fs⟩

/-- Operands that have a value end with one that brackets may follow. -/
theorem Operands.exists_last {s : Operands α} {a : α} (h : s.value A = some a) :
    ∃ b, s.last = some b := by
  rcases Option.map_eq_some_iff.mp h with ⟨b, hb, _⟩
  rcases Option.map_eq_some_iff.mp hb with ⟨c, hc, _⟩
  exact ⟨c, hc⟩

/-- Behind an operand a token is one that may follow it. -/
theorem Machine.step_behind {s : Operands α} {b : α} (h : s.last = some b) (t : Token) :
    Machine.step A ⟨.type s, fs⟩ t = Machine.behindOperand A s b fs t := by
  unfold Machine.step
  dsimp only
  rw [h]

/-- Where an operand has to stand, a token begins one. -/
theorem Machine.step_operand {s : Operands α} (h : s.last = none) (t : Token) :
    Machine.step A ⟨.type s, fs⟩ t = Machine.atOperand A s fs t := by
  unfold Machine.step
  dsimp only
  rw [h]

/-- The end of a line ends an entry. -/
theorem Machine.step_newline {s : Operands α} {value : α} (h : s.value A = some value)
    (ms : List (Member α)) (name : PropertyName) (optional : Bool) :
    Machine.step A ⟨.type s, .entry ms name optional :: fs⟩ .newline
      = ⟨.place (ms ++ [⟨name, optional, value⟩]), fs⟩ := by
  rcases Operands.exists_last h with ⟨b, hb⟩
  rw [step_behind hb]
  unfold behindOperand
  rw [h]

/-- Every derivation drives the machine to the value that it derives. -/
theorem Reads.drives {c : Category} {ts : List Token} {v : c.Value α} (h : Reads A c ts v) :
    Drives A c ts v := by
  induction h with
  | word text =>
      intro s fs hs
      exact Machine.step_operand hs _
  | quoted text =>
      intro s fs hs
      exact Machine.step_operand hs _
  | group _ ih =>
      intro s fs hs
      -- The operands so far wait in a frame and get the value of the group.
      rcases ih (.group s :: fs) with ⟨s', hrun, hvalue⟩
      rcases Operands.exists_last hvalue with ⟨b, hb⟩
      rw [List.cons_append, Machine.run_cons, Machine.step_operand hs, Machine.atOperand,
        Machine.run_append, hrun, Machine.run_cons, Machine.step_behind hb,
        Machine.behindOperand, hvalue]
      rfl
  -- The entries of the block begin with none, and the operands wait for it in a frame.
  | block _ ih =>
      intro s fs hs
      have hrun := ih [] (.block s :: fs)
      rw [List.cons_append, Machine.run_cons, Machine.step_operand hs, Machine.atOperand,
        Machine.run_append, hrun]
      rfl
  | primary _ ih => exact ih
  | array _ ih =>
      intro s fs hs
      -- The operand is complete, so the brackets belong to it and to nothing before it.
      rw [Machine.run_append, ih s fs hs, Machine.run_cons, Machine.step_behind rfl]
      rfl
  | narrowed name _ ih =>
      intro s fs hs
      rw [Machine.run_append, ih s fs hs, Machine.run_cons, Machine.step_behind rfl]
      rfl
  | postfixed _ ih =>
      intro alternatives fs
      exact ⟨_, ih { alternatives } fs rfl, rfl, rfl⟩
  | @and ts ts' a a' _ _ ih ih' =>
      intro alternatives fs
      -- The mark closes what stands before it, and the right operand comes last.
      rcases ih alternatives fs with ⟨s, hrun, halternatives, hfactor⟩
      rcases Option.map_eq_some_iff.mp hfactor with ⟨b, hb, _⟩
      refine ⟨{ s with factors := s.factor A, last := some a' }, ?_, halternatives, ?_⟩
      · rw [Machine.run_append, hrun, Machine.run_cons, Machine.step_behind hb,
          Machine.behindOperand]
        exact ih' { s with factors := s.factor A, last := none } fs rfl
      · rw [hfactor]
        rfl
  | inter _ ih =>
      -- A union begins with no alternative, so the intersection is all there is so far.
      intro fs
      rcases ih none fs with ⟨s, hrun, halternatives, hfactor⟩
      refine ⟨s, hrun, ?_⟩
      rw [Operands.value, hfactor, halternatives]
      rfl
  | or _ _ ih ih' =>
      intro fs
      -- Everything before the mark becomes one alternative.
      rcases ih fs with ⟨s, hrun, hvalue⟩
      rcases Operands.exists_last hvalue with ⟨b, hb⟩
      rcases ih' (s.value A) fs with ⟨s', hrun', halternatives, hfactor⟩
      refine ⟨s', ?_, ?_⟩
      · rw [Machine.run_append, hrun, Machine.run_cons, Machine.step_behind hb,
          Machine.behindOperand]
        exact hrun'
      · rw [Operands.value, hfactor, halternatives, hvalue]
        rfl
  | empty =>
      intro before fs
      rw [List.append_nil]
      rfl
  | skip _ ih => exact ih
  | @entry ks ts rest name a ms optional hkey _ _ ih ih' =>
      intro before fs
      -- The key goes by, then the mark if it is there, the colon, the value, and the end of the
      -- line.
      rcases ih (.entry before name optional :: fs) with ⟨s, hrun, hvalue⟩
      have hmark : Machine.run A ⟨.key before name false, fs⟩ (optionalMark optional)
          = ⟨.key before name optional, fs⟩ := by
        cases optional <;> rfl
      have hcolon : Machine.run A ⟨.key before name optional, fs⟩ (.mark ':' :: ts)
          = ⟨.type s, .entry before name optional :: fs⟩ := hrun
      rw [Machine.run_append, Machine.run_append, Machine.run_append, hkey.run, hmark, hcolon,
        Machine.run_cons, Machine.step_newline hvalue, ih', List.append_assoc,
        List.singleton_append]

/-- A text has one reading at most. -/
theorem Reads.unique {ts : List Token} {a b : α} (ha : Reads A .union ts a)
    (hb : Reads A .union ts b) : a = b := by
  rcases ha.drives [] with ⟨s, hrun, hvalue⟩
  rcases hb.drives [] with ⟨s', hrun', hvalue'⟩
  -- One machine ran over one text, so both ended in the same operands.
  have hmode := congrArg Machine.mode (hrun.symm.trans hrun')
  rw [Mode.type.inj hmode, hvalue'] at hvalue
  exact (Option.some.inj hvalue).symm

end Machines

end Syntax

end RouteTypes
