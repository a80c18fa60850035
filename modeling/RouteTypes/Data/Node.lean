import RouteTypes.Data.DecodeError

/-!
# Nodes

A text of a data format, read as far as it can be read.

A text that breaks off or breaks a rule still has a beginning, and what is wrong
first, a value of the wrong form or the broken rule, is a matter of the order in
which a decoder goes through it. So reading never fails: it ends in a tree whose
last branch holds the fault, and the decoder meets the fault when it gets there.

What a scalar stands for depends on what is wanted of it, and each format has its
own rules for that. A scalar therefore comes with all its readings. A fault is
found by other steps when the value is wanted than when it is passed over, and can
go by another name then, or by none.

## Main definitions

* `Fault`: A fault under both of its names.
* `Scalar`: A scalar with its readings.
* `Node`: A tree of scalars, sequences and mappings.
* `Reading`: A whole text.
-/

namespace RouteTypes

/-- A fault of a text, as it is named when the value there is wanted and when it is
    passed over. -/
structure Fault where
  wanted : TextFault
  skipped : TextFault
  deriving DecidableEq, Repr

/-- A fault that has one name. -/
def Fault.same (fault : TextFault) : Fault :=
  ⟨fault, fault⟩

/-- A scalar with its readings. -/
structure Scalar where
  /-- What it stands for when nothing is known about it. -/
  value : Except Cause Atom
  /-- Its reading as a text. -/
  text : Option String
  /-- Its reading as a truth value. -/
  flag : Option Bool
  /-- Whether it stands for the absence of an optional value. -/
  absent : Except Cause Bool
  /-- Whether it can stand for a container without elements. -/
  vacant : Bool := false
  /-- Whether it can be passed over. -/
  skip : Except TextFault Unit := .ok ()

mutual

/-- A value of a text, as far as it can be read. A `marked` container carries a
    type of its own. -/
inductive Node where
  | scalar (readings : Scalar)
  | sequence (marked : Bool) (items : List Node) (fault : Option Fault)
  | mapping (marked : Bool) (members : List (Node × Node)) (ending : Ending)
  /-- The value that an anchor names. -/
  | alias (anchor : Nat)
  /-- No value could be read. -/
  | broken (fault : Fault)

/-- How a mapping ends. -/
inductive Ending where
  | closed
  /-- No further key could be read. -/
  | beforeKey (fault : Fault)
  /-- A key could be read, but not the mark between it and its value. -/
  | afterKey (key : Node) (fault : Fault)

end

instance : Inhabited Node := ⟨.broken (.same .unreadable)⟩

/-- A whole text: its first value, what is wrong after that, and the values that
    aliases stand for. -/
structure Reading where
  root : Node
  rest : Option TextFault
  anchors : Nat → Option Node := fun _ => none
  /-- How many containers may be open at a time. -/
  depth : Nat
  /-- How often aliases may be followed. -/
  jumps : Nat := 0

end RouteTypes
