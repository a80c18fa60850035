import RouteTypes.Data.Value

/-!
# Records

Values that stand for objects with known fields.

A record is written as a map with its fields under their names, in any order, and
with any further keys, which count for nothing. It can also be written as the list
of its fields in their order. A key that is a natural number names the field at
that position.

## Main definitions

* `Presence`: Whether a field may be left out.
* `RecordForm`: The name and fields of a record.
* `Value.record?`: The fields that a value gives.
-/

namespace RouteTypes

/-- Whether a field of a record may be left out. -/
inductive Presence where
  | required
  /-- It may be left out of a map, but not of a list. -/
  | nullable
  /-- It may be left out, also at the end of a list. -/
  | defaulted
  deriving DecidableEq, Repr

/-- A record by its name and its fields in order. -/
structure RecordForm where
  name : String
  fields : List (String × Presence)

namespace RecordForm

/-- The names of the fields. -/
def names (form : RecordForm) : List String :=
  form.fields.map Prod.fst

/-- The first required field that is not among the given ones. -/
def missing? (form : RecordForm) (given : List String) : Option String :=
  (form.fields.find? fun field => field.2 = .required && !given.contains field.1).map Prod.fst

/-- The field that a key names. The outer `none` is for keys that cannot stand in a
    record, the inner one for keys that name no field. -/
def fieldOf (form : RecordForm) : Value → Option (Option String)
  | .atom (.string text) => some (if form.names.contains text then some text else none)
  | .atom (.natural position) => some form.names[position]?
  | _ => none

/-- The fields of a map, unless a key cannot stand in a record or a field is given
    twice. -/
def members? (form : RecordForm) (entries : List (Value × Value)) :
    Option (List (String × Value)) := do
  let named ← entries.mapM fun entry => (form.fieldOf entry.1).map fun name => (name, entry.2)
  let members := named.filterMap fun member => member.1.map fun name => (name, member.2)
  if (members.map Prod.fst).Nodup then some members else none

/-- Whether a list of this length gives every field that it has to. -/
def fits (form : RecordForm) (length : Nat) : Bool :=
  length ≤ form.fields.length && (form.fields.drop length).all (·.2 = .defaulted)

end RecordForm

/-- The fields that a value gives, if it stands for a record of a form. -/
def Value.record? (form : RecordForm) : Value → Option (List (String × Value))
  | .map entries => do
    let members ← form.members? entries
    if (form.missing? (members.map Prod.fst)).isNone then some members else none
  | .list items => if form.fits items.length then some (form.names.zip items) else none
  | .atom _ => none

/-- The value of an optional field. It may be left out or be null. -/
def optionalField? {α : Type} (read : Value → Option α) (name : String)
    (members : List (String × Value)) : Option (Option α) :=
  match members.lookup name with
  | none | some (.atom .null) => some none
  | some value => (read value).map some

/-- The value of a field with a default. It may be left out but not be null. -/
def defaultedField? {α : Type} (read : Value → Option α) (default : α) (name : String)
    (members : List (String × Value)) : Option α :=
  match members.lookup name with
  | none => some default
  | some value => read value

end RouteTypes
