import RouteTypes.Proofs.OutputPaths
import RouteTypes.Proofs.References
import RouteTypes.Proofs.SchemaLeaves

/-!
# Global Names

When the shared declarations keep the meaning of the global names they are written with.

Binary content and points in time are written with names that are not declared: `File` and
`ReadStream` for what is sent, `Blob` for what is received, `Date` for a point in time.
The declarations stand in one namespace, and there a declared type with one of these names
comes first. Names are only compared with each other, so a component that is called `File`
is declared as `File`, and every upload in the namespace then means that type, even the
one in the declaration itself.

Whether this happens can be told from the components (`noCapture_iff`): some schema that
declarations are typed from is binary content or a point in time, and some entry that is
declared has one of the keys that give the name. A key gives it when it is the name
itself, perhaps with a small letter in front, because every other character that changes
on the way becomes `_` and a character put in front is `$`.

## Main definitions

* `Api.NoCapture`: No global name in use is declared.
* `Components.typedSlot?`: The schema that an entry is typed from.
* `Components.HoldsBinary`, `Components.HoldsDate`: What stands in these schemas.
* `Components.Declares`: An entry with one of some keys is declared.
* `Document.NoCapture`: The condition on a document.

## Theorems

* `typeName_eq_iff`: Which keys give a name.
* `typeEntryAt_leaf_iff`: Which leaves stand in a declaration.
* `noCapture_iff`: When global names keep their meaning.
-/

namespace RouteTypes

/-- The shared declarations declare none of the global names that they are written with:
    `File` and `ReadStream` for uploads, `Blob` for downloads, `Date` for points in time. -/
structure Api.NoCapture (api : Api) : Prop where
  upload : (∃ t ∈ api.types, t.value.Contains (.binary .upload)) →
    ∀ t ∈ api.types, t.name ∉ ["File", "ReadStream"]
  download : (∃ t ∈ api.types, t.value.Contains (.binary .download)) →
    ∀ t ∈ api.types, t.name ∉ ["Blob"]
  date : (∃ t ∈ api.types, t.value.Contains (.primitive .date)) →
    ∀ t ∈ api.types, t.name ∉ ["Date"]

/-- The direction in which the entries of a registry are typed. -/
def Registry.direction : Registry → Direction
  | schemas | parameters | requestBodies => .request
  | responses | headers => .response

/-- The schema slot of an inline definition. A reference has none. -/
def Slot.schemaOf {α : Type} (schema : α → Option (Slot Schema)) :
    Slot α → Option (Slot Schema)
  | .reference _ => none
  | .inline value => schema value

/-- The schema slot that the declaration of an entry is typed from. An entry that is a
    reference is only another name. -/
def Components.typedSlot? (c : Components) : Registry → String → Option (Slot Schema)
  | .schemas, key => c.schemas.get? key
  | .parameters, key => (c.parameters.get? key).bind (Slot.schemaOf (·.schema))
  | .requestBodies, key =>
    (c.requestBodies.get? key).bind (Slot.schemaOf fun b => b.content.chosen.bind (·.schema))
  | .responses, key =>
    (c.responses.get? key).bind (Slot.schemaOf fun r => r.content.chosen.bind (·.schema))
  | .headers, key => (c.headers.get? key).bind (Slot.schemaOf (·.schema))

/-- The schema holds no others and is no enumeration: its type is that of its format and
    kind. -/
structure Schema.IsPlain (s : Schema) : Prop where
  combination : s.combination = none
  enum : s.enum = none
  kind : s.kind ≠ some .array
  closed : (s.properties.isSome || s.isOpen) = false

namespace Components

/-- A schema that declarations of a direction are typed from is binary content. -/
def HoldsBinary (c : Components) (direction : Direction) : Prop :=
  ∃ e ∈ c.entryKeys, e.1.direction = direction ∧ ∃ slot ∈ c.typedSlot? e.1 e.2,
    ∃ t, slot.Holds t ∧ t.IsPlain ∧ t.format = some "binary"

/-- A schema that declarations are typed from is a point in time. -/
def HoldsDate (c : Components) : Prop :=
  ∃ e ∈ c.entryKeys, ∃ slot ∈ c.typedSlot? e.1 e.2,
    ∃ t, slot.Holds t ∧ t.IsPlain ∧ t.format = some "date-time" ∧ t.kind = some .string

/-- An entry with one of the keys has a type, so it is declared. -/
def Declares (c : Components) (keys : List String) : Prop :=
  ∃ e ∈ c.entryKeys, c.hasType e.1 e.2 = true ∧ e.2 ∈ keys

end Components

/-- The components declare no global name that their declarations are written with. -/
structure Document.NoCapture (document : Document) (keepDates : Bool) : Prop where
  upload : document.components.HoldsBinary .request →
    ¬ document.components.Declares ["File", "file", "ReadStream", "readStream"]
  download : document.components.HoldsBinary .response →
    ¬ document.components.Declares ["Blob", "blob"]
  date : keepDates = true → document.components.HoldsDate →
    ¬ document.components.Declares ["Date", "date"]

section Names

/-- The characters that end in a name unchanged are those of the key. -/
theorem map_namePart_eq_iff {tail : List Char} (hparts : tail.all Text.isNamePart = true)
    (hlost : '_' ∉ tail) (cs : List Char) :
    (cs.map fun d => if Text.isNamePart d then d else '_') = tail ↔ cs = tail := by
  induction cs generalizing tail with
  | nil => rw [List.map_nil]
  -- A character that is replaced gives the sign, which the name does not have.
  | cons c cs ih =>
      cases tail with
      | nil => exact iff_of_false (List.cons_ne_nil _ _) (List.cons_ne_nil _ _)
      | cons d tail =>
          rw [List.all_cons, Bool.and_eq_true] at hparts
          rw [List.mem_cons, not_or] at hlost
          rw [List.map_cons, List.cons.injEq, List.cons.injEq, ih hparts.2 hlost.2]
          refine and_congr_left fun _ => ?_
          by_cases hc : Text.isNamePart c = true
          · rw [if_pos hc]
          · rw [if_neg hc]
            refine iff_of_false hlost.1 ?_
            rintro rfl
            exact hc hparts.1

/-- A character that a name can start with can stand anywhere in it. -/
theorem isNamePart_of_isNameStart {c : Char} (h : Text.isNameStart c = true) :
    Text.isNamePart c = true := by
  unfold Text.isNameStart at h
  unfold Text.isNamePart Char.isAlphanum
  simp only [Bool.or_eq_true] at h ⊢
  rcases h with (h | h) | h
  · exact Or.inl (Or.inl (Or.inl h))
  · exact Or.inl (Or.inr h)
  · exact Or.inr h

/-- A key gives a name that starts with a capital when it is the name, or the name with
    the small letter in front. -/
theorem typeName_eq_iff (first small : Char) (tail : List Char)
    (hfirst : ∀ code < 128, Text.isNameStart (Char.ofNat code) = true →
      ((Char.ofNat code).toUpper = first ↔
        Char.ofNat code = first ∨ Char.ofNat code = small))
    (hstart : Text.isNameStart first = true ∧ Text.isNameStart small = true)
    (hother : first ≠ '_' ∧ first ≠ '$') (hparts : tail.all Text.isNamePart = true)
    (hlost : '_' ∉ tail) (key : String) :
    Text.typeName key = String.ofList (first :: tail) ↔
      key = String.ofList (first :: tail) ∨ key = String.ofList (small :: tail) := by
  have hkey : ∀ cs, key = String.ofList cs ↔ key.toList = cs := fun cs => by
    rw [← String.toList_inj, String.toList_ofList]
  rw [hkey, hkey, Text.typeName, String.ofList_inj]
  cases key.toList with
  -- An empty key is called by the sign that no global name starts with.
  | nil =>
      refine iff_of_false (fun h => hother.1 (List.cons.inj h).1.symm) ?_
      rintro (h | h) <;> exact absurd h.symm (List.cons_ne_nil _ _)
  | cons c rest =>
      unfold Text.typeNameChars
      dsimp only
      rw [List.cons.injEq, List.cons.injEq]
      by_cases hc : Text.isNameStart c = true
      · -- The key starts with an ASCII character, which has one capital.
        have hascii : c.toNat < 128 := Syntax.toNat_lt_of_isWordChar
          (Syntax.isWordChar_of_isNamePart (isNamePart_of_isNameStart hc))
        have hupper : Text.upper c = [c.toUpper] := if_pos hascii
        have hcode := hfirst c.toNat hascii
        rw [Char.ofNat_toNat] at hcode
        rw [if_pos hc, hupper, List.nil_append, List.singleton_append, List.cons.injEq,
          map_namePart_eq_iff hparts hlost, hcode hc, or_and_right]
      · -- Any other start is kept apart by a sign that the name does not start with.
        rw [if_neg hc, List.singleton_append, List.cons_append, List.cons.injEq]
        refine iff_of_false (fun h => hother.2 h.1.symm) ?_
        rintro (⟨rfl, _⟩ | ⟨rfl, _⟩)
        · exact hc hstart.1
        · exact hc hstart.2

/-- The keys that give the global names. -/
theorem typeName_global_iff (key : String) :
    (Text.typeName key ∈ ["File", "ReadStream"] ↔
      key ∈ ["File", "file", "ReadStream", "readStream"]) ∧
    (Text.typeName key ∈ ["Blob"] ↔ key ∈ ["Blob", "blob"]) ∧
    (Text.typeName key ∈ ["Date"] ↔ key ∈ ["Date", "date"]) := by
  have hfile : Text.typeName key = "File" ↔ key = "File" ∨ key = "file" :=
    -- The condition on first letters ranges over ASCII only, so it is decided by running through
    -- it.
    typeName_eq_iff 'F' 'f' "ile".toList (by decide) (by decide) (by decide) (by decide)
      (by decide) key
  have hstream : Text.typeName key = "ReadStream" ↔ key = "ReadStream" ∨ key = "readStream" :=
    typeName_eq_iff 'R' 'r' "eadStream".toList (by decide) (by decide) (by decide) (by decide)
      (by decide) key
  have hblob : Text.typeName key = "Blob" ↔ key = "Blob" ∨ key = "blob" :=
    typeName_eq_iff 'B' 'b' "lob".toList (by decide) (by decide) (by decide) (by decide)
      (by decide) key
  have hdate : Text.typeName key = "Date" ↔ key = "Date" ∨ key = "date" :=
    typeName_eq_iff 'D' 'd' "ate".toList (by decide) (by decide) (by decide) (by decide)
      (by decide) key
  simp only [List.mem_cons, List.not_mem_nil, or_false, hfile, hstream, hblob, hdate, or_assoc,
    and_self]

end Names

section Leaves

variable {setting : Setting} {direction : Direction} {shape : Shape} {v : Option TypeNode}

/-- A schema has the shape of a leaf when it is plain and its format and kind give that shape.
    -/
theorem Schema.leafShape_eq_iff {s : Schema} {keepDates : Bool} :
    s.leafShape keepDates direction = some shape ↔
      s.IsPlain ∧ s.leaf keepDates direction = some shape := by
  have hplain : s.IsPlain ↔ (s.combination.isNone ∧ s.enum = none ∧ s.kind ≠ some .array ∧
      (s.properties.isSome || s.isOpen) = false) := by
    rw [Option.isNone_iff_eq_none]
    exact ⟨fun ⟨hc, he, hk, ho⟩ => ⟨hc, he, hk, ho⟩, fun ⟨hc, he, hk, ho⟩ => ⟨hc, he, hk, ho⟩⟩
  unfold Schema.leafShape
  by_cases h : s.IsPlain
  · rw [if_pos (hplain.mp h)]
    -- The test of the model is the same as being plain, which leaves what the leaf is.
    exact (and_iff_right h).symm
  · rw [if_neg fun hc => h (hplain.mpr hc)]
    exact iff_of_false (by simp only [reduceCtorEq, not_false_eq_true]) fun hc => h hc.1

/-- Binary content is what a schema of that format describes. -/
theorem Schema.leafShape_binary_iff {s : Schema} {keepDates : Bool} {kind : BinaryKind} :
    s.leafShape keepDates direction = some (.binary kind) ↔
      direction.binary = kind ∧ s.IsPlain ∧ s.format = some "binary" := by
  rw [Schema.leafShape_eq_iff, Schema.leaf, ← and_left_comm]
  refine and_congr_right fun _ => ?_
  -- Binary content is asked for first, so the format alone decides.
  by_cases hb : s.format = some "binary"
  · simp [hb]
  · simp [hb]

/-- A point in time is what a text of that format describes, when dates are kept. -/
theorem Schema.leafShape_date_iff {s : Schema} {keepDates : Bool} :
    s.leafShape keepDates direction = some (.primitive .date) ↔
      keepDates = true ∧ s.IsPlain ∧ s.format = some "date-time" ∧ s.kind = some .string := by
  rw [Schema.leafShape_eq_iff, Schema.leaf, ← and_left_comm]
  refine and_congr_right fun _ => ?_
  by_cases hb : s.format = some "binary"
  · simp [hb]
  · unfold Schema.primitive
    -- No kind but the textual one has a point in time, and that one only when dates are kept.
    cases hkind : s.kind with
    | none => simp [hb]
    | some kind => cases kind <;> simp [hb]

/-- A schema slot that may be missing gives the leaves of the schemas in it. -/
theorem typeOptional_leaf_iff (hleaf : shape.IsLeaf) {slot : Option (Slot Schema)}
    (h : (typeOptional setting direction slot).Yields v) :
    (∃ n ∈ v, n.Contains shape) ↔ ∃ s ∈ slot, ∃ t, s.Holds t ∧
      t.leafShape setting.options.keepDates direction = some shape := by
  cases slot with
  | none =>
      rw [typeOptional, Logged.yields_pure] at h
      rw [← h]
      simp only [Option.mem_def, reduceCtorEq, false_and, exists_false]
  | some s =>
      rw [typeSlot_leaf_iff hleaf h]
      simp only [Option.mem_def, Option.some.injEq, exists_eq_left']

theorem TypeNode.contains_describe (description : Option String) (n : TypeNode) :
    (describe description n).Contains shape ↔ n.Contains shape := by
  cases description with
  | none => exact Iff.rfl
  | some text => exact ((describe (some text) n).contains_iff).trans n.contains_iff.symm

/-- The object around a parameter is no leaf, and its only child is the type inside. -/
theorem TypeNode.contains_wrapped (hleaf : shape.IsLeaf) {name : String} {required : Bool}
    {description : Option String} {n : TypeNode} :
    TypeNode.Contains shape { shape := .object [.field name required description n] } ↔
      n.Contains shape := by
  rw [TypeNode.contains_iff]
  constructor
  · rintro (rfl | ⟨c, hc, hcontains⟩)
    · exact absurd hleaf (fun h => h)
    · rwa [List.mem_singleton.mp hc] at hcontains
  · exact fun h => Or.inr ⟨n, List.mem_singleton.mpr rfl, h⟩

/-- A schema whose type is changed around its root gives the leaves that it gave. -/
theorem typeOptional_map_leaf_iff (hleaf : shape.IsLeaf) {f : TypeNode → TypeNode}
    (hf : ∀ n, (f n).Contains shape ↔ n.Contains shape) {slot : Option (Slot Schema)}
    (h : (typeOptional setting direction slot >>= fun value => pure (value.map f)).Yields v) :
    (∃ n ∈ v, n.Contains shape) ↔ ∃ s ∈ slot, ∃ t, s.Holds t ∧
      t.leafShape setting.options.keepDates direction = some shape := by
  rcases (Logged.yields_bind _ _ _).mp h with ⟨value, hvalue, hv⟩
  -- The change keeps every leaf of a tree, so the result has those of the slot.
  obtain rfl := (Logged.yields_pure _ _).mp hv
  rw [← typeOptional_leaf_iff hleaf hvalue]
  cases value with
  | none => simp
  | some n => simp [hf]

/-- An entry gives the leaves of its definition when every definition of its registry does. -/
theorem typeKey_leaf_iff {α : Type} {inline : α → Typing (Option TypeNode)}
    {schema : α → Option (Slot Schema)} (hleaf : shape.IsLeaf)
    (hinline : ∀ a v, (inline a).Yields v →
      ((∃ n ∈ v, n.Contains shape) ↔ ∃ s ∈ schema a, ∃ t, s.Holds t ∧
        t.leafShape setting.options.keepDates direction = some shape))
    {entries : OrderedMap String (Slot α)} {key : String}
    (h : (typeKey setting inline entries key).Yields v) :
    (∃ n ∈ v, n.Contains shape) ↔
      ∃ s ∈ (entries.get? key).bind (Slot.schemaOf schema), ∃ t, s.Holds t ∧
        t.leafShape setting.options.keepDates direction = some shape := by
  unfold typeKey at h
  cases hget : entries.get? key with
  | none =>
      rw [hget] at h
      rw [← (Logged.yields_pure _ _).mp h]
      simp
  | some slot =>
      rw [hget] at h
      cases slot with
      | inline value => exact hinline value v h
      | reference pointer =>
          -- A reference is named, so nothing is typed here.
          simp only [typeEntry, Logged.yields_bind, Logged.yields_pure] at h
          rcases h with ⟨target, _, rfl⟩
          refine iff_of_false ?_ (by simp [Slot.schemaOf])
          rintro ⟨n, hn, hcontains⟩
          obtain rfl := Option.some.inj hn
          exact TypeNode.not_contains rfl (hleaf.ne_reference target) hcontains

/-- An entry of the schemas is typed as a slot with it would be. -/
theorem typeSchemaKey_leaf_iff (hleaf : shape.IsLeaf)
    {entries : OrderedMap String (Slot Schema)} {key : String}
    (h : (typeKey setting (typeSchema setting direction) entries key).Yields v) :
    (∃ n ∈ v, n.Contains shape) ↔ ∃ s ∈ entries.get? key, ∃ t, s.Holds t ∧
      t.leafShape setting.options.keepDates direction = some shape := by
  -- Here a reference may stand for a schema, so both forms of a slot are typed alike.
  have hslot : (typeOptional setting direction (entries.get? key)).Yields v := by
    unfold typeKey at h
    cases hget : entries.get? key with
    | none =>
        rw [hget] at h
        exact h
    | some slot =>
        rw [hget] at h
        cases slot with
        | reference pointer => exact h
        | inline s => exact h
  exact typeOptional_leaf_iff hleaf hslot

/-- A leaf of a shape stands in a declaration exactly when a schema of this shape stands
    in the schema of the entry. -/
theorem typeEntryAt_leaf_iff (hleaf : shape.IsLeaf) {registry : Registry} {key : String}
    (h : (setting.typeEntryAt registry key).Yields v) :
    (∃ n ∈ v, n.Contains shape) ↔ ∃ s ∈ setting.components.typedSlot? registry key,
      ∃ t, s.Holds t ∧
        t.leafShape setting.options.keepDates registry.direction = some shape := by
  cases registry with
  | schemas => exact typeSchemaKey_leaf_iff hleaf h
  | parameters =>
      -- The remaining registries differ in how the declaration is wrapped around the type.
      exact typeKey_leaf_iff hleaf (fun p w hw => typeOptional_map_leaf_iff hleaf
        (fun n => TypeNode.contains_wrapped hleaf) hw) h
  | requestBodies =>
      exact typeKey_leaf_iff hleaf (fun b w hw => typeOptional_map_leaf_iff hleaf
        (TypeNode.contains_describe _) hw) h
  | responses =>
      exact typeKey_leaf_iff hleaf (fun r w hw => typeOptional_map_leaf_iff hleaf
        (TypeNode.contains_describe _) hw) h
  | headers =>
      exact typeKey_leaf_iff hleaf (fun x w hw => typeOptional_map_leaf_iff hleaf
        (TypeNode.contains_describe _) hw) h

end Leaves

section Documents

variable {document : Document} {options : Options} {api : Api} {shape : Shape}

/-- A leaf stands in some declaration exactly when a schema of this shape stands in the
    schema of some entry. -/
theorem exists_declaration_contains_iff (h : (document.toApi options).Yields api)
    (hleaf : shape.IsLeaf) :
    (∃ t ∈ api.types, t.value.Contains shape) ↔
      ∃ e ∈ document.components.entryKeys, ∃ s ∈ document.components.typedSlot? e.1 e.2,
        ∃ t, s.Holds t ∧ t.leafShape options.keepDates e.1.direction = some shape := by
  have htypes := (toApi_yields h).2.1
  constructor
  · rintro ⟨t, ht, hcontains⟩
    rcases exists_of_mem_types htypes ht with ⟨e, he, value, hvalue, rfl⟩
    -- A declaration comes from an entry, and an entry that is typed with a leaf is declared.
    exact ⟨e, he, (typeEntryAt_leaf_iff hleaf hvalue).mp ⟨value, rfl, hcontains⟩⟩
  · rintro ⟨e, he, hslot⟩
    rcases typeEntryAt_yields_of htypes he with ⟨value, hvalue⟩
    rcases (typeEntryAt_leaf_iff hleaf hvalue).mpr hslot with ⟨n, hn, hcontains⟩
    refine ⟨declarationOf e.1 e.2 n, ?_, hcontains⟩
    rw [typeComponents_yields htypes]
    refine List.mem_filterMap.mpr ⟨e, he, ?_⟩
    rw [Setting.declaration_of_yields hvalue, Option.mem_def.mp hn]
    rfl

theorem Direction.binary_inj {a b : Direction} : a.binary = b.binary ↔ a = b := by
  cases a <;> cases b <;> decide

/-- Declarations are written with binary content of a direction when a schema they are
    typed from is. -/
theorem exists_binary_iff (h : (document.toApi options).Yields api) (direction : Direction) :
    (∃ t ∈ api.types, t.value.Contains (.binary direction.binary)) ↔
      document.components.HoldsBinary direction := by
  have hleaf : (Shape.binary direction.binary).IsLeaf := trivial
  rw [exists_declaration_contains_iff h hleaf]
  unfold Components.HoldsBinary
  refine exists_congr fun e => and_congr_right fun _ => ?_
  -- What is left is to move the direction out of the slot.
  simp only [Schema.leafShape_binary_iff, Direction.binary_inj]
  constructor
  · rintro ⟨slot, hslot, t, ht, hdirection, hplain⟩
    exact ⟨hdirection, slot, hslot, t, ht, hplain⟩
  · rintro ⟨hdirection, slot, hslot, t, ht, hplain⟩
    exact ⟨slot, hslot, t, ht, hdirection, hplain⟩

/-- Declarations are written with points in time when dates are kept and a schema they
    are typed from is one. -/
theorem exists_date_iff (h : (document.toApi options).Yields api) :
    (∃ t ∈ api.types, t.value.Contains (.primitive .date)) ↔
      options.keepDates = true ∧ document.components.HoldsDate := by
  have hleaf : (Shape.primitive .date).IsLeaf := by
    simp only [Shape.IsLeaf, ne_eq, reduceCtorEq, not_false_eq_true]
  rw [exists_declaration_contains_iff h hleaf]
  unfold Components.HoldsDate
  simp only [Schema.leafShape_date_iff]
  constructor
  · rintro ⟨e, he, slot, hslot, t, ht, hkeep, hdate⟩
    exact ⟨hkeep, e, he, slot, hslot, t, ht, hdate⟩
  · rintro ⟨hkeep, e, he, slot, hslot, t, ht, hdate⟩
    exact ⟨e, he, slot, hslot, t, ht, hkeep, hdate⟩

/-- One of some names is declared when an entry that is declared has a key that gives
    it. -/
-- The registry plays no role for the name of a declaration.
theorem declares_iff (h : (document.toApi options).Yields api) {names keys : List String}
    (hkeys : ∀ key, Text.typeName key ∈ names ↔ key ∈ keys) :
    (∀ t ∈ api.types, t.name ∉ names) ↔ ¬ document.components.Declares keys := by
  have hname : ∀ e t, (document.setting options).declaration e = some t →
      (t.name ∈ names ↔ e.2 ∈ keys) := by
    intro e t ht
    rw [(Setting.declaration_entry ht).2]
    exact hkeys e.2
  rw [typeComponents_yields (toApi_yields h).2.1]
  constructor
  · rintro hnone ⟨e, he, htype, hkey⟩
    rw [← declaration_isSome h he] at htype
    rcases Option.isSome_iff_exists.mp htype with ⟨t, ht⟩
    exact hnone t (List.mem_filterMap.mpr ⟨e, he, ht⟩) ((hname e t ht).mpr hkey)
  · intro hnone t ht hmem
    rcases List.mem_filterMap.mp ht with ⟨e, he, hdecl⟩
    refine hnone ⟨e, he, ?_, (hname e t hdecl).mp hmem⟩
    rw [← declaration_isSome h he, hdecl]
    rfl

/-- The declarations capture no global name exactly when the components do not. -/
theorem toApi_noCapture_iff (h : (document.toApi options).Yields api) :
    api.NoCapture ↔ document.NoCapture options.keepDates := by
  have hupload := exists_binary_iff h .request
  have hdownload := exists_binary_iff h .response
  have hdate := exists_date_iff h
  have hfile := declares_iff h fun key => (typeName_global_iff key).1
  have hblob := declares_iff h fun key => (typeName_global_iff key).2.1
  have hday := declares_iff h fun key => (typeName_global_iff key).2.2
  constructor
  · rintro ⟨hu, hd, ht⟩
    exact {
      upload := fun hholds => hfile.mp (hu (hupload.mpr hholds))
      download := fun hholds => hblob.mp (hd (hdownload.mpr hholds))
      date := fun hkeep hholds => hday.mp (ht (hdate.mpr ⟨hkeep, hholds⟩)) }
  · rintro ⟨hu, hd, ht⟩
    exact {
      upload := fun hholds => hfile.mpr (hu (hupload.mp hholds))
      download := fun hholds => hblob.mpr (hd (hdownload.mp hholds))
      date := fun hholds => hday.mpr (ht (hdate.mp hholds).1 (hdate.mp hholds).2) }

end Documents

/-- The declarations of a document that compiles are written with global names that they
    do not declare, exactly when no entry that is declared has the key of one: `File` and
    `ReadStream` while the schema of some schema, parameter or body entry is binary
    content, `Blob` while that of some response or header entry is, and `Date` while one
    is a point in time and dates are kept. -/
theorem noCapture_iff {document : Document} {options : Options} {c : Compilation}
    (h : (document.compile options).Yields c) :
    ∃ api, (document.toApi options).Yields api ∧ api.compilation = c ∧
      (api.NoCapture ↔ document.NoCapture options.keepDates) := by
  rcases compile_yields_iff.mp h with ⟨api, hapi, hc⟩
  exact ⟨api, hapi, hc, toApi_noCapture_iff hapi⟩

/-- A document with one schema, for binary content. -/
def binaryDocument (key : String) : Document where
  components :=
    { schemas :=
        { entries := [(key, .inline { format := some "binary" })]
          nodup := List.pairwise_singleton _ _ } }

/-- What that document is typed into. -/
def binaryApi (key : String) : Api where
  baseUrl := ""
  space := "Types"
  types := [declarationOf .schemas key { shape := .binary .upload }]
  paths := []

theorem noCapture_photo :
    ∃ c, ((binaryDocument "Photo").compile {}).Yields c ∧
      (binaryDocument "Photo").components.HoldsBinary .request ∧ (binaryApi "Photo").NoCapture := by
  have htyped : ((binaryDocument "Photo").toApi {}).Yields (binaryApi "Photo") := rfl
  have h : ((binaryDocument "Photo").compile {}).Yields (binaryApi "Photo").compilation :=
    compile_yields_iff.mpr ⟨_, htyped, rfl⟩
  rcases noCapture_iff h with ⟨api, hapi, _, hiff⟩
  -- The conclusion is applied to the one result that this document has.
  obtain rfl := hapi.unique htyped
  have hbinary := (exists_binary_iff htyped .request).mp
    ⟨_, List.mem_cons_self, (TypeNode.contains_iff _).mpr (Or.inl rfl)⟩
  refine ⟨_, h, hbinary, hiff.mpr ?_⟩
  have hkey : ∀ keys : List String, "Photo" ∉ keys →
      ¬ (binaryDocument "Photo").components.Declares keys := by
    rintro keys hkeys ⟨e, he, _, hmem⟩
    obtain rfl := List.mem_singleton.mp he
    exact hkeys hmem
  exact {
    upload := fun _ => hkey _ (by decide)
    download := fun _ => hkey _ (by decide)
    date := fun _ _ => hkey _ (by decide) }

/-- A schema called `File` for binary content is declared in terms of itself. -/
theorem file_schema_captured :
    ∃ c, ((binaryDocument "File").compile {}).Yields c ∧
      ((binaryDocument "File").toApi {}).Yields (binaryApi "File") ∧
      (∃ t ∈ (binaryApi "File").types, t.value.Contains (.binary .upload) ∧ t.name = "File") ∧
      (binaryApi "File").types.map (·.render 0) = ["export type File = (File | ReadStream)\n"] ∧
      ¬ (binaryApi "File").NoCapture := by
  have htyped : ((binaryDocument "File").toApi {}).Yields (binaryApi "File") := rfl
  have hcontains : TypeNode.Contains (.binary .upload) { shape := .binary .upload } :=
    (TypeNode.contains_iff _).mpr (Or.inl rfl)
  refine ⟨_, compile_yields_iff.mpr ⟨_, htyped, rfl⟩, htyped,
    ⟨_, List.mem_cons_self, hcontains, by decide⟩, by decide, fun hno => ?_⟩
  exact hno.upload ⟨_, List.mem_cons_self, hcontains⟩ _ List.mem_cons_self (by decide)

end RouteTypes
