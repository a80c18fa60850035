import RouteTypes.Proofs.DocumentKeys

/-!
# Aliases That Are Followed

What a decoder gives does not depend on how many aliases were followed before it.

Decoding counts the aliases it follows, and stops when there are too many. The count is the
only thing that a step leaves behind for the next one, so it is also the only way in which
what stands earlier in a text could change what is decoded later. It cannot. A step follows
a fixed number of aliases, finds a fixed value, and does so wherever the count allows that
many more (`Decoding.Metered`). So it is enough to know what a step finds at the very start
of the count (`Decoding.Finds`).

The decoders are put together from a few forms, and each form has one rule. Only the step
from an alias to what it stands for looks at the count (`Decoding.metered_target`).

## Main definitions

* `Decoding.Finds`: What a step finds, and how many aliases it follows.
* `Decoding.Metered`: A step finds the same wherever the count allows it.

## Theorems

* `Decoding.Metered.finds`, `Decoding.Metered.run_eq`: From a run to the start of the
  count, and from there to any count.
* `Decoding.metered_bind`, `Decoding.metered_within`: The rules for steps.
* `Decoding.metered_target`: The step that counts.
* `Decoding.finds_bind_iff`: What two steps find.
* `Decoding.metered_record`, `Decoding.metered_value`, `Decoding.metered_slot`: The rules
  for the forms of a value.
* `Decoding.metered_operation`, `Decoding.metered_parameters`, `Decoding.metered_pathMember`:
  The values of a path item.
-/

namespace RouteTypes

namespace Decoding

variable {α β σ : Type}

/-- At the start of the count, the step finds a value and follows a number of aliases. -/
def Finds (reading : Reading) (x : Decoding α) (a : α) (jumps : Nat) : Prop :=
  (x.run reading).run 0 = .ok (a, jumps)

/-- What the step finds it finds wherever the count allows the aliases that it follows. -/
def Metered (x : Decoding α) : Prop :=
  ∀ (reading : Reading) (count : Nat) (a : α) (count' : Nat), count ≤ reading.jumps →
    (x.run reading).run count = .ok (a, count') →
      ∃ jumps, count' = count + jumps ∧ count' ≤ reading.jumps ∧
        ∀ c, c + jumps ≤ reading.jumps → (x.run reading).run c = .ok (a, c + jumps)

section Counts

variable {reading : Reading} {x : Decoding α} {a : α} {jumps : Nat}

/-- What is found at the start of the count is found wherever it allows. -/
theorem Metered.run_eq (hx : Metered x) (h : Finds reading x a jumps) {count : Nat}
    (hcount : count + jumps ≤ reading.jumps) :
    (x.run reading).run count = .ok (a, count + jumps) := by
  rcases hx reading 0 a jumps (Nat.zero_le _) h with ⟨k, hk, -, hrun⟩
  -- From the start of the count the steps taken and the count reached are the same number.
  have hjumps : jumps = k := by omega
  subst hjumps
  exact hrun count hcount

/-- What is found anywhere is found at the start of the count. -/
theorem Metered.finds (hx : Metered x) {count count' : Nat} (hcount : count ≤ reading.jumps)
    (h : (x.run reading).run count = .ok (a, count')) :
    ∃ jumps, Finds reading x a jumps ∧ count' = count + jumps ∧ count' ≤ reading.jumps := by
  rcases hx reading count a count' hcount h with ⟨jumps, hcount', hle, hrun⟩
  have hstart := hrun 0 (by omega)
  rw [Nat.zero_add] at hstart
  exact ⟨jumps, hstart, hcount', hle⟩

end Counts

section Steps

/-- A step that only gives a value finds it anywhere, with no alias followed. -/
theorem metered_pure (a : α) : Metered (pure a : Decoding α) := by
  intro reading count b count' hcount h
  obtain ⟨rfl, rfl⟩ := Prod.mk.inj (Except.ok.inj h)
  exact ⟨0, rfl, hcount, fun c _ => rfl⟩

/-- A step that fails finds nothing, and so nothing that depends on the count. -/
theorem metered_fail (cause : Cause) : Metered (fail cause : Decoding α) := by
  intro reading count a count' _ h
  cases h

/-- Two steps follow the aliases of both. -/
theorem metered_bind {x : Decoding β} {f : β → Decoding α} (hx : Metered x)
    (hf : ∀ b, Metered (f b)) : Metered (x >>= f) := by
  intro reading count a count' hcount h
  rw [run_bind] at h
  cases hrun : (x.run reading).run count with
  | error e =>
      rw [hrun] at h
      cases h
  | ok r =>
      rw [hrun] at h
      rcases hx reading count r.1 r.2 hcount hrun with ⟨k, hk, hle, hfirst⟩
      rcases hf r.1 reading r.2 a count' hle h with ⟨l, hl, hle', hsecond⟩
      -- The second step starts where the first one ends, so the two are moved together.
      refine ⟨k + l, by omega, hle', fun c hc => ?_⟩
      rw [run_bind, hfirst c (by omega), ← Nat.add_assoc]
      exact hsecond (c + k) (by omega)

theorem metered_map {x : Decoding β} (hx : Metered x) (f : β → α) : Metered (f <$> x) :=
  metered_bind hx fun b => metered_pure (f b)

/-- Where in the document a step stands is told by its errors only, not by what it finds. -/
theorem metered_within {step : Step} {x : Decoding α} (hx : Metered x) :
    Metered (within step x) := by
  intro reading count a count' hcount h
  simp only [run_within_eq_ok_iff] at h ⊢
  exact hx reading count a count' hcount h

/-- The step that counts: an alias takes one jump. -/
theorem metered_target (node : Node) : Metered (target node) := by
  rcases node with readings | ⟨marked, items, fault⟩ | ⟨marked, members, ending⟩ | anchor | fault
  case «alias» =>
    -- The count is compared before it is raised: one jump needs room for one.
    have hrun : ∀ (reading : Reading) (count : Nat),
        ((target (.alias anchor)).run reading).run count =
          if count ≥ reading.jumps then .error { cause := .tooManyAliases }
          else .ok ((reading.anchors anchor).getD default, count + 1) := by
      intro reading count
      show ((ite (count ≥ reading.jumps) (fail .tooManyAliases)
        (pure ((reading.anchors anchor).getD default)) : Decoding Node).run reading).run
          (count + 1) = _
      split <;> rfl
    intro reading count a count' _ h
    rw [hrun] at h
    split at h
    · cases h
    · next hlt =>
        obtain ⟨rfl, rfl⟩ := Prod.mk.inj (Except.ok.inj h)
        refine ⟨1, rfl, by omega, fun c hc => ?_⟩
        rw [hrun, if_neg (by omega)]
  -- No other node is an alias, so the node itself is the target and nothing is counted.
  all_goals exact metered_pure _

theorem metered_mismatch (expected : Expected) (node : Node) :
    Metered (mismatch expected node : Decoding α) := by
  unfold mismatch
  split
  · split <;> exact metered_fail _
  all_goals exact metered_fail _

/-- Going into a container takes room, and no aliases: the two are counted apart. -/
theorem metered_enter {room : Nat} {x : Nat → Decoding α} (hx : ∀ room, Metered (x room)) :
    Metered (enter room x) := by
  cases room with
  | zero => exact metered_fail _
  | succ room => exact hx room

/-- A container ends, or it breaks off with an error. -/
theorem metered_stop (fault : Option Fault) : Metered (stop fault) := by
  cases fault with
  | none => exact metered_pure _
  | some fault => exact metered_fail _

/-- A node that is passed over is not decoded, so its aliases are not followed. -/
theorem metered_skip (node : Node) : Metered (skip node) := by
  unfold skip
  split
  · exact metered_fail _
  · exact metered_pure _

end Steps

section Found

variable {reading : Reading} {a b : α} {jumps : Nat}

/-- What is found without a step is given, and no alias is followed for it. -/
theorem finds_pure_iff : Finds reading (pure b) a jumps ↔ b = a ∧ 0 = jumps := by
  unfold Finds
  exact ⟨fun h => Prod.mk.inj (Except.ok.inj h), fun ⟨hb, hjumps⟩ => hb ▸ hjumps ▸ rfl⟩

/-- What two steps find, the first finds a part of and the second the rest. -/
theorem finds_bind_iff {x : Decoding β} {f : β → Decoding α} (hx : Metered x)
    (hf : ∀ b, Metered (f b)) :
    Finds reading (x >>= f) a jumps ↔
      ∃ b k l, Finds reading x b k ∧ Finds reading (f b) a l ∧ jumps = k + l ∧
        jumps ≤ reading.jumps := by
  unfold Finds
  rw [run_bind]
  constructor
  · intro h
    cases hrun : (x.run reading).run 0 with
    | error e =>
        rw [hrun] at h
        cases h
    | ok r =>
        rw [hrun] at h
        rcases hx.finds (Nat.zero_le _) hrun with ⟨k, -, hk, hle⟩
        -- What the second step finds behind the first it finds at the start as well.
        rcases (hf r.1).finds hle h with ⟨l, hsecond, hl, hle'⟩
        exact ⟨r.1, r.2, l, rfl, hsecond, hl, hle'⟩
  · rintro ⟨b, k, l, hfirst, hsecond, rfl, hle⟩
    rw [hfirst]
    exact (hf b).run_eq hsecond hle

/-- What is found behind a change is the changed value, and the aliases are the same. -/
theorem finds_map_iff {x : Decoding β} (hx : Metered x) {f : β → α} :
    Finds reading (f <$> x) a jumps ↔ ∃ b, Finds reading x b jumps ∧ f b = a := by
  refine (finds_bind_iff hx fun b => metered_pure (f b)).trans ⟨?_, ?_⟩
  · rintro ⟨b, k, l, hfirst, hsecond, rfl, -⟩
    -- The change itself adds no alias to those of the step.
    obtain ⟨hb, rfl⟩ := finds_pure_iff.mp hsecond
    exact ⟨b, hfirst, hb⟩
  · rintro ⟨b, hfirst, hb⟩
    rcases hx.finds (Nat.zero_le _) hfirst with ⟨k, -, hk, hle⟩
    exact ⟨b, jumps, 0, hfirst, finds_pure_iff.mpr ⟨hb, rfl⟩, rfl, hle⟩

/-- A place in the document changes errors only, so the same is found at it. -/
theorem finds_within_iff {step : Step} {x : Decoding α} :
    Finds reading (within step x) a jumps ↔ Finds reading x a jumps :=
  run_within_eq_ok_iff

/-- A node is passed over when it can be read to its end, and no alias is followed. -/
theorem finds_skip_iff {node : Node} {u : Unit} :
    Finds reading (skip node) u jumps ↔ node.skipFault? = none ∧ 0 = jumps := by
  unfold skip
  cases node.skipFault? with
  | some fault => exact ⟨nofun, nofun⟩
  | none => exact finds_pure_iff.trans (by simp only [true_and])

end Found

section Forms

/-- A text is a scalar in the target of the node, and nothing behind it is followed. -/
theorem metered_text (node : Node) : Metered (text node) := by
  refine metered_bind (metered_target node) fun n => ?_
  split
  · split
    · exact metered_pure _
    · exact metered_mismatch _ _
  · exact metered_mismatch _ _

theorem metered_flag (node : Node) : Metered (flag node) := by
  refine metered_bind (metered_target node) fun n => ?_
  split
  · split
    · exact metered_pure _
    · exact metered_mismatch _ _
  · exact metered_mismatch _ _

/-- A value that may be absent is decoded at the target of the node, or it is found absent
    there. -/
theorem metered_optional {decode : Node → Decoding α} (h : ∀ node, Metered (decode node))
    (node : Node) : Metered (optional decode node) := by
  refine metered_bind (metered_target node) fun n => ?_
  split
  · split
    · exact metered_fail _
    · exact metered_pure _
    · exact metered_map (h _) _
  · exact metered_map (h _) _

/-- The items of a list are decoded in turn, each from the count the one before it left. -/
theorem metered_itemsFrom {decode : Node → Decoding α} (h : ∀ node, Metered (decode node))
    (position : Nat) (items : List Node) : Metered (itemsFrom decode position items) := by
  -- The induction is on the items, for every position: the position is in errors only.
  induction items generalizing position with
  | nil => exact metered_pure _
  | cons item rest ih =>
      refine metered_bind (metered_within (h item)) fun _ => ?_
      exact metered_bind (ih _) fun _ => metered_pure _

/-- A list is decoded where its alias leads, with less room than outside. -/
theorem metered_list {decode : Nat → Node → Decoding α}
    (h : ∀ room node, Metered (decode room node)) (room : Nat) (node : Node) :
    Metered (list decode room node) := by
  refine metered_bind (metered_target node) fun n => ?_
  split
  · refine metered_enter fun room => ?_
    refine metered_bind (metered_itemsFrom (h room) 0 _) fun _ => ?_
    exact metered_bind (metered_stop _) fun _ => metered_pure _
  · split
    · exact metered_pure _
    · exact metered_mismatch _ _

/-- The members of a map are decoded in turn, each key before its value. -/
theorem metered_membersOf {decode : String → Node → Decoding α}
    (h : ∀ name node, Metered (decode name node)) (members : List (Node × Node)) :
    Metered (membersOf decode members) := by
  induction members with
  | nil => exact metered_pure _
  | cons member rest ih =>
      refine metered_bind (metered_within (metered_text _)) fun name => ?_
      refine metered_bind (metered_within (h name _)) fun _ => ?_
      exact metered_bind ih fun _ => metered_pure _

/-- Where the members end, an error may stand behind a key that is still to be read. -/
theorem metered_finish {check : String → Decoding Unit} (h : ∀ name, Metered (check name))
    (ending : Ending) : Metered (finish check ending) := by
  cases ending with
  | closed => exact metered_pure _
  | beforeKey fault => exact metered_within (metered_fail _)
  -- The key behind the last member is decoded, aliases and all, before the error is met.
  | afterKey key fault =>
      refine metered_bind (metered_within (metered_text key)) fun name => ?_
      exact metered_bind (h name) fun _ => metered_fail _

/-- A map is decoded where its alias leads, its members first and then its end. -/
theorem metered_mapExpecting {expected : Expected} {decode : Nat → String → Node → Decoding α}
    (h : ∀ room name node, Metered (decode room name node)) (room : Nat) (node : Node) :
    Metered (mapExpecting expected decode room node) := by
  refine metered_bind (metered_target node) fun n => ?_
  split
  · refine metered_enter fun room => ?_
    refine metered_bind (metered_membersOf (h room) _) fun _ => ?_
    exact metered_bind (metered_finish (fun _ => metered_pure _) _) fun _ => metered_pure _
  · split
    · exact metered_pure _
    · exact metered_mismatch _ _

theorem metered_orderedMap {decode : Nat → Node → Decoding α}
    (h : ∀ room node, Metered (decode room node)) (room : Nat) (node : Node) :
    Metered (orderedMap decode room node) :=
  metered_map (metered_mapExpecting (fun room _ value =>
    metered_bind (h room value) fun _ => metered_pure _) room node) _

/-- Whether a field was seen before is asked of the names, not of the count. -/
theorem metered_checkNew (form : RecordForm) (seen : List String) (name : String) :
    Metered (checkNew form seen name) := by
  unfold checkNew
  split
  · exact metered_fail _
  · exact metered_pure _

variable {decode : FieldDecoder σ}

/-- The members of a record are decoded in turn: known fields by their decoders, and the
    others are passed over. -/
theorem metered_recordMembers (form : RecordForm)
    (h : ∀ name room node, Metered (decode name room node)) (room : Nat) (seen : List String)
    (state : σ) (members : List (Node × Node)) :
    Metered (recordMembers form decode room seen state members) := by
  -- Fields seen and the state so far change from member to member, so they are general.
  induction members generalizing seen state with
  | nil => exact metered_pure _
  | cons member rest ih =>
      refine metered_bind (metered_within (metered_text _)) fun name => ?_
      refine metered_bind (metered_checkNew form seen name) fun _ => ?_
      split
      · exact metered_bind (metered_within (h name room _)) fun _ => ih _ _
      · exact metered_bind (metered_within (metered_skip _)) fun _ => ih _ _

/-- A record that is written as a list has its fields in order, and the items go to them in
    turn. -/
theorem metered_recordItems (form : RecordForm)
    (h : ∀ name room node, Metered (decode name room node)) (room : Nat)
    (fault : Option Fault) (position : Nat) (state : σ) (fields : List (String × Presence))
    (items : List Node) :
    Metered (recordItems form decode room fault position state fields items) := by
  -- The induction is on the fields. The items may run out before them or be left over.
  induction fields generalizing items position state with
  | nil =>
      cases items with
      | nil => exact metered_bind (metered_stop _) fun _ => metered_pure _
      | cons item rest => exact metered_fail _
  | cons field fields ih =>
      cases items with
      | nil =>
          refine metered_bind (metered_stop fault) fun _ => ?_
          -- A field without an item is skipped when it may be missing, and the rest have none
          -- either.
          split
          · exact ih _ _ []
          · exact metered_fail _
      | cons item items =>
          exact metered_bind (metered_within (h field.1 room item)) fun _ => ih _ _ items

/-- Which fields are missing is asked of the names that were seen. -/
theorem metered_complete (form : RecordForm) (seen : List String) (state : σ) :
    Metered (record.complete form seen state) := by
  unfold record.complete
  split
  · exact metered_fail _
  · exact metered_pure _

/-- A record is a list of its fields in order or a map from their names, and both are metered.
    -/
theorem metered_record {form : RecordForm}
    (h : ∀ name room node, Metered (decode name room node)) (empty : σ) (room : Nat)
    (node : Node) : Metered (record form decode empty room node) := by
  refine metered_bind (metered_target node) fun n => ?_
  dsimp only
  split
  · exact metered_enter fun room => metered_recordItems form h room _ _ _ _ _
  · refine metered_enter fun room => ?_
    refine metered_bind (metered_recordMembers form h room [] empty _) fun _ => ?_
    refine metered_bind (metered_finish (metered_checkNew form _) _) fun _ => ?_
    exact metered_complete _ _ _
  · split
    · exact metered_complete _ _ _
    · exact metered_mismatch _ _

/-- The entries of a map are decoded in turn, keys and values by the same decoder. -/
theorem metered_entriesOf {decode : Node → Decoding Value} (h : ∀ node, Metered (decode node))
    (members : List (Node × Node)) : Metered (entriesOf decode members) := by
  induction members with
  | nil => exact metered_pure _
  | cons member rest ih =>
      refine metered_bind (metered_within (h _)) fun _ => ?_
      refine metered_bind (metered_within (h _)) fun _ => ?_
      exact metered_bind ih fun _ => metered_pure _

/-- A map of arbitrary values ends like every map, except that its last key is a value too. -/
theorem metered_finishValue {decode : Node → Decoding Value} (h : ∀ node, Metered (decode node))
    (ending : Ending) : Metered (finishValue decode ending) := by
  cases ending with
  | closed => exact metered_pure _
  | beforeKey fault => exact metered_within (metered_fail _)
  | afterKey key fault => exact metered_bind (metered_within (h key)) fun _ => metered_fail _

/-- What a container holds is decoded with less room. -/
theorem metered_value (room : Nat) (node : Node) : Metered (value room node) := by
  induction room generalizing node with
  | zero =>
      -- Only a value without parts is left.
      unfold value
      refine metered_bind (metered_target node) fun n => ?_
      split
      · split
        · exact metered_pure _
        · exact metered_fail _
      · split <;> exact metered_fail _
      · split <;> exact metered_fail _
      all_goals exact metered_fail _
  | succ room ih =>
      unfold value
      refine metered_bind (metered_target node) fun n => ?_
      split
      · split
        · exact metered_pure _
        · exact metered_fail _
      · split
        · exact metered_fail _
        · refine metered_bind (metered_itemsFrom ih 0 _) fun _ => ?_
          exact metered_bind (metered_stop _) fun _ => metered_pure _
      · split
        · exact metered_fail _
        · refine metered_bind (metered_entriesOf ih _) fun _ => ?_
          exact metered_bind (metered_finishValue ih _) fun _ => metered_pure _
      all_goals exact metered_fail _

/-- What stands in a slot is decoded as a value first, and its reading follows no aliases. -/
theorem metered_slot (definition : Value → Option α) (room : Nat) (node : Node) :
    Metered (slot definition room node) := by
  refine metered_bind (metered_value room node) fun v => ?_
  split
  · exact metered_pure _
  · exact metered_fail _

/-- A registry is a map of slots. -/
theorem metered_registry (definition : Value → Option α) (room : Nat) (node : Node) :
    Metered (registry definition room node) :=
  metered_orderedMap (metered_slot definition) room node

end Forms

section Frame

theorem metered_parameters (room : Nat) (node : Node) : Metered (parameters room node) :=
  metered_list (metered_slot _) room node

/-- Every field of an operation is metered, known or not. -/
theorem metered_operationField (name : String) (room : Nat) (node : Node) :
    Metered (operationField name room node) := by
  unfold operationField
  split
  case h_1 | h_2 =>
    exact metered_bind (metered_optional metered_text node) fun _ => metered_pure _
  case h_3 => exact metered_bind (metered_flag node) fun _ => metered_pure _
  case h_4 => exact metered_bind (metered_parameters room node) fun _ => metered_pure _
  case h_5 =>
    exact metered_bind (metered_optional (metered_slot _ room) node) fun _ => metered_pure _
  case h_6 => exact metered_bind (metered_registry _ room node) fun _ => metered_pure _
  case h_7 => exact metered_pure _

/-- An operation is a record of those fields. -/
theorem metered_operation (room : Nat) (node : Node) : Metered (operation room node) :=
  metered_record metered_operationField _ room node

/-- So is every member of a path: its parameters, an operation, or what is passed over. -/
theorem metered_pathMember (room : Nat) (name : String) (node : Node) :
    Metered (pathMember room name node) := by
  unfold pathMember
  split
  · exact metered_map (metered_parameters room node) _
  · split
    · exact metered_map (metered_operation room node) _
    · exact metered_bind (metered_skip node) fun _ => metered_pure _

end Frame

end Decoding

end RouteTypes
