import RouteTypes.Document.Read
import RouteTypes.Proofs.DistinctKeys
import RouteTypes.Proofs.Outcome

/-!
# The Keys of a Document

All schemas of a document that was read from a text have properties with distinct names.

For schemas this is known, so it remains to follow them through the frame of a document.
The frame is decoded in steps that may fail, count what they use up and know the whole
text. Nothing of this has to be known here, only what a step gives when it does not fail
(`Decoding.Gives`). Each form of a value has one rule for that, and a record has what its
fields keep (`Decoding.gives_record`).

## Main definitions

* `Decoding.Gives`: What is known of a decoded value.
* `Decoding.FieldsKeep`: What the fields of a record keep.

## Theorems

* `Decoding.gives_bind`, `Decoding.gives_within`: The rules for steps.
* `Decoding.gives_list`, `Decoding.gives_orderedMap`, `Decoding.gives_record`,
  `Decoding.gives_slot`: The rules for the forms of a value.
* `Decoding.gives_document`: A decoded document is keyed.
* `read_keyed`, `ofJson_keyed`: A document, and components, that were read from a text.
-/

namespace RouteTypes

namespace Decoding

variable {α β σ : Type} {P : α → Prop}

/-- Whatever value the step gives has a property. -/
def Gives (P : α → Prop) (x : Decoding α) : Prop :=
  ∀ reading count a count', (x.run reading).run count = .ok (a, count') → P a

section Steps

/-- The second step starts from the count where the first one ends. -/
theorem run_bind (x : Decoding β) (f : β → Decoding α) (reading : Reading) (count : Nat) :
    ((x >>= f).run reading).run count
      = ((x.run reading).run count).bind fun r => ((f r.1).run reading).run r.2 :=
  rfl

/-- Another step is tried from the count before the failure, not from the one it reached. -/
theorem run_tryCatch (x : Decoding α) (f : DecodeError → Decoding α) (reading : Reading)
    (count : Nat) :
    ((tryCatch x f).run reading).run count
      = ((x.run reading).run count).tryCatch fun e => ((f e).run reading).run count :=
  rfl

/-- A step that only gives a value gives that one. -/
theorem gives_pure {a : α} (h : P a) : Gives P (pure a) := by
  intro reading count b count' hb
  obtain ⟨rfl, _⟩ := Prod.mk.inj (Except.ok.inj hb)
  exact h

/-- A step that fails gives nothing, so any property will do. -/
theorem gives_fail (cause : Cause) : Gives P (fail cause) := by
  intro reading count a count' ha
  cases ha

/-- A property of what two steps give can build on a property of what the first one gives. -/
theorem gives_bind {Q : β → Prop} {x : Decoding β} (hx : Gives Q x) {f : β → Decoding α}
    (hf : ∀ b, Q b → Gives P (f b)) : Gives P (x >>= f) := by
  intro reading count a count' ha
  rw [run_bind] at ha
  cases hrun : (x.run reading).run count with
  | error e =>
      rw [hrun] at ha
      cases ha
  | ok r =>
      rw [hrun] at ha
      exact hf r.1 (hx _ _ _ _ hrun) _ _ _ _ ha

/-- A step of which only what follows is known. -/
theorem gives_after {x : Decoding β} {f : β → Decoding α} (hf : ∀ b, Gives P (f b)) :
    Gives P (x >>= f) :=
  gives_bind (Q := fun _ => True) (fun _ _ _ _ _ => trivial) fun b _ => hf b

theorem gives_map {Q : β → Prop} {x : Decoding β} (hx : Gives Q x) {f : β → α}
    (hf : ∀ b, Q b → P (f b)) : Gives P (f <$> x) :=
  gives_bind hx fun b hb => gives_pure (hf b hb)

/-- The place of a step counts for its errors only. -/
theorem run_within_eq_ok_iff {step : Step} {x : Decoding α} {reading : Reading} {count : Nat}
    {r : α × Nat} :
    ((within step x).run reading).run count = .ok r ↔ (x.run reading).run count = .ok r := by
  unfold within
  rw [run_tryCatch]
  cases (x.run reading).run count with
  | error e => exact ⟨nofun, nofun⟩
  | ok r' => exact Iff.rfl

/-- Where a step stands counts for its errors only, so it gives the same there. -/
theorem gives_within {step : Step} {x : Decoding α} (hx : Gives P x) :
    Gives P (within step x) := fun reading count a count' ha =>
  hx reading count a count' (run_within_eq_ok_iff.mp ha)

theorem gives_enter {room : Nat} {x : Nat → Decoding α} (hx : ∀ room, Gives P (x room)) :
    Gives P (enter room x) := by
  cases room with
  | zero => exact gives_fail _
  | succ room => exact hx room

theorem gives_mismatch (expected : Expected) (node : Node) : Gives P (mismatch expected node) := by
  unfold mismatch
  split
  · split <;> exact gives_fail _
  all_goals exact gives_fail _

end Steps

section Forms

/-- A value that may be absent has the property if it is given at all. -/
theorem gives_optional {decode : Node → Decoding α} (h : ∀ node, Gives P (decode node))
    (node : Node) : Gives (fun x => ∀ a ∈ x, P a) (optional decode node) := by
  have hsome : ∀ n, Gives (fun x => ∀ a ∈ x, P a) (some <$> decode n) := fun n =>
    gives_map (h n) fun a ha b hb => Option.some.inj hb ▸ ha
  refine gives_after fun n => ?_
  split
  · split
    · exact gives_fail _
    -- Absent: there is no value to have the property.
    · exact gives_pure fun a ha => absurd ha (by simp only [Option.mem_def, reduceCtorEq,
        not_false_eq_true])
    · exact hsome _
  · exact hsome _

/-- All items that are given have the property. The place of an item does not matter. -/
theorem gives_itemsFrom {decode : Node → Decoding α} (h : ∀ node, Gives P (decode node))
    (position : Nat) (items : List Node) :
    Gives (fun xs => ∀ a ∈ xs, P a) (itemsFrom decode position items) := by
  induction items generalizing position with
  | nil => exact gives_pure fun a ha => absurd ha List.not_mem_nil
  | cons item rest ih =>
      refine gives_bind (gives_within (h item)) fun first hfirst => ?_
      refine gives_bind (ih _) fun others hothers => gives_pure fun a ha => ?_
      rcases List.mem_cons.mp ha with rfl | ha
      · exact hfirst
      · exact hothers a ha

/-- So have all elements of a list. A scalar that stands for an empty list gives none. -/
theorem gives_list {decode : Nat → Node → Decoding α} (h : ∀ room node, Gives P (decode room node))
    (room : Nat) (node : Node) : Gives (fun xs => ∀ a ∈ xs, P a) (list decode room node) := by
  refine gives_after fun n => ?_
  split
  · refine gives_enter fun room => ?_
    exact gives_bind (gives_itemsFrom (h room) 0 _) fun xs hxs =>
      gives_after fun _ => gives_pure hxs
  · split
    · exact gives_pure fun a ha => absurd ha List.not_mem_nil
    · exact gives_mismatch _ _

/-- So have the values of all members, whatever their keys. -/
theorem gives_membersOf {decode : String → Node → Decoding α}
    (h : ∀ name node, Gives P (decode name node)) (members : List (Node × Node)) :
    Gives (fun xs => ∀ a ∈ xs, P a) (membersOf decode members) := by
  induction members with
  | nil => exact gives_pure fun a ha => absurd ha List.not_mem_nil
  | cons member rest ih =>
      -- Nothing is asked of the keys here, only of the values behind them.
      refine gives_after fun name => ?_
      refine gives_bind (gives_within (h name _)) fun first hfirst => ?_
      refine gives_bind ih fun others hothers => gives_pure fun a ha => ?_
      rcases List.mem_cons.mp ha with rfl | ha
      · exact hfirst
      · exact hothers a ha

/-- So have the members of a map. -/
theorem gives_mapExpecting {expected : Expected} {decode : Nat → String → Node → Decoding α}
    (h : ∀ room name node, Gives P (decode room name node)) (room : Nat) (node : Node) :
    Gives (fun xs => ∀ a ∈ xs, P a) (mapExpecting expected decode room node) := by
  refine gives_after fun n => ?_
  split
  · refine gives_enter fun room => ?_
    exact gives_bind (gives_membersOf (h room) _) fun xs hxs =>
      gives_after fun _ => gives_pure hxs
  · split
    · exact gives_pure fun a ha => absurd ha List.not_mem_nil
    · exact gives_mismatch _ _

/-- Keeping the last value of each key drops values only, so those of the map have it too. -/
theorem gives_orderedMap {decode : Nat → Node → Decoding α}
    (h : ∀ room node, Gives P (decode room node)) (room : Nat) (node : Node) :
    Gives (fun m => m.All P) (orderedMap decode room node) := by
  have hentry : ∀ (room : Nat) (name : String) (value : Node),
      Gives (fun e : String × α => P e.2)
        (do let decoded ← decode room value; pure (name, decoded)) := fun room _ value =>
    gives_bind (h room value) fun _ ha => gives_pure ha
  exact gives_map (gives_mapExpecting hentry room node) fun es hes => OrderedMap.all_ofList hes

/-- The changes that a decoder of fields gives keep a property. -/
def FieldsKeep (P : α → Prop) (decode : FieldDecoder α) : Prop :=
  ∀ name room node, Gives (fun update => ∀ a, P a → P (update a)) (decode name room node)

variable {decode : FieldDecoder α}

/-- A record that is given as a map is changed by one known field after the other, and every
    change keeps the property. -/
theorem gives_recordMembers (form : RecordForm) (h : FieldsKeep P decode) (room : Nat)
    (members : List (Node × Node)) (seen : List String) {state : α} (hstate : P state) :
    Gives (fun r => P r.2) (recordMembers form decode room seen state members) := by
  -- The state is what the changes so far have made of the empty record.
  induction members generalizing seen state with
  | nil => exact gives_pure hstate
  | cons member rest ih =>
      refine gives_after fun name => gives_after fun _ => ?_
      split
      · exact gives_bind (gives_within (h name room _)) fun update hupdate =>
          ih _ (hupdate state hstate)
      -- An unknown field is passed over and changes nothing.
      · exact gives_after fun _ => ih _ hstate

/-- So is a record that is given as a list, whose items are its fields in order. -/
theorem gives_recordItems (form : RecordForm) (h : FieldsKeep P decode) (room : Nat)
    (fault : Option Fault) (fields : List (String × Presence)) (items : List Node)
    (position : Nat) {state : α} (hstate : P state) :
    Gives P (recordItems form decode room fault position state fields items) := by
  induction fields generalizing items position state with
  | nil =>
      cases items with
      | nil => exact gives_after fun _ => gives_pure hstate
      | cons item rest => exact gives_fail _
  | cons field fields ih =>
      cases items with
      | nil =>
          refine gives_after fun _ => ?_
          split
          -- The item is missing and may be: the field keeps what the empty record has.
          · exact ih [] _ hstate
          · exact gives_fail _
      | cons item items =>
          exact gives_bind (gives_within (h field.1 room item)) fun update hupdate =>
            ih items _ (hupdate state hstate)

theorem gives_complete {form : RecordForm} {seen : List String} {state : α} (hstate : P state) :
    Gives P (record.complete form seen state) := by
  unfold record.complete
  split
  · exact gives_fail _
  · exact gives_pure hstate

/-- What the empty record has and the fields of a record keep, the record has. -/
theorem gives_record {form : RecordForm} (h : FieldsKeep P decode) {empty : α} (hempty : P empty)
    (room : Nat) (node : Node) : Gives P (record form decode empty room node) := by
  refine gives_after fun n => ?_
  dsimp only
  split
  · exact gives_enter fun room => gives_recordItems form h room _ _ _ _ hempty
  · refine gives_enter fun room => ?_
    exact gives_bind (gives_recordMembers form h room _ [] hempty) fun r hr =>
      gives_after fun _ => gives_complete hr
  · split
    · exact gives_complete hempty
    · exact gives_mismatch _ _

/-- A slot is a reference, or what its value is read as. -/
theorem gives_slot {definition : Value → Option α} (h : ∀ v a, definition v = some a → P a)
    (room : Nat) (node : Node) : Gives (fun slot => slot.All P) (slot definition room node) := by
  refine gives_after fun v => ?_
  split
  · next slot hslot => exact gives_pure (Value.slot?_all h hslot)
  · exact gives_fail _

theorem gives_registry {definition : Value → Option α} (h : ∀ v a, definition v = some a → P a)
    (room : Nat) (node : Node) :
    Gives (fun m => m.All (·.All P)) (registry definition room node) :=
  gives_orderedMap (gives_slot h) room node

end Forms

section Frame

theorem gives_parameters (room : Nat) (node : Node) :
    Gives (fun slots => ∀ slot ∈ slots, slot.All Parameter.Keyed) (parameters room node) :=
  gives_list (gives_slot Value.parameter?_keyed) room node

/-- Whatever field is decoded, the operation stays keyed. -/
theorem operationField_keyed : FieldsKeep Operation.Keyed operationField := by
  intro name room node
  unfold operationField
  split
  case h_4 =>
    exact gives_bind (gives_parameters room node) fun slots hslots =>
      gives_pure fun o ho => { ho with parameters := hslots }
  case h_5 =>
    exact gives_bind (gives_optional (gives_slot Value.requestBody?_keyed room) node)
      fun slot hslot => gives_pure fun o ho => { ho with requestBody := hslot }
  case h_6 =>
    exact gives_bind (gives_registry Value.response?_keyed room node) fun m hm =>
      gives_pure fun o ho => { ho with responses := hm }
  case h_7 => exact gives_pure fun o ho => ho
  -- The other fields hold no schemas.
  all_goals exact gives_after fun _ => gives_pure fun o ho => { ho with }

/-- An operation is decoded as a keyed one, since it starts without any schema. -/
theorem gives_operation (room : Nat) (node : Node) : Gives Operation.Keyed (operation room node) :=
  gives_record operationField_keyed {
    parameters := fun slot hslot => absurd hslot List.not_mem_nil
    requestBody := fun slot hslot => absurd hslot (by
      simp only [Option.mem_def, reduceCtorEq, not_false_eq_true])
    responses := OrderedMap.all_empty } room node

end Frame

end Decoding

/-- All schemas of the member are keyed. -/
def PathMember.Keyed : PathMember → Prop
  | .parameters shared => ∀ slot ∈ shared, slot.All Parameter.Keyed
  | .operation _ o => o.Keyed
  | .other => True

/-- Adding a keyed member to a keyed path item gives a keyed one. -/
theorem PathItem.add_keyed {item : PathItem} (h : item.Keyed) {member : PathMember}
    (hmember : member.Keyed) : (item.add member).Keyed := by
  cases member with
  | parameters shared => exact { h with parameters := hmember }
  | operation method operation =>
      exact { h with operations := OrderedMap.all_insert h.operations hmember }
  | other => exact h

/-- So does adding one member after the other to the empty path item. -/
theorem PathItem.ofMembers_keyed {members : List PathMember} (h : ∀ m ∈ members, m.Keyed) :
    (PathItem.ofMembers members).Keyed := by
  have hfold : ∀ item : PathItem, item.Keyed → (members.foldl add item).Keyed := by
    induction members with
    | nil => exact fun _ hitem => hitem
    | cons member rest ih =>
        intro item hitem
        exact ih (fun m hm => h m (List.mem_cons_of_mem member hm)) _
          (add_keyed hitem (h member List.mem_cons_self))
  exact hfold {} {
    parameters := fun slot hslot => absurd hslot List.not_mem_nil
    operations := OrderedMap.all_empty }

namespace Decoding

/-- Every member of a path is keyed: parameters, an operation, or what holds no schemas. -/
theorem gives_pathMember (room : Nat) (name : String) (node : Node) :
    Gives PathMember.Keyed (pathMember room name node) := by
  unfold pathMember
  split
  · exact gives_map (gives_parameters room node) fun slots hslots => hslots
  · split
    · exact gives_map (gives_operation room node) fun o ho => ho
    · exact gives_after fun _ => gives_pure trivial

theorem gives_pathItem (room : Nat) (node : Node) : Gives PathItem.Keyed (pathItem room node) :=
  gives_map (gives_mapExpecting gives_pathMember room node) fun _ h => PathItem.ofMembers_keyed h

/-- Whichever registry is decoded, the components stay keyed: only that one changes. -/
theorem componentsField_keyed : FieldsKeep Components.Keyed componentsField := by
  intro name room node
  unfold componentsField
  split
  case h_1 =>
    exact gives_bind (gives_registry Value.schema?_keyed room node) fun m hm =>
      gives_pure fun c hc => { hc with schemas := hm }
  case h_2 =>
    exact gives_bind (gives_registry Value.parameter?_keyed room node) fun m hm =>
      gives_pure fun c hc => { hc with parameters := hm }
  case h_3 =>
    exact gives_bind (gives_registry Value.requestBody?_keyed room node) fun m hm =>
      gives_pure fun c hc => { hc with requestBodies := hm }
  case h_4 =>
    exact gives_bind (gives_registry Value.response?_keyed room node) fun m hm =>
      gives_pure fun c hc => { hc with responses := hm }
  case h_5 =>
    exact gives_bind (gives_registry Value.header?_keyed room node) fun m hm =>
      gives_pure fun c hc => { hc with headers := hm }
  case h_6 => exact gives_pure fun c hc => hc

theorem components_empty_keyed : ({} : Components).Keyed where
  schemas := OrderedMap.all_empty
  parameters := OrderedMap.all_empty
  requestBodies := OrderedMap.all_empty
  responses := OrderedMap.all_empty
  headers := OrderedMap.all_empty

theorem gives_components (room : Nat) (node : Node) :
    Gives Components.Keyed (components room node) :=
  gives_record componentsField_keyed components_empty_keyed room node

/-- Whatever field is decoded, the document stays keyed. -/
theorem documentField_keyed : FieldsKeep Document.Keyed documentField := by
  intro name room node
  unfold documentField
  split
  case h_4 =>
    exact gives_bind (gives_orderedMap gives_pathItem room node) fun m hm =>
      gives_pure fun d hd => { hd with paths := hm }
  case h_5 =>
    exact gives_bind (gives_components room node) fun c hc =>
      gives_pure fun d hd => { hd with components := hc }
  case h_6 => exact gives_pure fun d hd => hd
  -- The version, in either field, and the servers hold no schemas.
  all_goals exact gives_after fun _ => gives_pure fun d hd => { hd with }

/-- A document is decoded as a keyed one. -/
theorem gives_document (room : Nat) (node : Node) : Gives Document.Keyed (document room node) :=
  gives_record documentField_keyed {
    paths := OrderedMap.all_empty
    components := components_empty_keyed } room node

/-- What a decoder gives, the tree of a whole text gives. -/
theorem of_decodeWhole {α : Type} {P : α → Prop} {decode : Nat → Node → Decoding α}
    (h : ∀ room node, Gives P (decode room node)) {reading : Reading} {format : Format} {a : α}
    (ha : reading.decodeWhole format decode = .ok a) : P a := by
  unfold Reading.decodeWhole at ha
  split at ha
  · exact absurd ha (by simp only [reduceCtorEq, not_false_eq_true])
  · exact absurd ha (by simp only [reduceCtorEq, not_false_eq_true])
  · next value hdecode _ =>
      obtain rfl := Except.ok.inj ha
      unfold Reading.decode at hdecode
      split at hdecode
      · next hrun =>
          obtain rfl := Except.ok.inj hdecode
          exact h _ _ _ _ _ _ hrun
      · exact absurd hdecode (by simp only [reduceCtorEq, not_false_eq_true])

end Decoding

/-- Checking the version gives the document back, if it gives anything. -/
theorem checkVersion_yields {document d : Document} (h : document.checkVersion.Yields d) :
    d = document := by
  unfold Document.checkVersion at h
  split at h
  · exact absurd h (by simp only [Logged.Yields, Logged.fail, reduceCtorEq, not_false_eq_true])
  -- Without a version there is a warning, and the document all the same.
  · simp only [Logged.yields_bind, Logged.yields_report, Logged.yields_pure, true_and,
      exists_const] at h
    exact h.symm
  · split at h
    · simp only [Logged.yields_pure] at h
      exact h.symm
    · simp only [Logged.yields_bind, Logged.yields_report, Logged.yields_pure, true_and,
        exists_const] at h
      exact h.symm

/-- All schemas of a document that was read from a text are keyed. -/
theorem read_keyed {format : Format} {text : String} {document : Document}
    (h : (Document.read format text).Yields document) : document.Keyed := by
  simp only [Document.read, Document.ofReading, Logged.yields_bind, Logged.yields_ofExcept] at h
  rcases h with ⟨d, hd, hversion⟩
  rw [checkVersion_yields hversion]
  exact Decoding.of_decodeWhole Decoding.gives_document hd

/-- So are all schemas of components that were read from a text. -/
theorem ofJson_keyed {text : String} {components : Components}
    (h : Components.ofJson text = .ok components) : components.Keyed :=
  Decoding.of_decodeWhole Decoding.gives_components h

end RouteTypes
