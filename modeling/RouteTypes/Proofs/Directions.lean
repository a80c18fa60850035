import RouteTypes.Proofs.BinarySides
import RouteTypes.Proofs.SchemaCorrespondence

/-!
# Both Directions

What typing a schema for a request and for a response have in common.

The direction is handed down through the whole of a schema and asked for at one kind of
leaf only. So the two typings take the same turns: they look up the same references, leave
out the same members and properties, and stop with the same error, if there is one. Where
they give a type, one tree is made from the other by turning uploads into downloads. The
two runs are compared like those of two callers, with a relabeling that makes up for the
direction instead of the options.

A tree for a request holds no download (`typeOptional_onSide`), so the uploads that are
turned are all of its binary content, and nothing in it was a download before.

## Main definitions

* `Relabeling.received`: Binary content as it is received.
* `TypeNode.received`: A tree in which uploads have become downloads.

## Theorems

* `typeSlot_received`: The type for a response, made from that for a request.
* `typeSlot_directions`: Only binary content differs between the two.
-/

namespace RouteTypes

/-- Binary content as it is received: an upload becomes a download. -/
def Relabeling.received : Relabeling where
  binary
    | .upload => .download
    | .download => .download

/-- The tree with downloads in place of its uploads. -/
def TypeNode.received (n : TypeNode) : TypeNode :=
  n.relabel .received

/-- Binary content is all that is labeled anew, so one caller may ask for both types. -/
theorem Relabeling.received_fits (options : Options) :
    Relabeling.received.Fits options options where
  timeType := by
    unfold Options.timeType
    cases options.keepDates <;> rfl
  space := rfl

/-- Nothing is an upload after uploads have become downloads. -/
theorem TypeNode.not_contains_received (n : TypeNode) :
    ¬ n.received.Contains (.binary .upload) := by
  intro hcontains
  rcases hcontains with ⟨m, hm, hshape⟩
  unfold received at hm
  rw [nodes_relabel] at hm
  -- A node of the new tree is a node of the old one with new labels.
  rcases List.mem_map.mp hm with ⟨k, _, rfl⟩
  rw [shape_relabel] at hshape
  -- Only binary content is labeled as binary content, and then as a download.
  cases hk : k.shape with
  | binary kind =>
      rw [hk] at hshape
      have hkind : Relabeling.received.binary kind = .upload := Shape.binary.inj hshape
      cases kind <;> exact absurd hkind (by decide)
  | primitive | literals | object | combined | array | reference | status | format =>
      rw [hk] at hshape
      exact absurd hshape (by simp only [Shape.relabel, reduceCtorEq, not_false_eq_true])

section Slots

variable (setting : Setting) (slot : Slot Schema)

/-- A slot is typed for a response as it is for a request, but for binary content. -/
theorem typeSlot_received :
    Logged.MapsTo (Option.map TypeNode.received) (typeSlot setting .request slot)
      (typeSlot setting .response slot) := by
  have hrefs : ∀ r, Logged.MapsTo Relabeling.received.reference (setting.typeRef r)
      (setting.typeRef r) := fun r => typeRef_mapsTo rfl rfl r
  have hcorresponds : ∀ s s' : Schema, s = s' → s.Corresponds Eq s' :=
    fun s s' heq => heq ▸ .refl s
  have hbinary : Relabeling.received.binary Direction.request.binary = Direction.response.binary :=
    rfl
  have hslot : slot.Alike Eq slot := .refl (fun _ => rfl) slot
  exact typeSlot_carries hrefs hcorresponds (Relabeling.received_fits _) hbinary hslot

/-- Only binary content differs between the two directions. A slot fails with one error in
    both, or has no type in either, or has a type for requests, without downloads, that
    becomes its type for responses when all uploads in it become downloads. -/
theorem typeSlot_directions :
    (∃ e, (typeSlot setting .request slot).Fails e ∧ (typeSlot setting .response slot).Fails e) ∨
      ((typeSlot setting .request slot).Yields none ∧
        (typeSlot setting .response slot).Yields none) ∨
      ∃ n, (typeSlot setting .request slot).Yields (some n) ∧
        (typeSlot setting .response slot).Yields (some n.received) ∧
        ¬ n.Contains (.binary .download) ∧ ¬ n.received.Contains (.binary .upload) := by
  rcases (typeSlot_received setting slot).cases with
    hfails | ⟨request, response, hrequest, hresponse, heq⟩
  · exact Or.inl hfails
  -- Both are typed, and the type for the response is made from that for the request.
  · cases request with
    | none =>
        have hnone : response = none := heq.symm
        exact Or.inr (Or.inl ⟨hrequest, hnone ▸ hresponse⟩)
    | some n =>
        have hsome : response = some n.received := heq.symm
        -- A slot that is there is an optional one, so it is on the side of the request.
        have hoptional : (typeOptional setting .request (some slot)).Yields (some n) := hrequest
        have hdownload : ¬ n.Contains (.binary .download) :=
          (typeOptional_onSide hoptional).not_contains (by decide)
        exact Or.inr (Or.inr ⟨n, hrequest, hsome ▸ hresponse, hdownload,
          n.not_contains_received⟩)

end Slots

/-- An array of binary content holds uploads on its way in and downloads on its way out. -/
example :
    let setting : Setting := { components := {}, options := {} }
    let files : Schema := {
      type := some (.single "array")
      items := some (.inline { type := some (.single "string"), format := some "binary" }) }
    (typeSlot setting .request (.inline files)).Yields
        (some { shape := .array { shape := .binary .upload } }) ∧
      (typeSlot setting .response (.inline files)).Yields
        (some { shape := .array { shape := .binary .download } }) := ⟨rfl, rfl⟩

end RouteTypes
