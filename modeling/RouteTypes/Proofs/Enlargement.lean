import RouteTypes.Proofs.Chains
import RouteTypes.Proofs.TypingCorrespondence

/-!
# Typing with More Components

More components do not change what was typed before.

When every entry of some components is found in others under the same key, a reference
that led somewhere still leads there. Naming a type only asks for an entry to exist, and
following references ends at the same definition: the look-ups of a chain are the same,
and the bound on their number never stops a chain that arrives. The larger components may
resolve references that were missing before, so errors need not stay.

This is the comparison of typing under two settings, with equal schemas for related ones,
the relabeling that changes nothing, and all errors excused. Whatever was typed with the
smaller components is thus typed the same with the larger ones, entries and paths alike.

## Main definitions

* `OrderedMap.Within`, `Components.Within`: All entries are found under their keys.

## Theorems

* `Trail.within`: A chain of references stays as it is.
* `Components.Within.transfers`: References and schemas are typed as before.
* `typeEntryAt_within`, `typePaths_within`: So are entries and paths.
-/

namespace RouteTypes

/-- Every entry of the first map is an entry of the second. -/
def OrderedMap.Within {κ α : Type} [DecidableEq κ] (m m' : OrderedMap κ α) : Prop :=
  ∀ k v, m.get? k = some v → m'.get? k = some v

theorem OrderedMap.Within.refl {κ α : Type} [DecidableEq κ] (m : OrderedMap κ α) : m.Within m :=
  fun _ _ h => h

theorem OrderedMap.Within.contains {κ α : Type} [DecidableEq κ] {m m' : OrderedMap κ α}
    (h : m.Within m') {k : κ} (hk : m.contains k = true) : m'.contains k = true := by
  rcases Option.isSome_iff_exists.mp hk with ⟨v, hv⟩
  exact Option.isSome_iff_exists.mpr ⟨v, h k v hv⟩

/-- Every entry of the first components is an entry of the second. -/
structure Components.Within (c c' : Components) : Prop where
  schemas : c.schemas.Within c'.schemas
  parameters : c.parameters.Within c'.parameters
  requestBodies : c.requestBodies.Within c'.requestBodies
  responses : c.responses.Within c'.responses
  headers : c.headers.Within c'.headers

/-- What a reference finds in the smaller components it finds in the larger ones. -/
theorem Components.Within.contains {c c' : Components} (h : c.Within c') {registry : Registry}
    {key : String} (hc : c.contains registry key = true) : c'.contains registry key = true := by
  cases registry with
  | schemas => exact h.schemas.contains hc
  | parameters => exact h.parameters.contains hc
  | requestBodies => exact h.requestBodies.contains hc
  | responses => exact h.responses.contains hc
  | headers => exact h.headers.contains hc

section Chains

variable {α : Type} {registry : Registry} {entries entries' : OrderedMap String (Slot α)}
  {reference : String} {keys : List String} {value : α}

/-- A chain of references stays as it is: it looks up the same keys and finds the same. -/
theorem Trail.within (h : Trail registry entries reference keys value)
    (hw : entries.Within entries') : Trail registry entries' reference keys value := by
  -- The induction is on the chain: each of its entries is found again under its key.
  induction h with
  | last hp he => exact .last hp (hw _ _ he)
  | step hp he _ ih => exact .step hp (hw _ _ he) ih

/-- What a reference leads to it still leads to. -/
theorem follow_within (hw : entries.Within entries')
    (h : follow registry entries reference = .ok value) :
    follow registry entries' reference = .ok value := by
  rcases follow_eq_ok_iff.mp h with ⟨keys, ht⟩
  exact follow_eq_ok_iff.mpr ⟨keys, ht.within hw⟩

/-- A reference that leads nowhere at first may lead somewhere later, so errors are excused.
    -/
theorem follow_within_reduces {Q : α → α → Prop} (hQ : ∀ a, Q a a)
    (hw : entries.Within entries') (reference : String) :
    Logged.Reduces Q (fun _ => True)
      (.ofExcept (follow registry entries reference) : Typing α)
      (.ofExcept (follow registry entries' reference)) where
  yields a ha := ⟨a, follow_within hw ha, hQ a⟩
  fails _ _ := Or.inr trivial

end Chains

section Settings

variable {c c' : Components} {options : Options}

/-- A type that can be named still can, and has the same name. -/
theorem typeRef_within (hw : c.Within c') (pointer : String) :
    Logged.Carries (fun _ => True) ({} : Relabeling).reference
      (Setting.typeRef { components := c, options } pointer)
      (Setting.typeRef { components := c', options } pointer) where
  yields r hr := by
    refine ⟨r, ?_, rfl⟩
    rcases Components.typeRef_eq_ok_iff.mp hr with ⟨p, hp, hmem, hname⟩
    refine Components.typeRef_eq_ok_iff.mpr ⟨p, hp, ?_, hname⟩
    rw [Components.mem_entryKeys, ← Components.contains_iff] at hmem ⊢
    exact hw.contains hmem
  -- A reference without an entry may have one among the new entries.
  fails _ _ := Or.inr trivial

/-- References and schemas are typed as before. -/
theorem Components.Within.transfers (hw : c.Within c') (options : Options) :
    Setting.Transfers (fun _ => True) Eq {} { components := c, options }
      { components := c', options } where
  kind s s' h := congrArg Schema.kind h
  references := typeRef_within hw
  slots direction slot slot' h := by
    refine typeSlot_carries (typeRef_within hw) (fun s s' hs => ?_)
      (Relabeling.fits_id options) rfl h
    subst hs
    exact Schema.Corresponds.refl s
  schema := follow_within_reduces (fun _ => rfl) hw.schemas
  parameter := follow_within_reduces (Parameter.Alike.refl fun _ => rfl) hw.parameters
  requestBody := follow_within_reduces (RequestBody.Alike.refl fun _ => rfl) hw.requestBodies
  response := follow_within_reduces (Response.Alike.refl fun _ => rfl) hw.responses

/-- An entry under a key is typed as before, when the definitions are. -/
theorem typeKey_within {α : Type} (hw : c.Within c')
    {inline inline' : α → Typing (Option TypeNode)}
    (hinline : ∀ a, Logged.Carries (fun _ => True) (Option.map (·.relabel {})) (inline a)
      (inline' a))
    {entries entries' : OrderedMap String (Slot α)} (he : entries.Within entries')
    {key : String} (hkey : key ∈ entries.keys) {value : Option TypeNode}
    (h : (typeKey { components := c, options } inline entries key).Yields value) :
    (typeKey { components := c', options } inline' entries' key).Yields value := by
  -- The key is there, so its slot is the same in both maps.
  rcases Option.isSome_iff_exists.mp (OrderedMap.contains_iff.mpr hkey) with ⟨slot, hslot⟩
  unfold typeKey at h ⊢
  rw [hslot] at h
  rw [he key slot hslot]
  have hentry : Logged.Carries (fun _ => True) (Option.map (·.relabel {}))
      (typeEntry { components := c, options } inline slot)
      (typeEntry { components := c', options } inline' slot) :=
    typeEntry_carries (hw.transfers options) (fun a a' ha => ha ▸ hinline a)
      (Slot.Alike.refl (fun _ => rfl) slot)
  refine hentry.keeps (fun v => ?_) h
  cases v with
  | none => rfl
  | some v => exact congrArg some v.relabel_id

/-- An entry that was there is typed as before. -/
theorem typeEntryAt_within (hw : c.Within c') {registry : Registry} {key : String}
    (hkey : key ∈ c.keys registry) {value : Option TypeNode}
    (h : (Setting.typeEntryAt { components := c, options } registry key).Yields value) :
    (Setting.typeEntryAt { components := c', options } registry key).Yields value := by
  have ht := hw.transfers options
  cases registry with
  | schemas =>
      exact typeKey_within hw (fun s => ht.slots .request (.inline s) (.inline s) (.inline rfl))
        hw.schemas hkey h
  | parameters =>
      exact typeKey_within hw (fun p => typeParameter_carries ht (.refl (fun _ => rfl) p))
        hw.parameters hkey h
  | requestBodies =>
      exact typeKey_within hw (fun b => typeBody_carries ht (.refl (fun _ => rfl) b))
        hw.requestBodies hkey h
  | responses =>
      exact typeKey_within hw (fun r => typeResponse_carries ht (.refl (fun _ => rfl) r))
        hw.responses hkey h
  | headers =>
      exact typeKey_within hw (fun r => typeHeader_carries ht (.refl (fun _ => rfl) r))
        hw.headers hkey h

/-- Paths are typed as before. -/
theorem typePaths_within (hw : c.Within c') {paths : OrderedMap String PathItem}
    {ps : List TypedPath}
    (h : (typePaths { components := c, options } paths).Yields ps) :
    (typePaths { components := c', options } paths).Yields ps := by
  -- Every path item is like itself, and the relabeling is the one that changes nothing.
  have hpaths := typePaths_carries (hw.transfers options)
    (OrderedMap.Alike.refl (PathItem.Alike.refl fun _ => rfl) paths)
  exact hpaths.keeps (fun ps => map_eq_self fun p _ => p.relabel_id) h

end Settings

end RouteTypes
