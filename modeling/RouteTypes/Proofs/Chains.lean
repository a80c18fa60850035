import RouteTypes.Proofs.Declarations
import Mathlib.Data.List.Perm.Subperm

/-!
# Chains of References

Where a reference leads when the entries it runs through are references themselves.

Following gives up after one look-up more than the registry has entries. A chain that
reaches a definition may take as many look-ups as it likes, so it has to be shown that
it never takes more than that. The keys it looks up carry the argument: a key determines
the rest of the chain, so a key that came twice would have a rest as long as itself and
something more. All keys are thus different, and there are no more of them than entries
(`Trail.length_le`). Following then finds a definition exactly when there is a chain to
one (`follow_eq_ok_iff`).

A chain can also be looked at without a registry in mind: an entry points to another
whenever its text leads there, into any registry and narrowed or not. Such a chain ends
at a definition, or it does not (`Components.Ends`).

## Main definitions

* `Trail`: The keys that a chain looks up on its way to a definition.
* `Registry.Definition`: What the entries of a registry define.
* `Components.slot?`: Whether an entry is a definition or a reference, and to what.
* `Components.Arrives`: A chain within one registry reaches a definition.
* `Components.PointsTo`, `Components.Ends`: Chains across the registries.

## Theorems

* `Trail.nodup`, `Trail.length_le`: No key comes twice on the way to a definition.
* `follow_eq_ok_iff`: Following finds a definition when a chain leads to it.
* `Components.arrives_iff_follow`: A definition is found when the chain arrives.
-/

namespace RouteTypes

/-- A reference leads to a key of a registry when it points into it and at no property. -/
theorem definitionKey_eq_ok_iff {registry : Registry} {reference key : String} :
    definitionKey registry reference = .ok key ↔
      Pointer.parse reference = .ok { registry, key } := by
  unfold definitionKey
  cases hp : Pointer.parse reference with
  | error e => simp
  | ok pointer =>
      rcases pointer with ⟨r, k, property⟩
      by_cases hr : r = registry
      · cases property <;> simp [hr]
      · simp [hr]

/-- The keys that a chain of references looks up before it reaches a definition. -/
inductive Trail {α : Type} (registry : Registry) (entries : OrderedMap String (Slot α)) :
    String → List String → α → Prop where
  | last {reference key : String} {value : α}
      (hp : Pointer.parse reference = .ok { registry, key })
      (he : entries.get? key = some (.inline value)) :
      Trail registry entries reference [key] value
  | step {reference key next : String} {keys : List String} {value : α}
      (hp : Pointer.parse reference = .ok { registry, key })
      (he : entries.get? key = some (.reference next))
      (h : Trail registry entries next keys value) :
      Trail registry entries reference (key :: keys) value

namespace Trail

variable {α : Type} {registry : Registry} {entries : OrderedMap String (Slot α)}
  {reference reference' : String} {keys keys' : List String} {value value' : α}

theorem exists_cons (h : Trail registry entries reference keys value) :
    ∃ key rest, keys = key :: rest ∧ Pointer.parse reference = .ok { registry, key } := by
  cases h with
  | last hp _ => exact ⟨_, [], rfl, hp⟩
  | step hp _ _ => exact ⟨_, _, rfl, hp⟩

/-- Two chains that look up the same key go on in the same way. -/
theorem eq_of_head {key : String} (h : Trail registry entries reference (key :: keys) value)
    (h' : Trail registry entries reference' (key :: keys') value') : keys = keys' := by
  -- The entry of the key says how both go on.
  generalize hks : key :: keys = ks at h
  induction h generalizing key keys keys' reference' with
  | last _ he =>
      obtain ⟨rfl, rfl⟩ := List.cons.inj hks
      cases h' with
      | last _ _ => rfl
      | step _ he' _ =>
          rw [he] at he'
          exact absurd he' (by simp only [Option.some.injEq, reduceCtorEq, not_false_eq_true])
  | step _ he h ih =>
      obtain ⟨rfl, rfl⟩ := List.cons.inj hks
      cases h' with
      | last _ he' =>
          rw [he] at he'
          exact absurd he' (by simp only [Option.some.injEq, reduceCtorEq, not_false_eq_true])
      | step _ he' h' =>
          rw [he, Option.some.injEq, Slot.reference.injEq] at he'
          subst he'
          rcases h.exists_cons with ⟨k, rest, rfl, hp⟩
          rcases h'.exists_cons with ⟨k', rest', rfl, hp'⟩
          rw [hp, Except.ok.injEq, Pointer.mk.injEq] at hp'
          obtain rfl := hp'.2.1
          rw [ih h' rfl]

/-- From every key on its way a chain goes on like one that starts there. -/
theorem exists_suffix (h : Trail registry entries reference keys value) {key : String}
    (hk : key ∈ keys) : ∃ front rest reference', keys = front ++ key :: rest ∧
      Trail registry entries reference' (key :: rest) value := by
  -- The induction is on the chain, from its first key on.
  induction h with
  | last hp he =>
      obtain rfl := List.mem_singleton.mp hk
      exact ⟨[], [], _, rfl, .last hp he⟩
  | @step reference first next keys value hp he h ih =>
      rcases List.mem_cons.mp hk with rfl | hk
      · exact ⟨[], keys, _, rfl, .step hp he h⟩
      · rcases ih hk with ⟨front, rest, reference', rfl, h'⟩
        exact ⟨first :: front, rest, reference', rfl, h'⟩

/-- No key comes twice on the way to a definition. -/
theorem nodup (h : Trail registry entries reference keys value) : keys.Nodup := by
  induction h with
  | last => simp
  | @step reference key next keys value hp he h ih =>
      refine List.nodup_cons.mpr ⟨fun hk => ?_, ih⟩
      rcases h.exists_suffix hk with ⟨front, rest, reference', hkeys, h'⟩
      -- The chain would go on from the key in two ways, one longer than the other.
      have heq : keys = rest := eq_of_head (.step hp he h) h'
      have hlength := congrArg List.length hkeys
      simp only [List.length_append, List.length_cons] at hlength
      rw [heq] at hlength
      omega

/-- The keys on the way are keys of the registry. -/
theorem subset_keys (h : Trail registry entries reference keys value) :
    keys ⊆ entries.keys := by
  intro key hk
  induction h with
  | last hp he =>
      obtain rfl := List.mem_singleton.mp hk
      exact List.mem_map_of_mem (OrderedMap.mem_of_get? he)
  | step hp he h ih =>
      rcases List.mem_cons.mp hk with rfl | hk
      · exact List.mem_map_of_mem (OrderedMap.mem_of_get? he)
      · exact ih hk

/-- A chain to a definition looks up no more keys than there are entries. -/
theorem length_le (h : Trail registry entries reference keys value) :
    keys.length ≤ entries.entries.length := by
  have hle := (List.subperm_of_subset h.nodup h.subset_keys).length_le
  rwa [OrderedMap.keys, List.length_map] at hle

/-- With enough look-ups left a chain is followed to its end. -/
theorem followSteps_eq (h : Trail registry entries reference keys value) (start : String) :
    ∀ n, keys.length ≤ n → followSteps registry entries start n reference = .ok value := by
  -- One look-up is left for every key of the rest, so none of them is the last too early.
  induction h with
  | last hp he =>
      intro n hn
      obtain ⟨n, rfl⟩ : ∃ k, n = k + 1 := ⟨n - 1, by simp only [List.length_singleton] at hn; omega⟩
      simp only [followSteps, definitionKey_eq_ok_iff.mpr hp, he]
  | step hp he h ih =>
      intro n hn
      obtain ⟨n, rfl⟩ : ∃ k, n = k + 1 := ⟨n - 1, by simp only [List.length_cons] at hn; omega⟩
      simp only [followSteps, definitionKey_eq_ok_iff.mpr hp, he]
      exact ih n (by simp only [List.length_cons] at hn; omega)

theorem of_followSteps {start : String} {n : Nat}
    (h : followSteps registry entries start n reference = .ok value) :
    ∃ keys, Trail registry entries reference keys value := by
  -- A look-up that goes on puts its key in front of the trail of the rest.
  induction n generalizing reference with
  | zero => exact absurd h (by simp only [followSteps, reduceCtorEq, not_false_eq_true])
  | succ n ih =>
      unfold followSteps at h
      -- A text that is no pointer into the registry ends the search, and so does a missing key.
      cases hkey : definitionKey registry reference with
      | error e =>
          rw [hkey] at h
          exact absurd h (by simp only [reduceCtorEq, not_false_eq_true])
      | ok key =>
          have hp := definitionKey_eq_ok_iff.mp hkey
          rw [hkey] at h
          dsimp only at h
          cases he : entries.get? key with
          | none =>
              rw [he] at h
              exact absurd h (by simp only [reduceCtorEq, not_false_eq_true])
          | some slot =>
              rw [he] at h
              cases slot with
              | inline found =>
                  rw [Except.ok.injEq] at h
                  exact ⟨[key], .last hp (h ▸ he)⟩
              | reference next =>
                  rcases ih h with ⟨keys, ht⟩
                  exact ⟨key :: keys, .step hp he ht⟩

end Trail

/-- Following a reference finds a definition when a chain of entries leads to it. The
    bound on the look-ups never stops such a chain. -/
theorem follow_eq_ok_iff {α : Type} {registry : Registry}
    {entries : OrderedMap String (Slot α)} {reference : String} {value : α} :
    follow registry entries reference = .ok value ↔
      ∃ keys, Trail registry entries reference keys value := by
  constructor
  · exact Trail.of_followSteps
  · rintro ⟨keys, h⟩
    have hle := h.length_le
    exact h.followSteps_eq reference _ (by omega)

/-- What the entries of a registry define. -/
abbrev Registry.Definition : Registry → Type
  | .schemas => Schema
  | .parameters => Parameter
  | .requestBodies => RequestBody
  | .responses => Response
  | .headers => Header

/-- Whether a slot is a definition or a reference, without the definition. -/
def Slot.outline {α : Type} : Slot α → Slot Unit
  | .reference pointer => .reference pointer
  | .inline _ => .inline ()

/-- A reference that stands in an outline stands in the entries. -/
theorem Slot.get?_of_outline {α : Type} {entries : OrderedMap String (Slot α)} {key r : String}
    (h : (entries.get? key).map Slot.outline = some (.reference r)) :
    entries.get? key = some (.reference r) := by
  rcases Option.map_eq_some_iff.mp h with ⟨slot, hslot, hout⟩
  cases slot with
  | reference next =>
      rw [hslot, Slot.reference.inj hout]
  | inline value =>
      exact absurd hout (by simp only [Slot.outline, reduceCtorEq, not_false_eq_true])

namespace Components

/-- What stands at a registry and key: a definition, or a reference to something else. -/
def slot? (c : Components) : Registry → String → Option (Slot Unit)
  | .schemas, key => (c.schemas.get? key).map Slot.outline
  | .parameters, key => (c.parameters.get? key).map Slot.outline
  | .requestBodies, key => (c.requestBodies.get? key).map Slot.outline
  | .responses, key => (c.responses.get? key).map Slot.outline
  | .headers, key => (c.headers.get? key).map Slot.outline

theorem isSome_slot? (c : Components) (registry : Registry) (key : String) :
    (c.slot? registry key).isSome = c.contains registry key := by
  cases registry <;> simp only [slot?, contains, OrderedMap.contains, Option.isSome_map]

theorem mem_entryKeys_iff (c : Components) (e : Registry × String) :
    e ∈ c.entryKeys ↔ (c.slot? e.1 e.2).isSome = true := by
  rw [mem_entryKeys, isSome_slot?, contains_iff]

/-- The chain from a reference stays in one registry, narrows nowhere and reaches a
    definition. -/
inductive Arrives (c : Components) (registry : Registry) : String → Prop where
  | last {reference key : String} (hp : Pointer.parse reference = .ok { registry, key })
      (he : c.slot? registry key = some (.inline ())) : Arrives c registry reference
  | step {reference key next : String} (hp : Pointer.parse reference = .ok { registry, key })
      (he : c.slot? registry key = some (.reference next)) (h : Arrives c registry next) :
      Arrives c registry reference

/-- A reference arrives when following it finds some definition. -/
theorem arrives_iff_follow {α : Type} {c : Components} {registry : Registry}
    {entries : OrderedMap String (Slot α)}
    (hc : ∀ key, c.slot? registry key = (entries.get? key).map Slot.outline)
    {reference : String} :
    c.Arrives registry reference ↔ ∃ value, follow registry entries reference = .ok value := by
  simp only [follow_eq_ok_iff]
  -- The two chains have the same steps; one of them does not know where it ends.
  constructor
  · intro h
    induction h with
    | last hp he =>
        rw [hc, Option.map_eq_some_iff] at he
        rcases he with ⟨slot, hslot, hout⟩
        cases slot with
        | reference next => exact absurd hout (by simp only [Slot.outline, reduceCtorEq,
            not_false_eq_true])
        | inline value => exact ⟨value, _, .last hp hslot⟩
    | step hp he _ ih =>
        rw [hc] at he
        rcases ih with ⟨value, keys, ht⟩
        exact ⟨value, _, .step hp (Slot.get?_of_outline he) ht⟩
  · rintro ⟨value, keys, h⟩
    induction h with
    | last hp he => exact .last hp (by rw [hc, he]; rfl)
    | step hp he _ ih => exact .step hp (by rw [hc, he]; rfl) ih

/-- One entry is a reference that leads to another, wherever the text points and
    narrowed or not. -/
def PointsTo (c : Components) (e e' : Registry × String) : Prop :=
  ∃ reference pointer, c.slot? e.1 e.2 = some (.reference reference) ∧
    Pointer.parse reference = .ok pointer ∧ e' = (pointer.registry, pointer.key)

/-- Entries that are references are followed from this one to a definition. -/
inductive Ends (c : Components) : Registry × String → Prop where
  | inline {e : Registry × String} (he : c.slot? e.1 e.2 = some (.inline ())) : Ends c e
  | reference {e e' : Registry × String} (he : c.PointsTo e e') (h : Ends c e') : Ends c e

end Components

end RouteTypes
