import RouteTypes.Proofs.Chains
import RouteTypes.Proofs.Needs
import Mathlib.Logic.Relation

/-!
# Following References

What following a reference comes to, and that it always ends.

A reference is one link of a chain: its text is parsed, its key is looked up, and the
entry is a definition, or a reference that the chain goes on with. A link can also be bad,
because the text cannot be used or the entry is missing. A link has one of these three
forms only, and which one does not depend on how it was reached, so every chain ends in
one way or goes on forever (`Outcome.unique`).

Following gives up after one look-up more than there are entries. Whoever keeps a list of
the references that were visited can stop earlier, at the first one that comes back
(`followSeen`). What comes back is the text of a reference. Two texts may look up one key,
so a loop can be noticed one round later than its keys would tell, but texts other than
the first stand in the entries, and with every link one of these is used up. That bounds
the number of links, and shows that both ways to stop agree: from a reference that has
come back the chain is endless, and an endless chain is a cycle for any number of links.

## Main definitions

* `LinksTo`, `Defines`, `BadLink`: The three forms of a link.
* `Endless`: The chain from a reference never ends.
* `Outcome`: What a chain comes to.
* `followSeen`: Following with a list of the references that were visited.
* `FollowsChain`: Following a reference gives what its chain comes to.

## Theorems

* `Outcome.unique`: A chain comes to one thing only.
* `followSeen_outcome`: Following with a list gives what the chain comes to.
* `followSteps_eq_followSeen`: The bound on the links stops no chain too early.
* `follow_followsChain`: Following a reference is exact.
-/

namespace RouteTypes

section Links

variable {α : Type} (registry : Registry) (entries : OrderedMap String (Slot α))

/-- The reference names an entry of the registry which is a reference itself. -/
def LinksTo (reference next : String) : Prop :=
  ∃ key, Pointer.parse reference = .ok { registry, key } ∧
    entries.get? key = some (.reference next)

/-- The reference names an entry of the registry with a definition. -/
def Defines (reference : String) (value : α) : Prop :=
  ∃ key, Pointer.parse reference = .ok { registry, key } ∧
    entries.get? key = some (.inline value)

/-- The reference is no pointer, points into another registry, is narrowed to a property,
    or names no entry. -/
inductive BadLink (reference : String) : CompileError → Prop where
  | malformed {e : CompileError} (hp : Pointer.parse reference = .error e) : BadLink reference e
  | elsewhere {pointer : Pointer} (hp : Pointer.parse reference = .ok pointer)
      (hr : pointer.registry ≠ registry) :
      BadLink reference (.invalidReference reference (.wrongRegistry registry))
  | narrowed {pointer : Pointer} (hp : Pointer.parse reference = .ok pointer)
      (hr : pointer.registry = registry) (hproperty : pointer.property ≠ none) :
      BadLink reference (.invalidReference reference .narrowed)
  | missing {key : String} (hp : Pointer.parse reference = .ok { registry, key })
      (he : entries.get? key = none) :
      BadLink reference (.missingReference registry key reference)

/-- The chain from the first reference comes by the second. -/
def Reaches : String → String → Prop :=
  Relation.ReflTransGen (LinksTo registry entries)

/-- The chain from the reference never ends. -/
def Endless (reference : String) : Prop :=
  ∃ chain : Nat → String, chain 0 = reference ∧
    ∀ n, LinksTo registry entries (chain n) (chain (n + 1))

/-- What the chain from a reference comes to. A cycle is reported with the reference that
    following started with. -/
inductive Outcome (start reference : String) : Except CompileError α → Prop where
  | definition {last : String} {value : α} (h : Reaches registry entries reference last)
      (hd : Defines registry entries last value) : Outcome start reference (.ok value)
  | badLink {last : String} {e : CompileError} (h : Reaches registry entries reference last)
      (hb : BadLink registry entries last e) : Outcome start reference (.error e)
  | endless (h : Endless registry entries reference) :
      Outcome start reference (.error (.referenceCycle start))

end Links

/-- The error is about a link, and quotes its text. -/
def CompileError.Quotes (reference : String) : CompileError → Prop
  | .missingReference _ _ text | .invalidReference text _ => text = reference
  | .referenceCycle _ | .nameCollision _ _ _ _ _ => False

/-- A text that is no pointer is quoted as it stands. -/
theorem Pointer.parse_quotes {reference : String} {e : CompileError}
    (h : Pointer.parse reference = .error e) : e.Quotes reference := by
  -- Parsing fails at four places, and the error of each carries the text that was parsed.
  unfold parse at h
  cases hrest : dropBeginning? componentsPath reference.toList with
  | none =>
      rw [hrest] at h
      obtain rfl := Except.error.inj h
      rfl
  | some rest =>
      rw [hrest] at h
      dsimp only at h
      cases hparts : parts? rest with
      | none =>
          rw [hparts] at h
          obtain rfl := Except.error.inj h
          rfl
      | some parts =>
          rcases parts with ⟨registry, key, property⟩
          rw [hparts] at h
          dsimp only at h
          cases hregistry : Registry.ofKey? (String.ofList registry) with
          | none =>
              rw [hregistry] at h
              obtain rfl := Except.error.inj h
              rfl
          | some found =>
              rw [hregistry] at h
              dsimp only at h
              by_cases hkey : key.isEmpty = true
              · rw [if_pos hkey] at h
                obtain rfl := Except.error.inj h
                rfl
              · rw [if_neg hkey] at h
                exact absurd h (by simp only [reduceCtorEq, not_false_eq_true])

section Forms

variable {α : Type} {registry : Registry} {entries : OrderedMap String (Slot α)}
  {reference next start : String} {value : α} {e : CompileError}

theorem lookedUp_unique {key key' : String} {slot slot' : Option (Slot α)}
    (hp : Pointer.parse reference = .ok { registry, key }) (he : entries.get? key = slot)
    (hp' : Pointer.parse reference = .ok { registry, key := key' })
    (he' : entries.get? key' = slot') : slot = slot' := by
  rw [hp, Except.ok.injEq, Pointer.mk.injEq] at hp'
  rw [← he, ← he', hp'.2.1]

theorem LinksTo.unique {next' : String} (h : LinksTo registry entries reference next)
    (h' : LinksTo registry entries reference next') : next = next' := by
  rcases h with ⟨key, hp, he⟩
  rcases h' with ⟨key', hp', he'⟩
  exact Slot.reference.inj (Option.some.inj (lookedUp_unique hp he hp' he'))

theorem Defines.unique {value' : α} (h : Defines registry entries reference value)
    (h' : Defines registry entries reference value') : value = value' := by
  rcases h with ⟨key, hp, he⟩
  rcases h' with ⟨key', hp', he'⟩
  exact Slot.inline.inj (Option.some.inj (lookedUp_unique hp he hp' he'))

theorem Defines.not_linksTo (h : Defines registry entries reference value) :
    ¬ LinksTo registry entries reference next := by
  rintro ⟨key', hp', he'⟩
  rcases h with ⟨key, hp, he⟩
  have heq := Option.some.inj (lookedUp_unique hp he hp' he')
  exact absurd heq (by simp only [reduceCtorEq, not_false_eq_true])

/-- A bad link finds no entry. -/
theorem BadLink.get?_eq_none {key : String} (h : BadLink registry entries reference e)
    (hp : Pointer.parse reference = .ok { registry, key }) : entries.get? key = none := by
  cases h with
  | malformed hp' =>
      rw [hp] at hp'
      exact absurd hp' (by simp only [reduceCtorEq, not_false_eq_true])
  | elsewhere hp' hr =>
      rw [hp, Except.ok.injEq] at hp'
      exact absurd (by rw [← hp']) hr
  | narrowed hp' _ hproperty =>
      rw [hp, Except.ok.injEq] at hp'
      exact absurd (by rw [← hp']) hproperty
  | missing hp' he => exact lookedUp_unique hp rfl hp' he

theorem BadLink.not_linksTo (h : BadLink registry entries reference e) :
    ¬ LinksTo registry entries reference next := by
  rintro ⟨key, hp, he⟩
  rw [h.get?_eq_none hp] at he
  exact absurd he (by simp only [reduceCtorEq, not_false_eq_true])

theorem BadLink.not_defines (h : BadLink registry entries reference e) :
    ¬ Defines registry entries reference value := by
  rintro ⟨key, hp, he⟩
  rw [h.get?_eq_none hp] at he
  exact absurd he (by simp only [reduceCtorEq, not_false_eq_true])

/-- A link is bad when it has no key in the registry, or a key without an entry. -/
theorem badLink_iff : BadLink registry entries reference e ↔
    definitionKey registry reference = .error e ∨
      ∃ key, definitionKey registry reference = .ok key ∧ entries.get? key = none ∧
        e = .missingReference registry key reference := by
  constructor
  · intro h
    -- The forms of a bad link are in the order of the tests, so the later ones pass the earlier
    -- tests.
    cases h with
    | malformed hp =>
        refine Or.inl ?_
        rw [definitionKey, hp]
    | elsewhere hp hr =>
        refine Or.inl ?_
        rw [definitionKey, hp]
        exact if_pos hr
    | narrowed hp hr hproperty =>
        refine Or.inl ?_
        rw [definitionKey, hp]
        dsimp only
        rw [if_neg (not_not.mpr hr), if_pos (Option.isSome_iff_ne_none.mpr hproperty)]
    | missing hp he => exact Or.inr ⟨_, definitionKey_eq_ok_iff.mpr hp, he, rfl⟩
  · rintro (h | ⟨key, hkey, he, rfl⟩)
    · cases hp : Pointer.parse reference with
      | error fault =>
          rw [definitionKey, hp, Except.error.injEq] at h
          exact .malformed (hp.trans (by rw [h]))
      | ok pointer =>
          rw [definitionKey, hp] at h
          dsimp only at h
          by_cases hr : pointer.registry ≠ registry
          · rw [if_pos hr, Except.error.injEq] at h
            exact h ▸ .elsewhere hp hr
          · rw [if_neg hr] at h
            by_cases hproperty : pointer.property.isSome = true
            · rw [if_pos hproperty, Except.error.injEq] at h
              exact h ▸ .narrowed hp (not_not.mp hr) (Option.isSome_iff_ne_none.mp hproperty)
            · rw [if_neg hproperty] at h
              exact absurd h (by simp only [reduceCtorEq, not_false_eq_true])
    · exact .missing (definitionKey_eq_ok_iff.mp hkey) he

/-- A bad link has one error. -/
theorem BadLink.unique {e' : CompileError} (h : BadLink registry entries reference e)
    (h' : BadLink registry entries reference e') : e = e' := by
  rcases badLink_iff.mp h with hkey | ⟨key, hkey, _, rfl⟩
  · rcases badLink_iff.mp h' with hkey' | ⟨key', hkey', _, _⟩
    · exact Except.error.inj (hkey.symm.trans hkey')
    · rw [hkey] at hkey'
      exact absurd hkey' (by simp only [reduceCtorEq, not_false_eq_true])
  · rcases badLink_iff.mp h' with hkey' | ⟨key', hkey', _, rfl⟩
    · rw [hkey] at hkey'
      exact absurd hkey' (by simp only [reduceCtorEq, not_false_eq_true])
    · rw [hkey, Except.ok.injEq] at hkey'
      rw [hkey']

/-- The error of a bad link quotes the text of that link. -/
theorem BadLink.quotes (h : BadLink registry entries reference e) : e.Quotes reference := by
  cases h with
  | malformed hp => exact Pointer.parse_quotes hp
  | elsewhere | narrowed | missing => rfl

/-- A link has one of the three forms. -/
theorem link_cases (registry : Registry) (entries : OrderedMap String (Slot α))
    (reference : String) :
    (∃ e, BadLink registry entries reference e) ∨
      (∃ value, Defines registry entries reference value) ∨
        ∃ next, LinksTo registry entries reference next := by
  -- The tests of the key say whether the link is bad, and the look-up tells the rest apart.
  cases hkey : definitionKey registry reference with
  | error e => exact Or.inl ⟨e, badLink_iff.mpr (Or.inl hkey)⟩
  | ok key =>
      have hp := definitionKey_eq_ok_iff.mp hkey
      cases he : entries.get? key with
      | none => exact Or.inl ⟨_, .missing hp he⟩
      | some slot =>
          cases slot with
          | inline value => exact Or.inr (Or.inl ⟨value, key, hp, he⟩)
          | reference next => exact Or.inr (Or.inr ⟨next, key, hp, he⟩)

end Forms

section Chains

variable {α : Type} {registry : Registry} {entries : OrderedMap String (Slot α)}
  {reference next start : String}

/-- A reference whose link leads nowhere is the end of every chain that comes by it. -/
theorem Reaches.eq_of_end {last : String}
    (hend : ∀ next, ¬ LinksTo registry entries reference next)
    (h : Reaches registry entries reference last) : last = reference := by
  rcases Relation.ReflTransGen.cases_head h with rfl | ⟨next, hnext, _⟩
  · rfl
  · exact absurd hnext (hend next)

/-- Two ends of one chain are the same. -/
theorem Reaches.end_unique {last last' : String}
    (hend : ∀ next, ¬ LinksTo registry entries last next)
    (hend' : ∀ next, ¬ LinksTo registry entries last' next)
    (h : Reaches registry entries reference last)
    (h' : Reaches registry entries reference last') : last = last' := by
  have hunique : Relator.RightUnique (LinksTo registry entries) :=
    fun _ _ _ hb hc => LinksTo.unique hb hc
  -- The chain has no branches, so it comes by the one end after the other.
  rcases Relation.ReflTransGen.total_of_right_unique hunique h h' with h | h
  · exact (Reaches.eq_of_end hend h).symm
  · exact Reaches.eq_of_end hend' h

/-- An endless chain goes on from everything that it comes by. -/
theorem Endless.exists_next (hendless : Endless registry entries reference) {last : String}
    (h : Reaches registry entries reference last) :
    ∃ next, LinksTo registry entries last next := by
  rcases hendless with ⟨chain, rfl, hchain⟩
  -- What the chain comes by is one of its members, by induction along the way.
  have hmember : ∃ n, chain n = last := by
    induction h with
    | refl => exact ⟨0, rfl⟩
    | tail _ hlink ih =>
        rcases ih with ⟨n, rfl⟩
        exact ⟨n + 1, (hchain n).unique hlink⟩
  rcases hmember with ⟨n, rfl⟩
  exact ⟨_, hchain n⟩

/-- What links to an endless chain starts one. -/
theorem Endless.of_next (hnext : LinksTo registry entries reference next)
    (h : Endless registry entries next) : Endless registry entries reference := by
  rcases h with ⟨chain, rfl, hchain⟩
  -- The same chain with one more member in front.
  refine ⟨fun n => Nat.casesOn n reference chain, rfl, fun n => ?_⟩
  cases n with
  | zero => exact hnext
  | succ n => exact hchain n

/-- What is left of an endless chain is endless. -/
theorem Endless.after (h : Endless registry entries reference)
    (hnext : LinksTo registry entries reference next) : Endless registry entries next := by
  rcases h with ⟨chain, rfl, hchain⟩
  exact ⟨fun n => chain (n + 1), (hchain 0).unique hnext, fun n => hchain (n + 1)⟩

/-- A chain that can always go on within some set of references is endless. -/
theorem Endless.of_invariant (P : String → Prop)
    (hnext : ∀ r, P r → ∃ next, LinksTo registry entries r next ∧ P next) (h : P reference) :
    Endless registry entries reference := by
  choose step hlink hstep using hnext
  -- The members of the chain, each with the reason why it goes on.
  let chain : Nat → { r // P r } := fun n =>
    Nat.rec ⟨reference, h⟩ (fun _ r => ⟨step r.1 r.2, hstep r.1 r.2⟩) n
  exact ⟨fun n => (chain n).1, rfl, fun n => hlink (chain n).1 (chain n).2⟩

/-- A reference that comes back makes the chain endless. -/
theorem Endless.of_loop (hloop : LinksTo registry entries reference next)
    (hback : Reaches registry entries next reference) : Endless registry entries next := by
  -- Wherever the chain is, it comes by the reference again.
  refine Endless.of_invariant (Reaches registry entries · reference) (fun r hr => ?_) hback
  rcases Relation.ReflTransGen.cases_head hr with rfl | ⟨after, hafter, hrest⟩
  · exact ⟨next, hloop, hback⟩
  · exact ⟨after, hafter, hrest⟩

/-- What a chain comes to after its first link it comes to. -/
theorem Outcome.of_next {x : Except CompileError α}
    (hnext : LinksTo registry entries reference next)
    (h : Outcome registry entries start next x) : Outcome registry entries start reference x := by
  cases h with
  | definition h hd => exact .definition (Relation.ReflTransGen.head hnext h) hd
  | badLink h hb => exact .badLink (Relation.ReflTransGen.head hnext h) hb
  | endless h => exact .endless (h.of_next hnext)

/-- A chain comes to one thing only: it has one end, which has one form, or none. -/
theorem Outcome.unique {x y : Except CompileError α}
    (hx : Outcome registry entries start reference x)
    (hy : Outcome registry entries start reference y) : x = y := by
  cases hx with
  -- An end of either form excludes the other form, and an endless chain has no end.
  | definition h hd =>
      cases hy with
      | definition h' hd' =>
          obtain rfl := Reaches.end_unique (fun _ => hd.not_linksTo) (fun _ => hd'.not_linksTo) h h'
          rw [hd.unique hd']
      | badLink h' hb' =>
          obtain rfl := Reaches.end_unique (fun _ => hd.not_linksTo) (fun _ => hb'.not_linksTo) h h'
          exact absurd hd hb'.not_defines
      | endless h' =>
          rcases h'.exists_next h with ⟨next, hnext⟩
          exact absurd hnext hd.not_linksTo
  | badLink h hb =>
      cases hy with
      | definition h' hd' =>
          obtain rfl := Reaches.end_unique (fun _ => hb.not_linksTo) (fun _ => hd'.not_linksTo) h h'
          exact absurd hd' hb.not_defines
      | badLink h' hb' =>
          obtain rfl := Reaches.end_unique (fun _ => hb.not_linksTo) (fun _ => hb'.not_linksTo) h h'
          rw [hb.unique hb']
      | endless h' =>
          rcases h'.exists_next h with ⟨next, hnext⟩
          exact absurd hnext hb.not_linksTo
  | endless h =>
      cases hy with
      | definition h' hd' =>
          rcases h.exists_next h' with ⟨next, hnext⟩
          exact absurd hnext hd'.not_linksTo
      | badLink h' hb' =>
          rcases h.exists_next h' with ⟨next, hnext⟩
          exact absurd hnext hb'.not_linksTo
      | endless => rfl

end Chains

section Visited

variable {α : Type}

/-- The text of a reference. -/
def Slot.text? : Slot α → Option String
  | .reference text => some text
  | .inline _ => none

/-- The references that stand in the entries and are not among those that were visited. -/
def unvisited (entries : OrderedMap String (Slot α)) (visited : List String) : List String :=
  (entries.values.filterMap Slot.text?).filter (· ∉ visited)

/-- There are no more references to visit than there are entries. -/
theorem unvisited_length_le (entries : OrderedMap String (Slot α)) (visited : List String) :
    (unvisited entries visited).length ≤ entries.entries.length := by
  calc (unvisited entries visited).length
      ≤ (entries.values.filterMap Slot.text?).length := List.length_filter_le _ _
    _ ≤ entries.values.length := List.length_filterMap_le _ _
    _ = entries.entries.length := List.length_map _

/-- Whoever visits a new reference has fewer left. -/
theorem unvisited_lt {entries : OrderedMap String (Slot α)} {visited : List String}
    {key next : String} (he : entries.get? key = some (.reference next))
    (hnew : next ∉ visited) :
    (unvisited entries (next :: visited)).length < (unvisited entries visited).length := by
  -- To visit one more reference is to take it out of those that are left.
  have hfilter : unvisited entries (next :: visited)
      = (unvisited entries visited).filter (· ≠ next) := by
    unfold unvisited
    rw [List.filter_filter]
    refine List.filter_congr fun r _ => ?_
    simp only [List.mem_cons, not_or, ne_eq, Bool.decide_and]
  have hmem : next ∈ unvisited entries visited := by
    have hfound : Slot.reference next ∈ entries.values :=
      List.mem_map_of_mem (OrderedMap.mem_of_get? he)
    exact List.mem_filter.mpr
      ⟨List.mem_filterMap.mpr ⟨.reference next, hfound, rfl⟩, by simpa using hnew⟩
  rw [hfilter, List.length_filter_lt_length_iff_exists]
  exact ⟨next, hmem, by simp⟩

/-- Follows references with a list of those that were visited. A cycle is reported as soon
    as one of them comes back. -/
def followSeen (registry : Registry) (entries : OrderedMap String (Slot α)) (start : String)
    (seen : List String) (current : String) : Except CompileError α :=
  match definitionKey registry current with
  | .error e => .error e
  | .ok key =>
    match _ : entries.get? key with
    | none => .error (.missingReference registry key current)
    | some (.inline value) => .ok value
    | some (.reference next) =>
      if _ : next ∈ current :: seen then .error (.referenceCycle start)
      else followSeen registry entries start (current :: seen) next
termination_by (unvisited entries (current :: seen)).length
decreasing_by exact unvisited_lt ‹_› ‹_›

variable {registry : Registry} {entries : OrderedMap String (Slot α)} {start : String}
  {seen : List String} {current next : String} {value : α} {e : CompileError} {n : Nat}

/-- At a bad link the list plays no role. -/
theorem followSeen_of_badLink (h : BadLink registry entries current e) :
    followSeen registry entries start seen current = .error e := by
  rcases badLink_iff.mp h with hkey | ⟨key, hkey, he, rfl⟩
  · rw [followSeen, hkey]
  · rw [followSeen, hkey]
    dsimp only
    -- Each case of the look-up comes with an equation, which rules out the other two.
    split
    · rfl
    · next h => simp [he] at h
    · next h => simp [he] at h

/-- At a definition the list plays no role either. -/
theorem followSeen_of_defines (h : Defines registry entries current value) :
    followSeen registry entries start seen current = .ok value := by
  rcases h with ⟨key, hp, he⟩
  rw [followSeen, definitionKey_eq_ok_iff.mpr hp]
  dsimp only
  split
  · next h => simp [he] at h
  · next h => simpa [he] using h.symm
  · next h => simp [he] at h

/-- At a link the list decides whether to go on. -/
theorem followSeen_of_linksTo (h : LinksTo registry entries current next) :
    followSeen registry entries start seen current =
      if next ∈ current :: seen then .error (.referenceCycle start)
      else followSeen registry entries start (current :: seen) next := by
  rcases h with ⟨key, hp, he⟩
  conv_lhs => rw [followSeen, definitionKey_eq_ok_iff.mpr hp]
  dsimp only
  split
  · next h => simp [he] at h
  · next h => simp [he] at h
  · next h =>
      rw [he, Option.some.injEq, Slot.reference.injEq] at h
      subst h
      rfl

/-- A bad link is found with any number of links left. -/
theorem followSteps_of_badLink (h : BadLink registry entries current e) :
    followSteps registry entries start (n + 1) current = .error e := by
  rcases badLink_iff.mp h with hkey | ⟨key, hkey, he, rfl⟩
  · rw [followSteps, hkey]
  · rw [followSteps, hkey]
    dsimp only
    rw [he]

/-- So is a definition. -/
theorem followSteps_of_defines (h : Defines registry entries current value) :
    followSteps registry entries start (n + 1) current = .ok value := by
  rcases h with ⟨key, hp, he⟩
  rw [followSteps, definitionKey_eq_ok_iff.mpr hp]
  dsimp only
  rw [he]

/-- A link takes one away from the number. -/
theorem followSteps_of_linksTo (h : LinksTo registry entries current next) :
    followSteps registry entries start (n + 1) current =
      followSteps registry entries start n next := by
  rcases h with ⟨key, hp, he⟩
  rw [followSteps, definitionKey_eq_ok_iff.mpr hp]
  dsimp only
  rw [he]

/-- An endless chain uses up any number of links. -/
theorem followSteps_of_endless (h : Endless registry entries current) :
    ∀ n, followSteps registry entries start n current = .error (.referenceCycle start) := by
  intro n
  induction n generalizing current with
  | zero => rfl
  | succ n ih =>
      rcases h.exists_next .refl with ⟨next, hnext⟩
      rw [followSteps_of_linksTo hnext]
      exact ih (h.after hnext)

/-- The references that were visited lead to the one at hand. -/
def Visited (registry : Registry) (entries : OrderedMap String (Slot α)) (seen : List String)
    (current : String) : Prop :=
  ∀ r ∈ current :: seen, Reaches registry entries r current

/-- A link that is followed keeps the list a way to the reference at hand. -/
theorem Visited.step (h : Visited registry entries seen current)
    (hnext : LinksTo registry entries current next) :
    Visited registry entries (current :: seen) next := by
  intro r hr
  rcases List.mem_cons.mp hr with rfl | hr
  · exact .refl
  · exact (h r hr).tail hnext

/-- A reference that was visited comes back on an endless chain. -/
theorem Visited.endless (h : Visited registry entries seen current)
    (hnext : LinksTo registry entries current next) (hseen : next ∈ current :: seen) :
    Endless registry entries next :=
  Endless.of_loop hnext (h next hseen)

/-- Following with a list of visited references gives what the chain comes to. -/
theorem followSeen_outcome (h : Visited registry entries seen current) :
    Outcome registry entries start current (followSeen registry entries start seen current) := by
  -- With every link there are fewer references that were not visited.
  induction hlength : (unvisited entries (current :: seen)).length
    using Nat.strong_induction_on generalizing seen current with
  | _ length ih =>
      rcases link_cases registry entries current with ⟨e, hbad⟩ | ⟨value, hdefines⟩ | ⟨next, hnext⟩
      · rw [followSeen_of_badLink hbad]
        exact .badLink .refl hbad
      · rw [followSeen_of_defines hdefines]
        exact .definition .refl hdefines
      · rw [followSeen_of_linksTo hnext]
        by_cases hseen : next ∈ current :: seen
        · rw [if_pos hseen]
          exact .endless ((h.endless hnext hseen).of_next hnext)
        · rw [if_neg hseen]
          rcases hnext with ⟨key, hp, he⟩
          have hless := unvisited_lt he hseen
          rw [hlength] at hless
          exact .of_next ⟨key, hp, he⟩ (ih _ hless (h.step ⟨key, hp, he⟩) rfl)

/-- With a link for each reference that was not visited and one more, no chain is stopped
    too early. -/
theorem followSteps_eq_followSeen (h : Visited registry entries seen current)
    (hn : (unvisited entries (current :: seen)).length < n) :
    followSteps registry entries start n current =
      followSeen registry entries start seen current := by
  -- Each link takes one away from both numbers.
  induction n generalizing seen current with
  | zero => exact absurd hn (Nat.not_lt_zero _)
  | succ n ih =>
      rcases link_cases registry entries current with ⟨e, hbad⟩ | ⟨value, hdefines⟩ | ⟨next, hnext⟩
      · rw [followSteps_of_badLink hbad, followSeen_of_badLink hbad]
      · rw [followSteps_of_defines hdefines, followSeen_of_defines hdefines]
      · rw [followSteps_of_linksTo hnext, followSeen_of_linksTo hnext]
        by_cases hseen : next ∈ current :: seen
        · rw [if_pos hseen]
          -- The one way reports the cycle here, and the other goes round until its links are used
          -- up.
          exact followSteps_of_endless (h.endless hnext hseen) n
        · rw [if_neg hseen]
          have hless : (unvisited entries (next :: current :: seen)).length < n := by
            rcases hnext with ⟨key, hp, he⟩
            exact Nat.lt_of_lt_of_le (unvisited_lt he hseen) (Nat.le_of_lt_succ hn)
          exact ih (h.step hnext) hless

/-- The two ways to follow a reference agree. -/
theorem follow_eq_followSeen (registry : Registry) (entries : OrderedMap String (Slot α))
    (reference : String) :
    follow registry entries reference = followSeen registry entries reference [] reference := by
  refine followSteps_eq_followSeen (fun r hr => ?_) (Nat.lt_succ_of_le (unvisited_length_le _ _))
  rw [List.mem_singleton.mp hr]
  exact .refl

end Visited

section Exactness

variable {α : Type} {registry : Registry} {entries : OrderedMap String (Slot α)}
  {reference : String} {value : α} {e : CompileError}

/-- Following a reference gives what its chain comes to. -/
theorem follow_outcome (registry : Registry) (entries : OrderedMap String (Slot α))
    (reference : String) :
    Outcome registry entries reference reference (follow registry entries reference) := by
  rw [follow_eq_followSeen]
  refine followSeen_outcome fun r hr => ?_
  rw [List.mem_singleton.mp hr]
  exact .refl

/-- A definition is found when the chain comes to it. -/
theorem follow_eq_ok_iff_defines : follow registry entries reference = .ok value ↔
    ∃ last, Reaches registry entries reference last ∧ Defines registry entries last value := by
  have houtcome := follow_outcome registry entries reference
  constructor
  -- What following gives is one outcome of the chain, and a chain has only one.
  · intro h
    rw [h] at houtcome
    cases houtcome with
    | definition hreaches hd => exact ⟨_, hreaches, hd⟩
  · rintro ⟨last, h, hd⟩
    exact houtcome.unique (.definition h hd)

/-- Following fails with the first bad link, or in a cycle when there is no end. -/
theorem follow_eq_error_iff : follow registry entries reference = .error e ↔
    (∃ last, Reaches registry entries reference last ∧ BadLink registry entries last e) ∨
      e = .referenceCycle reference ∧ Endless registry entries reference := by
  have houtcome := follow_outcome registry entries reference
  constructor
  · intro h
    rw [h] at houtcome
    cases houtcome with
    | badLink hreaches hb => exact Or.inl ⟨_, hreaches, hb⟩
    | endless hendless => exact Or.inr ⟨rfl, hendless⟩
  · rintro (⟨last, h, hb⟩ | ⟨rfl, h⟩)
    · exact houtcome.unique (.badLink h hb)
    · exact houtcome.unique (.endless h)

/-- A cycle is reported when the chain has no end, with its first reference. -/
theorem follow_eq_cycle_iff {start : String} :
    follow registry entries reference = .error (.referenceCycle start) ↔
      start = reference ∧ Endless registry entries reference := by
  rw [follow_eq_error_iff]
  constructor
  · rintro (⟨last, _, hb⟩ | ⟨hstart, h⟩)
    -- The error of a bad link quotes its text, and that of a cycle quotes none.
    · exact absurd hb.quotes id
    · exact ⟨CompileError.referenceCycle.inj hstart, h⟩
  · rintro ⟨rfl, h⟩
    exact Or.inr ⟨rfl, h⟩

/-- The first link of a chain to a definition names an entry. -/
theorem exists_entry_of_follow (h : follow registry entries reference = .ok value) :
    ∃ key, Pointer.parse reference = .ok { registry, key } ∧ entries.contains key = true := by
  rcases follow_eq_ok_iff_defines.mp h with ⟨last, hreaches, hd⟩
  rcases Relation.ReflTransGen.cases_head hreaches with rfl | ⟨next, ⟨key, hp, he⟩, _⟩
  · rcases hd with ⟨key, hp, he⟩
    exact ⟨key, hp, by rw [OrderedMap.contains, he]; rfl⟩
  · exact ⟨key, hp, by rw [OrderedMap.contains, he]; rfl⟩

end Exactness

/-- The entries of a registry. -/
def Components.entriesOf (c : Components) :
    (registry : Registry) → OrderedMap String (Slot registry.Definition)
  | .schemas => c.schemas
  | .parameters => c.parameters
  | .requestBodies => c.requestBodies
  | .responses => c.responses
  | .headers => c.headers

theorem Components.contains_entriesOf (c : Components) (registry : Registry) (key : String) :
    (c.entriesOf registry).contains key = c.contains registry key := by
  cases registry <;> rfl

/-- Following a reference in a registry gives what its chain comes to. -/
structure FollowsChain (c : Components) (registry : Registry) (reference : String) : Prop where
  /-- It makes no difference whether links are counted or visited references are kept. -/
  seen : followSeen registry (c.entriesOf registry) reference [] reference =
    follow registry (c.entriesOf registry) reference
  /-- A definition is the end of the chain. -/
  definition : ∀ value, follow registry (c.entriesOf registry) reference = .ok value ↔
    ∃ last, Reaches registry (c.entriesOf registry) reference last ∧
      Defines registry (c.entriesOf registry) last value
  /-- A cycle is a chain without end, and is reported with its start. -/
  cycle : ∀ start,
    follow registry (c.entriesOf registry) reference = .error (.referenceCycle start) ↔
      start = reference ∧ Endless registry (c.entriesOf registry) reference
  /-- Any other error is that of the bad link which the chain ends at. -/
  badLink : ∀ e, (∀ start, e ≠ .referenceCycle start) →
    (follow registry (c.entriesOf registry) reference = .error e ↔
      ∃ last, Reaches registry (c.entriesOf registry) reference last ∧
        BadLink registry (c.entriesOf registry) last e)
  /-- That error quotes the text of the bad link. -/
  quotes : ∀ last e, BadLink registry (c.entriesOf registry) last e → e.Quotes last
  /-- What leads to a definition also names a type, and narrows it nowhere. -/
  typeRef : ∀ value, follow registry (c.entriesOf registry) reference = .ok value →
    ∀ space, ∃ name, c.typeRef space reference = .ok { space, name, property := none }

/-- Following a reference always ends, with what its chain comes to. -/
theorem follow_followsChain (c : Components) (registry : Registry) (reference : String) :
    FollowsChain c registry reference where
  seen := (follow_eq_followSeen _ _ _).symm
  definition := fun _ => follow_eq_ok_iff_defines
  cycle := fun _ => follow_eq_cycle_iff
  badLink := fun e he => by
    rw [follow_eq_error_iff]
    exact or_iff_left fun hcycle => he _ hcycle.1
  quotes := fun _ _ hb => hb.quotes
  typeRef := fun value h space => by
    rcases exists_entry_of_follow h with ⟨key, hp, he⟩
    rw [Components.contains_entriesOf, Components.contains_iff] at he
    have hmem : (registry, key) ∈ c.entryKeys := (c.mem_entryKeys (registry, key)).mpr he
    exact ⟨_, Components.typeRef_eq_ok_iff.mpr ⟨_, hp, hmem, rfl⟩⟩

end RouteTypes
