import RouteTypes.Proofs.DocumentNeeds
import RouteTypes.Proofs.References

/-!
# Name Collisions

When a document is refused because two entries would declare the same type.

The names of all entries are compared before anything is typed. The scan goes through the
entries in the order of their declarations and keeps those it has passed. As long as it
goes on, the passed entries have pairwise distinct names, so the entry it stops at is the
first whose name is taken, and only one passed entry has that name
(`checkNamesFrom_eq_error_iff`). Nothing that is done afterwards reports a collision, since
references fail in other ways (`fault?_ne_collision`).

In a document that passes, names stand for entries. Every declaration has a name of its
own, and a reference has that of one entry (`collision_reported_iff`).

## Main definitions

* `FirstCollision`: The first entry of a list whose name is taken, with the one that took it.

## Theorems

* `checkNamesFrom_eq_error_iff`: What the scan reports.
* `exists_firstCollision_iff`: There is a first collision when two entries share a name.
* `fault?_ne_collision`: No reference is the cause of a collision.
* `collision_reported_iff`: When a collision is reported, and which one.
-/

namespace RouteTypes

/-- Among some entries `second` is the first whose name is that of an entry before it, and
    `first` is the only entry before it with that name. -/
structure FirstCollision (entries : List (Registry × String)) (first second : Registry × String) :
    Prop where
  exists_before : ∃ before after, entries = before ++ second :: after ∧
    (before.map entryName).Nodup ∧ first ∈ before ∧
    ∀ e ∈ before, entryName e = entryName second ↔ e = first

/-- The error for two entries with one name. -/
def collision (first second : Registry × String) : CompileError :=
  .nameCollision (entryName second) first.1 first.2 second.1 second.2

section Scan

/-- Of entries with distinct names at most one has a given name. -/
theorem name_eq_iff {entries : List (Registry × String)} (hd : (entries.map entryName).Nodup)
    {e e' : Registry × String} (he : e ∈ entries) (he' : e' ∈ entries) :
    entryName e' = entryName e ↔ e' = e :=
  ⟨entry_unique hd he he', congrArg entryName⟩

/-- The scan stops at the first entry whose name is taken and reports it with the entry
    that took it, when the entries passed so far have distinct names. -/
theorem checkNamesFrom_eq_error_iff {seen rest : List (Registry × String)} {error : CompileError}
    (hseen : (seen.map entryName).Nodup) :
    checkNamesFrom seen rest = .error error ↔
      ∃ before second after first, rest = before ++ second :: after ∧
        ((seen ++ before).map entryName).Nodup ∧ first ∈ seen ++ before ∧
        entryName first = entryName second ∧ error = collision first second := by
  -- By induction on the entries that are left. The invariant is that the passed ones have
  -- distinct names, so at most one of them has the name of the next.
  induction rest generalizing seen with
  | nil =>
      refine iff_of_false (by simp only [checkNamesFrom, reduceCtorEq, not_false_eq_true]) ?_
      rintro ⟨before, second, after, _, hrest, _⟩
      exact List.append_ne_nil_of_right_ne_nil before (List.cons_ne_nil second after) hrest.symm
  | cons e rest ih =>
      unfold checkNamesFrom
      dsimp only
      cases hfind : seen.find? fun s => Text.typeName s.2 = Text.typeName e.2 with
      -- The name of the next entry is taken: the scan stops here.
      | some s =>
          have hfound := List.find?_some hfind
          have hname : entryName s = entryName e := of_decide_eq_true hfound
          have hmem := List.mem_of_find?_eq_some hfind
          constructor
          · intro h
            refine ⟨[], e, rest, s, rfl, ?_, ?_, hname, (Except.error.inj h).symm⟩
            · rwa [List.append_nil]
            · rwa [List.append_nil]
          · rintro ⟨before, second, after, first, hrest, hd, hfirst, hsame, rfl⟩
            cases before with
            | nil =>
                obtain ⟨rfl, rfl⟩ := List.cons.inj hrest
                rw [List.append_nil] at hfirst
                -- The entry that was found is the only one with the name.
                rw [(name_eq_iff hseen hfirst hmem).mp (hname.trans hsame.symm)]
                rfl
            | cons e' before =>
                -- The scan cannot have passed an entry whose name is taken.
                obtain ⟨rfl, rfl⟩ := List.cons.inj hrest
                rw [List.map_append, List.map_cons, List.nodup_append'] at hd
                exact absurd (hname ▸ List.mem_map_of_mem hmem)
                  fun hc => hd.2.2 hc List.mem_cons_self
      | none =>
          -- The name is new. The entry joins those that were passed, and the invariant holds
          -- again.
          have hnew : entryName e ∉ seen.map entryName := by
            intro hc
            rcases List.mem_map.mp hc with ⟨s, hs, hname⟩
            exact List.find?_eq_none.mp hfind s hs (decide_eq_true hname)
          have hseen' : ((seen ++ [e]).map entryName).Nodup := by
            rw [List.map_append, List.map_cons, List.map_nil, ← List.concat_eq_append]
            exact hseen.concat hnew
          dsimp only
          rw [ih hseen']
          simp only [List.append_assoc, List.singleton_append]
          constructor
          · rintro ⟨before, second, after, first, rfl, h⟩
            exact ⟨e :: before, second, after, first, rfl, h⟩
          · rintro ⟨before, second, after, first, hrest, hd, hfirst, hsame, herror⟩
            cases before with
            | nil =>
                -- Nor does it stop at an entry whose name is new.
                obtain ⟨rfl, rfl⟩ := List.cons.inj hrest
                rw [List.append_nil] at hfirst
                exact absurd (hsame ▸ List.mem_map_of_mem hfirst) hnew
            | cons e' before =>
                obtain ⟨rfl, rfl⟩ := List.cons.inj hrest
                exact ⟨before, second, after, first, rfl, hd, hfirst, hsame, herror⟩

/-- The check of the names reports the first collision. -/
theorem checkNames_eq_error_iff (c : Components) (error : CompileError) :
    checkNames c = .error error ↔
      ∃ first second, FirstCollision c.entryKeys first second ∧ error = collision first second := by
  have hnone : (([] : List (Registry × String)).map entryName).Nodup := List.nodup_nil
  unfold checkNames
  rw [checkNamesFrom_eq_error_iff hnone]
  simp only [List.nil_append]
  constructor
  · rintro ⟨before, second, after, first, hentries, hd, hfirst, hname, rfl⟩
    refine ⟨first, second, ⟨before, after, hentries, hd, hfirst, fun e he => ?_⟩, rfl⟩
    rw [← hname]
    exact name_eq_iff hd hfirst he
  · rintro ⟨first, second, ⟨before, after, hentries, hd, hfirst, honly⟩, rfl⟩
    exact ⟨before, second, after, first, hentries, hd, hfirst, (honly first hfirst).mpr rfl, rfl⟩

/-- Every entry is listed once. -/
theorem entryKeys_nodup (c : Components) : c.entryKeys.Nodup := by
  unfold Components.entryKeys
  refine List.nodup_flatMap.mpr ⟨fun registry _ => ?_, ?_⟩
  · have hkeys : (c.keys registry).Nodup := by
      cases registry with
      | schemas => exact c.schemas.nodup
      | parameters => exact c.parameters.nodup
      | requestBodies => exact c.requestBodies.nodup
      | responses => exact c.responses.nodup
      | headers => exact c.headers.nodup
    exact hkeys.map fun _ _ h => (Prod.mk.inj h).2
  · have hall : Registry.all.Nodup := by decide
    refine hall.imp fun hne e he he' => hne ?_
    -- An entry tells its registry.
    rcases List.mem_map.mp he with ⟨_, _, rfl⟩
    rcases List.mem_map.mp he' with ⟨_, _, heq⟩
    exact (Prod.mk.inj heq).1.symm

/-- Names are distinct when no two entries share one. -/
theorem names_nodup_iff (c : Components) :
    (c.entryKeys.map entryName).Nodup ↔
      ¬ ∃ e ∈ c.entryKeys, ∃ e' ∈ c.entryKeys, e ≠ e' ∧ entryName e = entryName e' := by
  rw [List.nodup_map_iff_inj_on (entryKeys_nodup c)]
  constructor
  · rintro h ⟨e, he, e', he', hne, hname⟩
    exact hne (h e he e' he' hname)
  · intro h e he e' he' hname
    by_contra hne
    exact h ⟨e, he, e', he', hne, hname⟩

/-- There is a first collision when two entries share a name. -/
theorem exists_firstCollision_iff (c : Components) :
    (∃ first second, FirstCollision c.entryKeys first second) ↔
      ∃ e ∈ c.entryKeys, ∃ e' ∈ c.entryKeys, e ≠ e' ∧ entryName e = entryName e' := by
  rw [← not_iff_not, ← names_nodup_iff, ← checkNames_eq_ok_iff]
  cases hcheck : checkNames c with
  | ok _ =>
      refine iff_of_true ?_ rfl
      rintro ⟨first, second, h⟩
      have herror := (checkNames_eq_error_iff c _).mpr ⟨first, second, h, rfl⟩
      rw [hcheck] at herror
      exact absurd herror (by simp only [reduceCtorEq, not_false_eq_true])
  | error error =>
      rcases (checkNames_eq_error_iff c error).mp hcheck with ⟨first, second, h, _⟩
      refine iff_of_false (fun hno => hno ⟨first, second, h⟩) ?_
      simp only [reduceCtorEq, not_false_eq_true]

end Scan

section References

/-- The error is that of two names. -/
def CompileError.IsCollision : CompileError → Prop
  | .nameCollision _ _ _ _ _ => True
  | .missingReference _ _ _ | .invalidReference _ _ | .referenceCycle _ => False

/-- A text that is no pointer is reported as such. -/
theorem parse_ne_collision {reference : String} {error : CompileError}
    (h : Pointer.parse reference = .error error) : ¬ error.IsCollision := by
  -- There are four ways to be no pointer, and none of their errors is a collision.
  unfold Pointer.parse at h
  split at h
  · exact Except.error.inj h ▸ id
  · split at h
    · exact Except.error.inj h ▸ id
    · split at h
      · exact Except.error.inj h ▸ id
      · split at h
        · exact Except.error.inj h ▸ id
        · exact absurd h (by simp only [reduceCtorEq, not_false_eq_true])

/-- A type that cannot be named is reported as a bad reference. -/
theorem typeRef_ne_collision {c : Components} {space reference : String} {error : CompileError}
    (h : c.typeRef space reference = .error error) : ¬ error.IsCollision := by
  unfold Components.typeRef at h
  split at h
  · next hparse => exact Except.error.inj h ▸ parse_ne_collision hparse
  · split at h
    · exact absurd h (by simp only [reduceCtorEq, not_false_eq_true])
    · exact Except.error.inj h ▸ id

/-- So is a definition in the wrong place. -/
theorem definitionKey_ne_collision {registry : Registry} {reference : String}
    {error : CompileError} (h : definitionKey registry reference = .error error) :
    ¬ error.IsCollision := by
  unfold definitionKey at h
  split at h
  · next hparse => exact Except.error.inj h ▸ parse_ne_collision hparse
  · split at h
    · exact Except.error.inj h ▸ id
    · split at h
      · exact Except.error.inj h ▸ id
      · exact absurd h (by simp only [reduceCtorEq, not_false_eq_true])

/-- Following references never ends with a collision, by induction on the look-ups that
    are left. -/
theorem followSteps_ne_collision {α : Type} {registry : Registry}
    {entries : OrderedMap String (Slot α)} {start reference : String} {n : Nat}
    {error : CompileError} (h : followSteps registry entries start n reference = .error error) :
    ¬ error.IsCollision := by
  induction n generalizing reference with
  | zero => exact Except.error.inj h ▸ id
  | succ n ih =>
      unfold followSteps at h
      split at h
      · next hkey => exact Except.error.inj h ▸ definitionKey_ne_collision hkey
      · split at h
        · exact Except.error.inj h ▸ id
        · exact absurd h (by simp only [reduceCtorEq, not_false_eq_true])
        · exact ih h

/-- No reference is the cause of a collision. -/
theorem fault?_ne_collision {c : Components} {m : Need} {error : CompileError}
    (h : c.fault? m = some error) : ¬ error.IsCollision := by
  rcases m with ⟨registry, reference⟩ | ⟨registry, reference⟩
  · exact typeRef_ne_collision (errorOf_eq_some_iff.mp h)
  · cases registry with
    | schemas => exact followSteps_ne_collision (errorOf_eq_some_iff.mp h)
    | parameters => exact followSteps_ne_collision (errorOf_eq_some_iff.mp h)
    | requestBodies => exact followSteps_ne_collision (errorOf_eq_some_iff.mp h)
    | responses => exact followSteps_ne_collision (errorOf_eq_some_iff.mp h)
    | headers => exact followSteps_ne_collision (errorOf_eq_some_iff.mp h)

end References

section Documents

variable {document : Document} {options : Options}

/-- A collision is reported by the check of the names and by nothing else. -/
theorem toApi_fails_collision_iff {error : CompileError} (hc : error.IsCollision) :
    (document.toApi options).Fails error ↔ checkNames document.components = .error error := by
  constructor
  · intro h
    have hcompile : (document.compile options).Fails error :=
      (Logged.fails_bind _ _ _).mpr (Or.inl h)
    -- A bad reference would be the only other cause, and it has another error.
    rcases compile_fails hcompile with hnames | ⟨_, m, _, hfault⟩
    · exact hnames
    · exact absurd hc (fault?_ne_collision hfault)
  · intro h
    exact (Logged.fails_bind _ _ _).mpr (Or.inl h)

end Documents

/-- A document is refused for a collision exactly when two of its entries have the same
    name, whatever else is wrong with it. The error is that of the first entry whose name
    is taken, with the one entry before it that has this name. In a document that is typed
    all declarations have different names, and the name of a reference is that of exactly
    one entry. -/
theorem collision_reported_iff (document : Document) (options : Options) :
    ((∃ name registry key registry' key', (document.toApi options).Fails
        (.nameCollision name registry key registry' key')) ↔
      ∃ e ∈ document.components.entryKeys, ∃ e' ∈ document.components.entryKeys,
        e ≠ e' ∧ entryName e = entryName e') ∧
    (∀ name registry key registry' key', (document.toApi options).Fails
        (.nameCollision name registry key registry' key') ↔
      name = Text.typeName key' ∧
        FirstCollision document.components.entryKeys (registry, key) (registry', key')) ∧
    ∀ api, (document.toApi options).Yields api →
      (api.types.map (·.name)).Nodup ∧
        ∀ n ∈ api.nodes, ∀ r, n.shape = .reference r →
          ∃! e, e ∈ document.components.entryKeys ∧ entryName e = r.name := by
  have hexact : ∀ name registry key registry' key', (document.toApi options).Fails
      (.nameCollision name registry key registry' key') ↔ name = Text.typeName key' ∧
        FirstCollision document.components.entryKeys (registry, key) (registry', key') := by
    intro name registry key registry' key'
    have herror : (CompileError.nameCollision name registry key registry' key').IsCollision :=
      trivial
    rw [toApi_fails_collision_iff herror, checkNames_eq_error_iff]
    constructor
    · rintro ⟨first, second, hfirst, heq⟩
      obtain ⟨rfl, rfl, rfl, rfl, rfl⟩ := CompileError.nameCollision.inj heq
      exact ⟨rfl, hfirst⟩
    · rintro ⟨rfl, hfirst⟩
      exact ⟨_, _, hfirst, rfl⟩
  refine ⟨?_, hexact, fun api h => ⟨?_, fun n hn r hr => ?_⟩⟩
  -- Which pair is reported follows from the second statement, which knows the first one.
  · rw [← exists_firstCollision_iff]
    simp only [hexact]
    constructor
    · rintro ⟨_, _, _, _, _, _, hfirst⟩
      exact ⟨_, _, hfirst⟩
    · rintro ⟨first, second, hfirst⟩
      exact ⟨_, _, _, _, _, rfl, hfirst⟩
  · exact (names_sublist h).nodup ((checkNames_eq_ok_iff _).mp (toApi_yields h).1)
  -- A reference has the name of the entry it leads to, and the names are distinct.
  · rcases (toApi_built h n hn n n.mem_nodes_self).2 r hr with ⟨pointer, hpointer⟩
    rcases (typeRef_yields hpointer).1 with ⟨e, he, hname⟩
    refine ⟨e, ⟨he, hname⟩, fun e' ⟨he', hname'⟩ => ?_⟩
    exact entry_unique ((checkNames_eq_ok_iff _).mp (toApi_yields h).1) he he'
      (hname'.trans hname.symm)

/-- A document with two pairs of entries that share a name, in different registries and in
    one, and with a reference that leads nowhere. -/
def collidingDocument : Document where
  components :=
    { schemas :=
        { entries := [("pet", .inline {}), ("Owner", .reference "#/components/schemas/None")] }
      responses :=
        { entries := [("Cat", .inline {}), ("Pet", .inline {}), ("owner", .inline {})] } }

/-- The collision that is found first is reported, and the reference is not looked at. In a
    document without one the reference to `Pet` names one entry. -/
theorem collision_reported_pet :
    (collidingDocument.toApi {}).Fails (.nameCollision "Pet" .schemas "pet" .responses "Pet") ∧
      (typedReference.toApi {}).Yields typedReferenceApi ∧
      ∃! e, e ∈ typedReference.components.entryKeys ∧ entryName e = "Pet" := by
  have hfirst : FirstCollision collidingDocument.components.entryKeys (.schemas, "pet")
      (.responses, "Pet") :=
    -- Three entries pass before the collision, and one entry is left behind it.
    ⟨[(.schemas, "pet"), (.schemas, "Owner"), (.responses, "Cat")], [(.responses, "owner")], rfl,
      by decide, by decide, by decide⟩
  have h : (typedReference.toApi {}).Yields typedReferenceApi := rfl
  have hn : TypeRef.node { space := "Types", name := "Pet" } ∈ typedReferenceApi.nodes :=
    List.mem_append_left _ (List.mem_cons_of_mem _ List.mem_cons_self)
  refine ⟨?_, h, ?_⟩
  · exact ((collision_reported_iff collidingDocument {}).2.1 _ _ _ _ _).mpr ⟨rfl, hfirst⟩
  · exact ((collision_reported_iff typedReference {}).2.2 _ h).2 _ hn _ rfl

end RouteTypes
