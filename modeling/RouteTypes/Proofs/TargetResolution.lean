import RouteTypes.Config.Target
import RouteTypes.Proofs.Syntax.StringLiteral

/-!
# Resolution of Targets

Which targets a configuration gives, and what decides each of their settings.

The entries of a configuration are resolved one after another, and the first that cannot
be resolved is all that is reported. So there are targets for all entries or for none
(`mapM_eq_ok_iff`, `mapM_eq_error_iff`), and what decides about one entry is the name of
its namespace alone (`TargetEntry.resolve_eq_ok_iff`). The caller's choice of that name
comes first, then the entry's, and an empty choice is none (`chosenSpace`). The name must
be one that could stand bare as an object key.

How the settings of the caller win is said by comparing targets, not setting by setting.
What the caller gives is found in all targets whatever their entries say
(`Overrides.Decides`). Where two callers give the same, or both give nothing, they get the
same from the same entries, whatever else they give (`Overrides.Shared`). A caller who
leaves out a setting thus gets what there is without any settings of a caller.

## Main definitions

* `chosenSpace`: The namespace that two choices come to.
* `TargetEntry.IsResolvable`: The namespace of an entry is an identifier.
* `Overrides.Decides`: What the caller gives is in a target.
* `Overrides.Shared`: What two callers agree on is the same in two targets.
* `PerEntry`: What is known of the targets of a configuration.

## Theorems

* `mapM_eq_ok_iff`, `mapM_eq_error_iff`: Steps that may fail, over a list.
* `TargetEntry.resolve_eq_ok_iff`, `TargetEntry.resolve_eq_error_iff`: One entry.
* `resolveTargets_eq_ok_iff`, `resolveTargets_eq_error_iff`: A configuration.
* `resolveTargets_perEntry`: All that is known of its targets.
-/

namespace RouteTypes

section Lists

variable {α β ε : Type} {f : α → Except ε β}

theorem mapM_cons_of_error {x : α} {e : ε} (h : f x = .error e) (xs : List α) :
    (x :: xs).mapM f = .error e := by
  rw [List.mapM_cons, h]
  rfl

theorem mapM_cons_of_ok {x : α} {y : β} (h : f x = .ok y) (xs : List α) :
    (x :: xs).mapM f = (xs.mapM f).map (y :: ·) := by
  rw [List.mapM_cons, h]
  cases xs.mapM f <;> rfl

/-- A step over a list succeeds when it does for every element. -/
theorem mapM_eq_ok_iff {xs : List α} {ys : List β} :
    xs.mapM f = .ok ys ↔ List.Forall₂ (fun x y => f x = .ok y) xs ys := by
  induction xs generalizing ys with
  | nil =>
      rw [List.mapM_nil, List.forall₂_nil_left_iff]
      exact ⟨fun h => (Except.ok.inj h).symm, fun h => congrArg Except.ok h.symm⟩
  | cons x xs ih =>
      rw [List.forall₂_cons_left_iff]
      cases hx : f x with
      -- Without a result for the first element there is none for the list.
      | error e =>
          rw [mapM_cons_of_error hx]
          refine ⟨nofun, ?_⟩
          rintro ⟨y, zs, hy, -⟩
          cases hy
      | ok y =>
          rw [mapM_cons_of_ok hx]
          constructor
          · intro h
            cases hxs : xs.mapM f with
            | error e =>
                rw [hxs] at h
                cases h
            | ok zs =>
                rw [hxs] at h
                exact ⟨y, zs, rfl, ih.mp hxs, (Except.ok.inj h).symm⟩
          · rintro ⟨y', zs, hy, hxs, rfl⟩
            obtain rfl := Except.ok.inj hy
            rw [ih.mpr hxs]
            rfl

/-- It fails at the first element for which it does, with the error of that element. -/
theorem mapM_eq_error_iff {xs : List α} {e : ε} :
    xs.mapM f = .error e ↔ ∃ before x after, xs = before ++ x :: after ∧
      (∀ y ∈ before, ∃ z, f y = .ok z) ∧ f x = .error e := by
  induction xs with
  | nil =>
      refine ⟨nofun, ?_⟩
      rintro ⟨before, x, after, h, -⟩
      exact absurd h.symm (List.append_ne_nil_of_right_ne_nil _ (List.cons_ne_nil x after))
  | cons first rest ih =>
      cases hfirst : f first with
      | error e' =>
          rw [mapM_cons_of_error hfirst]
          constructor
          · intro h
            obtain rfl := Except.error.inj h
            exact ⟨[], first, rest, rfl, fun y hy => absurd hy List.not_mem_nil, hfirst⟩
          · rintro ⟨before, x, after, hsplit, hbefore, hx⟩
            -- The first element has no result, so nothing stands before the failing one.
            cases before with
            | nil =>
                obtain ⟨rfl, rfl⟩ := List.cons.inj hsplit
                exact congrArg Except.error (Except.error.inj (hfirst.symm.trans hx))
            | cons y before =>
                obtain ⟨rfl, -⟩ := List.cons.inj hsplit
                rcases hbefore first List.mem_cons_self with ⟨z, hz⟩
                cases hfirst.symm.trans hz
      | ok z =>
          have hrest : (rest.mapM f).map (z :: ·) = .error e ↔ rest.mapM f = .error e := by
            cases rest.mapM f with
            | error e' => rfl
            | ok zs => exact ⟨nofun, nofun⟩
          rw [mapM_cons_of_ok hfirst, hrest, ih]
          constructor
          · rintro ⟨before, x, after, rfl, hbefore, hx⟩
            exact ⟨first :: before, x, after, rfl,
              List.forall_mem_cons.mpr ⟨⟨z, hfirst⟩, hbefore⟩, hx⟩
          · rintro ⟨before, x, after, hsplit, hbefore, hx⟩
            -- The first element has a result, so it stands before the failing one.
            cases before with
            | nil =>
                obtain ⟨rfl, rfl⟩ := List.cons.inj hsplit
                cases hfirst.symm.trans hx
            | cons y before =>
                obtain ⟨rfl, rfl⟩ := List.cons.inj hsplit
                exact ⟨before, x, after, rfl, (List.forall_mem_cons.mp hbefore).2, hx⟩

/-- A step over a list has results when it has one for every element. -/
theorem exists_mapM_eq_ok_iff {xs : List α} :
    (∃ ys, xs.mapM f = .ok ys) ↔ ∀ x ∈ xs, ∃ y, f x = .ok y := by
  simp only [mapM_eq_ok_iff]
  induction xs with
  | nil => exact ⟨fun _ x hx => absurd hx List.not_mem_nil, fun _ => ⟨[], .nil⟩⟩
  | cons x xs ih =>
      rw [List.forall_mem_cons, ← ih]
      constructor
      · rintro ⟨ys, h⟩
        rcases List.forall₂_cons_left_iff.mp h with ⟨y, zs, hx, hxs, -⟩
        exact ⟨⟨y, hx⟩, zs, hxs⟩
      · rintro ⟨⟨y, hx⟩, zs, hxs⟩
        exact ⟨y :: zs, .cons hx hxs⟩

/-- What every pair says about its second member holds of the second list. -/
theorem forall_right_of_forall₂ {R : α → β → Prop} {P : β → Prop} {xs : List α} {ys : List β}
    (h : List.Forall₂ R xs ys) (hP : ∀ x y, R x y → P y) : ∀ y ∈ ys, P y := by
  induction h with
  | nil => exact fun y hy => absurd hy List.not_mem_nil
  | cons hr _ ih => exact List.forall_mem_cons.mpr ⟨hP _ _ hr, ih⟩

/-- What two lists have to do with a third, element by element, they have to do with each
    other. -/
theorem forall₂_of_left {γ : Type} {R : α → β → Prop} {S : α → γ → Prop} {T : β → γ → Prop}
    {xs : List α} {ys : List β} {zs : List γ} (h : List.Forall₂ R xs ys)
    (h' : List.Forall₂ S xs zs) (hT : ∀ x y z, R x y → S x z → T y z) :
    List.Forall₂ T ys zs := by
  induction h generalizing zs with
  | nil =>
      cases h'
      exact .nil
  | cons hr _ ih =>
      cases h' with
      | cons hs hrest => exact .cons (hT _ _ _ hr hs) (ih hrest)

end Lists

/-- The namespace that the choices of the caller and of an entry come to. A choice that is
    not made counts as an empty one, and an empty one leaves the default. -/
def chosenSpace (caller own : Option String) : String :=
  let choice := caller.getD (own.getD "")
  if choice = "" then defaultSpace else choice

/-- What the caller gives is in the target. -/
structure Overrides.Decides (overrides : Overrides) (t : Target) : Prop where
  outputDirectory : ∀ directory ∈ overrides.outputDirectory, t.outputDirectory = directory
  yaml : overrides.yaml = true → t.format = .yaml
  keepDates : overrides.keepDates = true → t.options.keepDates = true
  space : ∀ name ∈ overrides.space, t.options.space = if name = "" then defaultSpace else name

/-- What two callers agree on, or both leave out, is the same in two targets. -/
structure Overrides.Shared (overrides others : Overrides) (t t' : Target) : Prop where
  inputFile : t.inputFile = t'.inputFile
  outputDirectory : overrides.outputDirectory = others.outputDirectory →
    t.outputDirectory = t'.outputDirectory
  yaml : overrides.yaml = others.yaml → t.format = t'.format
  keepDates : overrides.keepDates = others.keepDates → t.options.keepDates = t'.options.keepDates
  space : overrides.space = others.space → t.options.space = t'.options.space

namespace TargetEntry

variable {entry : TargetEntry} {base : String} {overrides others : Overrides} {t t' : Target}

/-- The namespace of the entry can stand bare as an object key. -/
def IsResolvable (overrides : Overrides) (entry : TargetEntry) : Prop :=
  Text.needsQuotes (chosenSpace overrides.space entry.space) = false

theorem effectiveSpace_eq (entry : TargetEntry) (overrides : Overrides) :
    entry.effectiveSpace overrides = chosenSpace overrides.space entry.space := by
  unfold effectiveSpace chosenSpace
  cases overrides.space <;> cases entry.space <;> simp

/-- The test on a namespace is the one that object keys are written by. -/
theorem isResolvable_iff :
    entry.IsResolvable overrides ↔
      Text.IsIdentifier (entry.effectiveSpace overrides).toList := by
  rw [IsResolvable, ← effectiveSpace_eq, ← Bool.not_eq_true, StringLiteral.needsQuotes_iff,
    not_not]

/-- An entry has a target when its namespace is an identifier, with each setting on its
    own. -/
theorem resolve_eq_ok_iff :
    entry.resolve base overrides = .ok t ↔ entry.IsResolvable overrides ∧
      t = {
        inputFile := Path.join base entry.inputFile
        outputDirectory := entry.effectiveOutput base overrides
        format := entry.effectiveFormat overrides
        options := {
          keepDates := overrides.keepDates || entry.keepDates.getD false
          space := chosenSpace overrides.space entry.space } } := by
  rw [isResolvable_iff, ← effectiveSpace_eq, resolve]
  split
  · next h => exact ⟨fun heq => ⟨h, (Except.ok.inj heq).symm⟩, fun heq => congrArg _ heq.2.symm⟩
  · next h => exact ⟨nofun, fun heq => absurd heq.1 h⟩

/-- Otherwise the error is about its namespace. -/
theorem resolve_eq_error_iff {e : TargetError} :
    entry.resolve base overrides = .error e ↔ ¬ entry.IsResolvable overrides ∧
      e = .invalidSpace (chosenSpace overrides.space entry.space) := by
  rw [isResolvable_iff, ← effectiveSpace_eq, resolve]
  split
  · next h => exact ⟨nofun, fun heq => absurd h heq.1⟩
  · next h => exact ⟨fun heq => ⟨h, (Except.error.inj heq).symm⟩, fun heq => congrArg _ heq.2.symm⟩

theorem exists_resolve_eq_ok_iff :
    (∃ t, entry.resolve base overrides = .ok t) ↔ entry.IsResolvable overrides := by
  simp only [resolve_eq_ok_iff, exists_and_left, exists_eq, and_true]

/-- The target has what the caller gives. -/
theorem decides_of_resolve (h : entry.resolve base overrides = .ok t) : overrides.Decides t := by
  -- The target is given in full, so each setting is looked at by itself.
  obtain ⟨-, rfl⟩ := resolve_eq_ok_iff.mp h
  constructor
  case outputDirectory =>
    intro directory hdirectory
    change entry.effectiveOutput base overrides = directory
    rw [effectiveOutput, Option.mem_def.mp hdirectory]
  case yaml =>
    intro hyaml
    change entry.effectiveFormat overrides = .yaml
    rw [effectiveFormat, hyaml]
    rfl
  case keepDates =>
    intro hdates
    change (overrides.keepDates || _) = true
    rw [hdates, Bool.true_or]
  case space =>
    intro name hname
    change chosenSpace overrides.space entry.space = _
    rw [Option.mem_def.mp hname]
    rfl

/-- Targets of one entry differ only where the callers differ. -/
theorem shared_of_resolve (h : entry.resolve base overrides = .ok t)
    (h' : entry.resolve base others = .ok t') : overrides.Shared others t t' := by
  obtain ⟨-, rfl⟩ := resolve_eq_ok_iff.mp h
  obtain ⟨-, rfl⟩ := resolve_eq_ok_iff.mp h'
  constructor
  case inputFile => rfl
  case outputDirectory =>
    intro heq
    change entry.effectiveOutput base overrides = entry.effectiveOutput base others
    rw [effectiveOutput, effectiveOutput, heq]
  case yaml =>
    intro heq
    change entry.effectiveFormat overrides = entry.effectiveFormat others
    rw [effectiveFormat, effectiveFormat, heq]
  case keepDates =>
    intro heq
    change (overrides.keepDates || _) = (others.keepDates || _)
    rw [heq]
  case space =>
    intro heq
    change chosenSpace overrides.space entry.space = chosenSpace others.space entry.space
    rw [heq]

end TargetEntry

section Configurations

variable {entries : List TargetEntry} {base : String} {overrides others : Overrides}

/-- There are targets when there are entries and each of them has one. -/
theorem resolveTargets_eq_ok_iff {targets : List Target} :
    resolveTargets entries base overrides = .ok targets ↔ entries ≠ [] ∧
      List.Forall₂ (fun entry t => entry.resolve base overrides = .ok t) entries targets := by
  unfold resolveTargets
  -- An empty configuration is refused before any entry is looked at.
  cases entries with
  | nil => exact ⟨nofun, fun h => absurd rfl h.1⟩
  | cons entry rest =>
      rw [List.isEmpty_cons, if_neg Bool.false_ne_true, mapM_eq_ok_iff]
      exact (and_iff_right (List.cons_ne_nil entry rest)).symm

/-- There are none when there are no entries, or for the reason of the first entry that has
    none. -/
theorem resolveTargets_eq_error_iff {e : TargetError} :
    resolveTargets entries base overrides = .error e ↔ (entries = [] ∧ e = .noTargets) ∨
      ∃ before bad after, entries = before ++ bad :: after ∧
        (∀ entry ∈ before, ∃ t, entry.resolve base overrides = .ok t) ∧
          bad.resolve base overrides = .error e := by
  unfold resolveTargets
  cases entries with
  | nil =>
      constructor
      · exact fun h => Or.inl ⟨rfl, (Except.error.inj h).symm⟩
      · rintro (⟨-, rfl⟩ | ⟨before, bad, after, h, -⟩)
        · rfl
        · exact absurd h.symm (List.append_ne_nil_of_right_ne_nil _ (List.cons_ne_nil bad after))
  | cons entry rest =>
      rw [List.isEmpty_cons, if_neg Bool.false_ne_true, mapM_eq_error_iff]
      exact ⟨Or.inr, fun h => h.resolve_left fun hnil =>
        absurd hnil.1 (List.cons_ne_nil entry rest)⟩

theorem resolveTargets_singleton_iff {entry : TargetEntry} {t : Target} :
    resolveTargets [entry] base overrides = .ok [t] ↔ entry.resolve base overrides = .ok t := by
  rw [resolveTargets_eq_ok_iff, and_iff_right (List.cons_ne_nil entry [])]
  simp only [List.forall₂_cons, List.Forall₂.nil, and_true]

end Configurations

/-- What is known of the targets of a configuration. -/
structure PerEntry (entries : List TargetEntry) (base : String) (overrides : Overrides) :
    Prop where
  /-- There are targets when there are entries and the namespace of each is an
      identifier. -/
  succeeds : (∃ targets, resolveTargets entries base overrides = .ok targets) ↔
    entries ≠ [] ∧
      ∀ entry ∈ entries, Text.needsQuotes (chosenSpace overrides.space entry.space) = false
  /-- There is one for each entry, which is the target the entry has when it is alone. -/
  alone : ∀ targets, resolveTargets entries base overrides = .ok targets →
    List.Forall₂ (fun entry t => resolveTargets [entry] base overrides = .ok [t]) entries targets
  /-- Every target has what the caller gives. -/
  decided : ∀ targets, resolveTargets entries base overrides = .ok targets →
    ∀ t ∈ targets, overrides.Decides t
  /-- What the caller does not give is as it is for callers who give nothing, or other
      settings only. -/
  shared : ∀ targets, resolveTargets entries base overrides = .ok targets →
    ∀ others targets', resolveTargets entries base others = .ok targets' →
      List.Forall₂ (overrides.Shared others) targets targets'
  /-- Otherwise the error is that of the first entry with another namespace. -/
  fails : ∀ e, resolveTargets entries base overrides = .error e ↔
    (entries = [] ∧ e = .noTargets) ∨
      ∃ before bad after, entries = before ++ bad :: after ∧
        (∀ entry ∈ before,
          Text.needsQuotes (chosenSpace overrides.space entry.space) = false) ∧
        Text.needsQuotes (chosenSpace overrides.space bad.space) = true ∧
        e = .invalidSpace (chosenSpace overrides.space bad.space)

/-- A configuration is resolved entry by entry, whatever the caller gives, and the names
    that are accepted for a namespace are those that need no quotes as an object key. -/
theorem resolveTargets_perEntry (entries : List TargetEntry) (base : String)
    (overrides : Overrides) :
    PerEntry entries base overrides ∧
      ∀ name : String, Text.IsIdentifier name.toList ↔ Text.needsQuotes name = false := by
  refine ⟨?_, fun name => ?_⟩
  · constructor
    case succeeds =>
      -- Only the conditions on single entries are left once the list is taken apart.
      simp only [resolveTargets_eq_ok_iff, ← mapM_eq_ok_iff, exists_and_left,
        exists_mapM_eq_ok_iff, TargetEntry.exists_resolve_eq_ok_iff, TargetEntry.IsResolvable]
    case alone =>
      intro targets h
      refine (resolveTargets_eq_ok_iff.mp h).2.imp fun entry t hentry => ?_
      exact resolveTargets_singleton_iff.mpr hentry
    case decided =>
      intro targets h
      refine forall_right_of_forall₂ (resolveTargets_eq_ok_iff.mp h).2 fun entry t ht => ?_
      exact TargetEntry.decides_of_resolve ht
    case shared =>
      intro targets h others targets' h'
      refine forall₂_of_left (resolveTargets_eq_ok_iff.mp h).2
        (resolveTargets_eq_ok_iff.mp h').2 fun entry t t' ht ht' => ?_
      exact TargetEntry.shared_of_resolve ht ht'
    case fails =>
      intro e
      simp only [resolveTargets_eq_error_iff, TargetEntry.exists_resolve_eq_ok_iff,
        TargetEntry.resolve_eq_error_iff, TargetEntry.IsResolvable, Bool.not_eq_false]
  · rw [← Bool.not_eq_true, StringLiteral.needsQuotes_iff, not_not]

/-- An entry that names no identifier, and one with settings of its own. -/
def mixedEntries : List TargetEntry :=
  [{ inputFile := "a.json", space := some "my-types" },
    { inputFile := "b.json", outputDirectory := some "/gen", keepDates := some true }]

/-- A caller who gives the namespace gets targets for both. -/
def mixedTargets : List Target :=
  [{ inputFile := "root/a.json", outputDirectory := "root/api", format := .yaml,
      options := { keepDates := false, space := "Api" } },
    { inputFile := "root/b.json", outputDirectory := "/gen", format := .yaml,
      options := { keepDates := true, space := "Api" } }]

/-- Without a namespace from the caller there is no target, not even for the second entry. -/
theorem resolveTargets_perEntry_mixed :
    resolveTargets mixedEntries "root" {} = .error (.invalidSpace "my-types") ∧
      resolveTargets mixedEntries "root" { yaml := true, space := some "Api" }
        = .ok mixedTargets ∧
      ∀ t ∈ mixedTargets, Overrides.Decides { yaml := true, space := some "Api" } t := by
  have h : resolveTargets mixedEntries "root" { yaml := true, space := some "Api" }
      = .ok mixedTargets := by rfl
  exact ⟨by rfl, h, (resolveTargets_perEntry mixedEntries "root" _).1.decided mixedTargets h⟩

end RouteTypes
