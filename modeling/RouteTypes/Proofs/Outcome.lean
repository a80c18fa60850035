import RouteTypes.Logged
import Mathlib.Data.List.Forall2

/-!
# Successful Computations

What a computation that succeeded must have done.

`Yields` says that a computation ends with a value, whatever it reports on its way.
A sequence ends with a value exactly when its first part ends with one and the rest,
given that, ends with the other, so a success can be taken apart step by step. A step
repeated over a list succeeds exactly when it succeeds for every element, and the
results then stand beside the elements they come from. `Fails` says that it ends with
an error, which is then the error of one of its parts.

## Main definitions

* `Logged.Yields`: The computation ends with a value.
* `Logged.Fails`: The computation ends with an error.

## Theorems

* `Logged.yields_bind`: A sequence yields what its second part yields.
* `Logged.yields_mapM`: A repeated step yields the results of its elements.
* `Logged.exists_yields_mapM`: It succeeds when it does for every element.
* `Logged.yields_mapM_filterMap`: The same when results without a value are dropped.
* `Logged.fails_bind`, `Logged.exists_of_fails_mapM`: Which part an error comes from.
* `Logged.yields_or_fails`: A computation ends in one of the two ways.
-/

namespace RouteTypes

theorem exists_of_mem_toList_map {α β : Type} {o : Option α} {f : α → β} {b : β}
    (h : b ∈ (o.map f).toList) : ∃ a, o = some a ∧ f a = b :=
  Option.map_eq_some_iff.mp (Option.mem_toList.mp h)

namespace Logged

variable {ω ε α β : Type}

/-- The computation ends with this value. -/
def Yields (x : Logged ω ε α) (a : α) : Prop :=
  x.outcome = .ok a

/-- A value yields itself. -/
@[simp] theorem yields_pure (a b : α) : (pure a : Logged ω ε α).Yields b ↔ a = b := by
  simp only [Yields, outcome_pure, Except.ok.injEq]

@[simp] theorem yields_ofExcept (outcome : Except ε α) (a : α) :
    (ofExcept outcome : Logged ω ε α).Yields a ↔ outcome = .ok a := Iff.rfl

@[simp] theorem yields_report (event : ω) (u : Unit) :
    (report event : Logged ω ε Unit).Yields u := rfl

/-- A computation ends with one value at most. -/
theorem Yields.unique {x : Logged ω ε α} {a b : α} (ha : x.Yields a) (hb : x.Yields b) :
    a = b :=
  Except.ok.inj (ha.symm.trans hb)

/-- A sequence yields a value when its first part does and the rest goes on from
    there. -/
@[simp] theorem yields_bind (x : Logged ω ε α) (f : α → Logged ω ε β) (b : β) :
    (x >>= f).Yields b ↔ ∃ a, x.Yields a ∧ (f a).Yields b := by
  simp only [Yields, outcome_bind]
  cases x.outcome with
  -- After an error the rest is not run, so the sequence yields nothing.
  | error e => simp only [Except.bind, reduceCtorEq, false_and, exists_false]
  | ok a => simp only [Except.bind, Except.ok.injEq, exists_eq_left']

@[simp] theorem yields_map (f : α → β) (x : Logged ω ε α) (b : β) :
    (f <$> x).Yields b ↔ ∃ a, x.Yields a ∧ f a = b := by
  rw [← bind_pure_comp, yields_bind]
  simp only [yields_pure]

@[simp] theorem yields_seq (g : Logged ω ε (α → β)) (x : Logged ω ε α) (b : β) :
    (g <*> x).Yields b ↔ ∃ f, g.Yields f ∧ ∃ a, x.Yields a ∧ f a = b := by
  rw [seq_eq_bind_map, yields_bind]
  simp only [yields_map]

/-- A step for every element of a list yields the results, each beside its element. -/
theorem yields_mapM (f : α → Logged ω ε β) (xs : List α) (ys : List β) :
    (xs.mapM f).Yields ys ↔ List.Forall₂ (fun x y => (f x).Yields y) xs ys := by
  induction xs generalizing ys with
  | nil =>
      rw [List.mapM_nil, yields_pure, List.forall₂_nil_left_iff]
      exact eq_comm
  | cons x xs ih =>
      simp only [List.mapM_cons, yields_bind, yields_pure, List.forall₂_cons_left_iff, ih]
      constructor
      · rintro ⟨y, hy, zs, hzs, rfl⟩
        exact ⟨y, zs, hy, hzs, rfl⟩
      · rintro ⟨y, zs, hy, hzs, rfl⟩
        exact ⟨y, hy, zs, hzs, rfl⟩

/-- A step that succeeds for every element of a list succeeds when repeated. -/
theorem exists_yields_mapM {f : α → Logged ω ε β} {xs : List α}
    (h : ∀ x ∈ xs, ∃ y, (f x).Yields y) : ∃ ys, (xs.mapM f).Yields ys := by
  simp only [yields_mapM]
  induction xs with
  | nil => exact ⟨[], .nil⟩
  | cons x xs ih =>
      rcases h x List.mem_cons_self with ⟨y, hy⟩
      rcases ih fun x' hx' => h x' (List.mem_cons_of_mem x hx') with ⟨ys, hys⟩
      exact ⟨y :: ys, .cons hy hys⟩

/-- A repeated step that succeeds succeeds for every element. -/
theorem exists_of_mem {f : α → Logged ω ε β} {xs : List α} {ys : List β}
    (h : (xs.mapM f).Yields ys) {x : α} (hx : x ∈ xs) : ∃ y ∈ ys, (f x).Yields y := by
  rw [yields_mapM] at h
  induction h with
  | nil => exact absurd hx List.not_mem_nil
  | @cons x' y xs ys hxy _ ih =>
      rcases List.mem_cons.mp hx with rfl | hx
      · exact ⟨y, List.mem_cons_self, hxy⟩
      · rcases ih hx with ⟨y', hy', hxy'⟩
        exact ⟨y', List.mem_cons_of_mem y hy', hxy'⟩

/-- Whatever is kept of a repeated step comes from one of the elements. -/
theorem exists_of_mem_filterMap {f : α → Logged ω ε (Option β)} {xs : List α}
    {ys : List (Option β)} (h : (xs.mapM f).Yields ys) {b : β}
    (hb : b ∈ ys.filterMap id) : ∃ x ∈ xs, (f x).Yields (some b) := by
  rw [yields_mapM] at h
  induction h with
  | nil => exact absurd hb List.not_mem_nil
  | @cons x y xs ys hxy _ ih =>
      cases y with
      | none =>
          rcases ih hb with ⟨x', hx', hb'⟩
          exact ⟨x', List.mem_cons_of_mem x hx', hb'⟩
      | some c =>
          rcases List.mem_cons.mp hb with rfl | hb
          · exact ⟨x, List.mem_cons_self, hxy⟩
          · rcases ih hb with ⟨x', hx', hb'⟩
            exact ⟨x', List.mem_cons_of_mem x hx', hb'⟩

/-- When every step agrees with a partial function on its success, what is kept is
    what the function keeps. -/
theorem yields_mapM_filterMap {f : α → Logged ω ε (Option β)} {xs : List α}
    {ys : List (Option β)} (h : (xs.mapM f).Yields ys) (g : α → Option β)
    (hg : ∀ x ∈ xs, ∀ y, (f x).Yields y → y = g x) : ys.filterMap id = xs.filterMap g := by
  rw [yields_mapM] at h
  induction h with
  | nil => rfl
  | @cons x y xs ys hxy _ ih =>
      -- The step and the function agree on the first element and, by induction, on the others.
      have hrest := ih fun x' hx' => hg x' (List.mem_cons_of_mem x hx')
      have hy : y = g x := hg x List.mem_cons_self y hxy
      rw [List.filterMap_cons, List.filterMap_cons, ← hy, hrest]
      rfl

/-- The computation ends with this error. -/
def Fails (x : Logged ω ε α) (e : ε) : Prop :=
  x.outcome = .error e

/-- A value is no error. -/
@[simp] theorem fails_pure (a : α) (e : ε) : ¬ (pure a : Logged ω ε α).Fails e := by
  simp only [Fails, outcome_pure, reduceCtorEq, not_false_eq_true]

@[simp] theorem fails_ofExcept (outcome : Except ε α) (e : ε) :
    (ofExcept outcome : Logged ω ε α).Fails e ↔ outcome = .error e := Iff.rfl

@[simp] theorem fails_report (event : ω) (e : ε) :
    ¬ (report event : Logged ω ε Unit).Fails e := by
  simp only [Fails, outcome_report, reduceCtorEq, not_false_eq_true]

/-- A sequence fails when its first part does, or when the rest does after it. -/
theorem fails_bind (x : Logged ω ε α) (f : α → Logged ω ε β) (e : ε) :
    (x >>= f).Fails e ↔ x.Fails e ∨ ∃ a, x.Yields a ∧ (f a).Fails e := by
  simp only [Fails, Yields, outcome_bind]
  cases x.outcome with
  | error e' => simp [Except.bind]
  | ok a => simp [Except.bind]

/-- The error of a repeated step is the error for one of the elements. -/
theorem exists_of_fails_mapM {f : α → Logged ω ε β} {xs : List α} {e : ε}
    (h : (xs.mapM f).Fails e) : ∃ x ∈ xs, (f x).Fails e := by
  induction xs with
  | nil =>
      rw [List.mapM_nil] at h
      exact absurd h (fails_pure _ _)
  | cons x xs ih =>
      rw [List.mapM_cons, fails_bind] at h
      rcases h with h | ⟨y, _, h⟩
      · exact ⟨x, List.mem_cons_self, h⟩
      · rcases (fails_bind _ _ _).mp h with h | ⟨ys, _, h⟩
        · rcases ih h with ⟨x', hx', h'⟩
          exact ⟨x', List.mem_cons_of_mem x hx', h'⟩
        -- What is left after the last element is a value.
        · exact absurd h (fails_pure _ _)

/-- A computation ends with a value or with an error. -/
theorem yields_or_fails (x : Logged ω ε α) : (∃ a, x.Yields a) ∨ ∃ e, x.Fails e := by
  unfold Yields Fails
  cases x.outcome with
  | error e => exact Or.inr ⟨e, rfl⟩
  | ok a => exact Or.inl ⟨a, rfl⟩

theorem Yields.not_fails {x : Logged ω ε α} {a : α} (h : x.Yields a) (e : ε) : ¬ x.Fails e := by
  unfold Yields at h
  unfold Fails
  rw [h]
  simp only [reduceCtorEq, not_false_eq_true]

end Logged

end RouteTypes
