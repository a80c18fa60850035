import RouteTypes.Proofs.Outcome

/-!
# Comparing Computations

What two computations have in common when one leaves out steps of the other.

A computation `Reduces` to another when its values are matched by related values of the
other, and the other ends with its errors as well, apart from some that are excused.
Excused errors are those of the steps that were left out. What is left out may still say
something when it succeeds, so the values need not be the same either.

The relation follows the structure of computations. Sequences are compared part by part,
a step that is left out is compared with nothing (`Reduces.skip`), and in a repeated step
the elements that fail a test may be missing (`Reduces.mapM_filter`). Since a computation
ends with a value or with an error, two that are compared by equality, with nothing
excused, end in the same way (`Reduces.outcome_eq`).

## Main definitions

* `Logged.Reduces`: A computation compared with one that leaves out steps.
* `Logged.Matches`: Two computations that leave out nothing.
* `Logged.Carries`, `Logged.MapsTo`: The values of one are made from those of the other.

## Theorems

* `Reduces.bind`, `Reduces.skip`: A sequence, with and without its first part.
* `Reduces.mapM`, `Reduces.mapM_filter`: A repeated step, with and without some elements.
* `Reduces.outcome_eq`: When nothing is left out the outcomes are the same.
* `Matches.cases`: Computations that match end alike.
-/

namespace RouteTypes

namespace Logged

variable {ω ε α β γ δ : Type}

/-- The values of the first computation are matched by related values of the second, and
    its errors by the same errors, unless they are excused. -/
structure Reduces (R : α → β → Prop) (excused : ε → Prop) (x : Logged ω ε α)
    (y : Logged ω ε β) : Prop where
  yields : ∀ a, x.Yields a → ∃ b, y.Yields b ∧ R a b
  fails : ∀ e, x.Fails e → y.Fails e ∨ excused e

namespace Reduces

variable {R : α → β → Prop} {S : γ → δ → Prop} {excused : ε → Prop} {x : Logged ω ε α}
  {y : Logged ω ε β}

theorem pure {a : α} {b : β} (h : R a b) :
    Reduces R excused (Pure.pure a : Logged ω ε α) (Pure.pure b) where
  yields a' ha' := by
    rw [yields_pure] at ha'
    exact ⟨b, (yields_pure b b).mpr rfl, ha' ▸ h⟩
  fails e he := absurd he (fails_pure a e)

theorem refl (x : Logged ω ε α) : Reduces Eq excused x x where
  yields a ha := ⟨a, ha, rfl⟩
  fails _ he := Or.inl he

/-- More may be related and more excused. What the values are is known then. -/
theorem mono {R' : α → β → Prop} {excused' : ε → Prop} (h : Reduces R excused x y)
    (hR : ∀ a b, x.Yields a → y.Yields b → R a b → R' a b)
    (hexcused : ∀ e, excused e → excused' e) : Reduces R' excused' x y where
  yields a ha := by
    rcases h.yields a ha with ⟨b, hb, hab⟩
    exact ⟨b, hb, hR a b ha hb hab⟩
  fails e he := (h.fails e he).imp_right (hexcused e)

/-- Only outcomes are compared, so another computation with the same one may be taken. -/
theorem congr_left {x' : Logged ω ε α} (heq : x.outcome = x'.outcome)
    (h : Reduces R excused x' y) : Reduces R excused x y where
  yields a ha := h.yields a (heq.symm.trans ha)
  fails e he := h.fails e (heq.symm.trans he)

/-- Two sequences are compared part by part. -/
theorem bind {f : α → Logged ω ε γ} {g : β → Logged ω ε δ} (h : Reduces R excused x y)
    (hfg : ∀ a b, x.Yields a → y.Yields b → R a b → Reduces S excused (f a) (g b)) :
    Reduces S excused (x >>= f) (y >>= g) where
  yields c hc := by
    rcases (yields_bind x f c).mp hc with ⟨a, ha, hc⟩
    rcases h.yields a ha with ⟨b, hb, hab⟩
    rcases (hfg a b ha hb hab).yields c hc with ⟨d, hd, hcd⟩
    exact ⟨d, (yields_bind y g d).mpr ⟨b, hb, hd⟩, hcd⟩
  fails e he := by
    rcases (fails_bind x f e).mp he with he | ⟨a, ha, he⟩
    · exact (h.fails e he).imp_left fun hy => (fails_bind y g e).mpr (Or.inl hy)
    · -- The first parts have related values, so the second parts can be compared.
      rcases h.yields a ha with ⟨b, hb, hab⟩
      exact ((hfg a b ha hb hab).fails e he).imp_left fun hy =>
        (fails_bind y g e).mpr (Or.inr ⟨b, hb, hy⟩)

/-- A first part that is left out must not matter to the rest, and its errors are
    excused. -/
theorem skip {f : α → Logged ω ε γ} {z : Logged ω ε δ} (hx : ∀ e, x.Fails e → excused e)
    (h : ∀ a, x.Yields a → Reduces S excused (f a) z) : Reduces S excused (x >>= f) z where
  yields c hc := by
    rcases (yields_bind x f c).mp hc with ⟨a, ha, hc⟩
    exact (h a ha).yields c hc
  fails e he := by
    rcases (fails_bind x f e).mp he with he | ⟨a, ha, he⟩
    · exact Or.inr (hx e he)
    · exact (h a ha).fails e he

/-- Related values are mapped to values that are related in another way. -/
theorem map {f : α → γ} {g : β → δ} (h : Reduces R excused x y)
    (hfg : ∀ a b, R a b → S (f a) (g b)) : Reduces S excused (f <$> x) (g <$> y) := by
  rw [← bind_pure_comp, ← bind_pure_comp]
  exact h.bind fun a b _ _ hab => pure (hfg a b hab)

/-- What is reported does not count. -/
theorem report (event event' : ω) :
    Reduces (fun _ _ => True) excused (report event : Logged ω ε Unit) (report event') where
  yields _ _ := ⟨(), yields_report event' (), trivial⟩
  fails e he := absurd he (fails_report event e)

/-- Steps for the elements of two lists are compared pair by pair. -/
theorem mapM_forall₂ {f : α → Logged ω ε γ} {g : β → Logged ω ε δ} {xs : List α}
    {ys : List β} (h : List.Forall₂ (fun x y => Reduces S excused (f x) (g y)) xs ys) :
    Reduces (List.Forall₂ S) excused (xs.mapM f) (ys.mapM g) := by
  -- The induction is on the pairs: the first pair is compared, and then the lists behind it.
  induction h with
  | nil => exact pure .nil
  | cons hxy _ ih =>
      rw [List.mapM_cons, List.mapM_cons]
      exact hxy.bind fun c d _ _ hcd => ih.bind fun cs ds _ _ hcds => pure (.cons hcd hcds)

/-- Two steps for every element of a list are compared element by element. -/
theorem mapM {f : α → Logged ω ε γ} {g : α → Logged ω ε δ} {xs : List α}
    (h : ∀ x ∈ xs, Reduces S excused (f x) (g x)) :
    Reduces (List.Forall₂ S) excused (xs.mapM f) (xs.mapM g) :=
  mapM_forall₂ (List.forall₂_same.mpr h)

/-- In a repeated step the elements that fail a test may be missing. Lists of values are
    related when adding one value to both keeps them so, and so does adding to the first
    what was left out of the second. -/
theorem mapM_filter {R : List β → List β → Prop} {f : α → Logged ω ε β} {test : α → Bool}
    {xs : List α} (hnil : R [] [])
    (hcons : ∀ b bs bs', R bs bs' → R (b :: bs) (b :: bs'))
    (hdrop : ∀ x ∈ xs, test x = false → ∀ b, (f x).Yields b → ∀ bs bs', R bs bs' → R (b :: bs) bs')
    (hexcused : ∀ x ∈ xs, test x = false → ∀ e, (f x).Fails e → excused e) :
    Reduces R excused (xs.mapM f) ((xs.filter test).mapM f) := by
  -- The induction is on the elements. Only the first computation looks at one that fails the test.
  induction xs with
  | nil => exact pure hnil
  | cons x xs ih =>
      have hrest := ih (fun x' hx' => hdrop x' (List.mem_cons_of_mem x hx'))
        fun x' hx' => hexcused x' (List.mem_cons_of_mem x hx')
      rw [List.mapM_cons]
      cases htest : test x with
      | true =>
          rw [List.filter_cons_of_pos htest, List.mapM_cons]
          exact (refl (f x)).bind fun b b' _ _ hb => hb ▸
            hrest.bind fun bs bs' _ _ hbs => pure (hcons b bs bs' hbs)
      | false =>
          rw [List.filter_cons_of_neg (by rw [htest]; decide)]
          refine skip (hexcused x List.mem_cons_self htest) fun b hb => ?_
          -- What remains of the second computation goes on with its own values.
          rw [← bind_pure ((xs.filter test).mapM f)]
          exact hrest.bind fun bs bs' _ _ hbs =>
            pure (hdrop x List.mem_cons_self htest b hb bs bs' hbs)

/-- When the values are the same and nothing is excused, the outcomes are the same. -/
theorem outcome_eq {y : Logged ω ε α} (h : Reduces Eq (fun _ => False) x y) :
    x.outcome = y.outcome := by
  -- One of the two ends is there, and the other computation has the same.
  rcases x.yields_or_fails with ⟨a, ha⟩ | ⟨e, he⟩
  · rcases h.yields a ha with ⟨b, hb, rfl⟩
    exact ha.trans hb.symm
  · exact he.trans ((h.fails e he).resolve_right id).symm

end Reduces

/-- Two computations that end with related values, or with the same error. -/
abbrev Matches (R : α → β → Prop) (x : Logged ω ε α) (y : Logged ω ε β) : Prop :=
  Reduces R (fun _ => False) x y

namespace Matches

variable {R : α → β → Prop} {x : Logged ω ε α} {y : Logged ω ε β}

theorem fail (e : ε) :
    Matches R (ofExcept (.error e) : Logged ω ε α) (ofExcept (.error e)) where
  yields a ha := absurd ha (by simp only [yields_ofExcept, reduceCtorEq, not_false_eq_true])
  fails _ he := Or.inl (congrArg Except.error (Except.error.inj he))

/-- How the two computations end. -/
theorem cases (h : Matches R x y) :
    (∃ e, x.Fails e ∧ y.Fails e) ∨ ∃ a b, x.Yields a ∧ y.Yields b ∧ R a b := by
  rcases x.yields_or_fails with ⟨a, ha⟩ | ⟨e, he⟩
  · rcases h.yields a ha with ⟨b, hb, hab⟩
    exact Or.inr ⟨a, b, ha, hb, hab⟩
  · exact Or.inl ⟨e, he, (h.fails e he).resolve_right id⟩

/-- Matching can be turned around. -/
theorem symm (h : Matches R x y) : Matches (fun b a => R a b) y x where
  yields b hb := by
    rcases h.cases with ⟨e, _, hy⟩ | ⟨a, b', ha, hb', hab⟩
    · exact absurd hy (hb.not_fails e)
    · exact ⟨a, ha, hb.unique hb' ▸ hab⟩
  fails e he := by
    rcases h.cases with ⟨e', hx, hy⟩ | ⟨_, b, _, hb, _⟩
    · exact Or.inl (Except.error.inj (he.symm.trans hy) ▸ hx)
    · exact absurd he (hb.not_fails e)

/-- Matching can be put together. -/
theorem trans {S : β → γ → Prop} {z : Logged ω ε γ} (h : Matches R x y) (h' : Matches S y z) :
    Matches (fun a c => ∃ b, R a b ∧ S b c) x z where
  yields a ha := by
    rcases h.yields a ha with ⟨b, hb, hab⟩
    rcases h'.yields b hb with ⟨c, hc, hbc⟩
    exact ⟨c, hc, b, hab, hbc⟩
  fails e he := h'.fails e ((h.fails e he).resolve_right id)

end Matches

/-- The second computation ends with what a function makes of the value of the first, and
    with its errors, unless they are excused. -/
abbrev Carries (excused : ε → Prop) (f : α → β) (x : Logged ω ε α) (y : Logged ω ε β) : Prop :=
  Reduces (fun a b => f a = b) excused x y

namespace Carries

variable {excused : ε → Prop} {f : α → β} {g : γ → δ} {x : Logged ω ε α} {y : Logged ω ε β}

/-- What is made of the first values decides how the second parts go on. -/
theorem bind {k : α → Logged ω ε γ} {k' : β → Logged ω ε δ} (h : Carries excused f x y)
    (hk : ∀ a, Carries excused g (k a) (k' (f a))) : Carries excused g (x >>= k) (y >>= k') :=
  Reduces.bind h fun a _ _ _ hab => hab ▸ hk a

/-- A repeated step, for lists whose elements belong together. -/
theorem mapM {k : α → Logged ω ε γ} {k' : β → Logged ω ε δ} {xs : List α} {ys : List β}
    (h : List.Forall₂ (fun x y => Carries excused g (k x) (k' y)) xs ys) :
    Carries excused (List.map g) (xs.mapM k) (ys.mapM k') := by
  refine (Reduces.mapM_forall₂ h).mono (fun cs ds _ _ hcds => ?_) fun _ he => he
  rwa [← List.forall₂_map_left_iff, List.forall₂_eq_eq_eq] at hcds

/-- When the function changes nothing, values are kept. -/
theorem keeps {f : α → α} {y : Logged ω ε α} (h : Carries excused f x y) (hf : ∀ a, f a = a)
    {a : α} (ha : x.Yields a) : y.Yields a := by
  rcases h.yields a ha with ⟨b, hb, hab⟩
  rwa [← hab, hf a] at hb

end Carries

/-- The second computation ends with what a function makes of the value of the first, or
    with the same error. -/
abbrev MapsTo (f : α → β) (x : Logged ω ε α) (y : Logged ω ε β) : Prop :=
  Matches (fun a b => f a = b) x y

/-- A step for every element of the lists that belong to some elements is a step for each
    of these lists. -/
theorem mapM_flatMap (f : β → Logged ω ε γ) (g : α → List β) (xs : List α) :
    (xs.flatMap g).mapM f = List.flatten <$> xs.mapM fun x => (g x).mapM f := by
  induction xs with
  -- The steps are taken in the same order, so only their results are grouped differently.
  | nil => rfl
  | cons x xs ih =>
      rw [List.flatMap_cons, List.mapM_append, List.mapM_cons, ih]
      simp only [map_eq_pure_bind, bind_assoc, pure_bind, List.flatten_cons]

end Logged

end RouteTypes
