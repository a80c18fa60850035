/-!
# Computations with a Log

A computation that may fail and that reports events on its way.

What such a computation answers and what it reports are two separate things, so
they are kept side by side: a list of events, and an outcome that is a value or an
error. Events reported before a failure are kept. A statement about answers alone
goes through `outcome`, which turns sequencing here into sequencing of outcomes
(`outcome_bind`), so the events never have to be looked at.

## Main definitions

* `Logged`: The events of a computation and how it ended.
* `Logged.report`: Report one event.
* `Logged.fail`: End with an error.

## Theorems

* `Logged.outcome_pure`, `Logged.outcome_bind`, `Logged.outcome_report`: How the
  outcome of a computation follows from those of its parts.
-/

namespace RouteTypes

/-- The events a computation reported, in order, and how it ended. -/
structure Logged (ω ε α : Type) where
  events : List ω := []
  outcome : Except ε α

namespace Logged

variable {ω ε α β : Type}

/-- Go on with the value of a computation. The events of the two parts follow one
    another, and after an error there is no second part. -/
protected def bind (x : Logged ω ε α) (f : α → Logged ω ε β) : Logged ω ε β :=
  match x.outcome with
  | .error e => ⟨x.events, .error e⟩
  | .ok a => ⟨x.events ++ (f a).events, (f a).outcome⟩

instance : Monad (Logged ω ε) where
  pure a := { outcome := .ok a }
  bind := Logged.bind

/-- Report one event and go on. -/
def report (event : ω) : Logged ω ε Unit :=
  { events := [event], outcome := .ok () }

/-- End with an error. -/
def fail (error : ε) : Logged ω ε α :=
  { outcome := .error error }

/-- A computation that reports nothing. -/
def ofExcept (outcome : Except ε α) : Logged ω ε α :=
  { outcome }

@[simp] theorem outcome_pure (a : α) : (pure a : Logged ω ε α).outcome = .ok a := rfl

@[simp] theorem outcome_report (event : ω) :
    (report event : Logged ω ε Unit).outcome = .ok () := rfl

@[simp] theorem outcome_fail (error : ε) :
    (fail error : Logged ω ε α).outcome = .error error := rfl

@[simp] theorem outcome_ofExcept (outcome : Except ε α) :
    (ofExcept outcome : Logged ω ε α).outcome = outcome := rfl

/-- The outcome of a sequence is the sequence of the outcomes. -/
@[simp] theorem outcome_bind (x : Logged ω ε α) (f : α → Logged ω ε β) :
    (x >>= f).outcome = x.outcome.bind fun a => (f a).outcome := by
  show (Logged.bind x f).outcome = _
  unfold Logged.bind
  cases x.outcome <;> rfl

instance : LawfulMonad (Logged ω ε) := LawfulMonad.mk' _
  (fun x => by
    show Logged.bind x _ = x
    unfold Logged.bind
    obtain ⟨events, outcome⟩ := x
    cases outcome
    · rfl
    · exact congrArg (fun l => (⟨l, _⟩ : Logged ω ε _)) (List.append_nil events))
  (fun _ _ => rfl)
  (fun x f g => by
    show Logged.bind (Logged.bind x f) g = Logged.bind x fun a => Logged.bind (f a) g
    unfold Logged.bind
    cases x.outcome with
    | error e => rfl
    | ok a =>
      dsimp only
      cases (f a).outcome with
      | error e => rfl
      | ok b => simp only [List.append_assoc])

@[simp] theorem outcome_map (f : α → β) (x : Logged ω ε α) :
    (f <$> x).outcome = x.outcome.map f := by
  rw [← bind_pure_comp, outcome_bind]
  cases x.outcome <;> rfl

end Logged

end RouteTypes
