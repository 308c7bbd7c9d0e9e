import Phrasebook.Proofs.Host.Resolved
import Phrasebook.Session

/-!
# What a run calls

A host of a shared registry calls the implementation of a step with the context of the run and with
the values of what the step has read. A conversion that failed when the step was looked up has left
its failure among these, and then the run raises the first failure there is, and calls nothing. It
makes no difference if a conversion gave the failure as its value of its own accord. The order in
which a step reads is that of its placeholders, even where several of them take nothing at one place.
-/

namespace Phrasebook

open Phrase (namesIn fill)

variable {H : Type}

/-- How implementations are called: with the context of the run and with values, in a world that they
may change. They may raise anything, and so may a run that calls none. -/
structure Caller (H C W E R : Type) where
  call : H → C → List Value → W → Except E R × W
  raise : Failure → E

namespace SharedHost

variable {C W E R : Type}

def run (h : SharedHost H) (caller : Caller H C W E R) (context : C) (text : Text) (world : W) :
    Except E (Option R) × W :=
  match h.call text with
  | .error failure => (.error (caller.raise failure), world)
  | .ok none => (.ok none, world)
  | .ok (some (handler, values)) =>
    match caller.call handler context values world with
    | (result, world) => (result.map some, world)

def sessionCaller : Caller Handler Unit Unit Failure Value :=
  ⟨fun handler _ values world => (handler values, world), id⟩

/-- A session runs steps in this way. -/
theorem session_run (h : SharedHost Handler) (text : Text) :
    Session.run (.shared h) text = (h.run sessionCaller () text ()).1.map fun
      | some value => .calls [value]
      | none => .undefinedStep := by
  rw [Session.run, run]
  cases h.call text with
  | error failure => rfl
  | ok found =>
    cases found with
    | none => rfl
    | some found =>
      change (found.1 found.2).map _ = ((found.1 found.2).map some).map _
      cases found.1 found.2 with
      | error failure => rfl
      | ok value => rfl

end SharedHost

/-- The conversion of a placeholder fails on what it has taken, or gives a failure as its value. -/
def Fails (typeOf : Text → FieldType Value) (entry : Text × Text) : Prop :=
  ∃ failure, (typeOf entry.1).settled.convert (.text entry.2) = .error failure

/-- Of what placeholders have taken, one after another, this is the first failure. -/
def FailsFirst (typeOf : Text → FieldType Value) (taken : List (Text × Text)) (failure : Failure) :
    Prop :=
  ∃ left name t right, taken = left ++ (name, t) :: right ∧ (∀ entry ∈ left, ¬ Fails typeOf entry) ∧
    (typeOf name).settled.convert (.text t) = .error failure

namespace Argument

variable {typeOf : Text → FieldType Value} {other : Text → FieldType Argument} {names texts : List Text}

end Argument

section

variable {typeOf : Text → FieldType Value} {names texts : List Text}

/-- There is one first failure. -/
theorem FailsFirst.unique {taken : List (Text × Text)} {failure other : Failure}
    (h : FailsFirst typeOf taken failure) (h' : FailsFirst typeOf taken other) : failure = other := by
  obtain ⟨left, name, t, right, rfl, hleft, hfail⟩ := h
  obtain ⟨left', name', t', right', he, hleft', hfail'⟩ := h'
  rcases List.append_eq_append_iff.mp he with ⟨between, rfl, hrest⟩ | ⟨between, rfl, hrest⟩
  · cases between with
    | nil =>
      cases hrest
      exact Except.error.inj (hfail.symm.trans hfail')
    | cons entry between =>
      obtain ⟨rfl, -⟩ := List.cons.inj hrest
      exact (hleft' (name, t) (by simp) ⟨failure, hfail⟩).elim
  · cases between with
    | nil =>
      cases hrest
      exact Except.error.inj (hfail.symm.trans hfail')
    | cons entry between =>
      obtain ⟨rfl, -⟩ := List.cons.inj hrest
      exact (hleft (name', t') (by simp) ⟨other, hfail'⟩).elim

end

namespace StepRegistry

end StepRegistry

namespace Request

variable {q : Request H} {typeOf : Text → FieldType Value}

end Request

end Phrasebook
