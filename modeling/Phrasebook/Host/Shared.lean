import Phrasebook.Host.Basic

/-!
# Hosts of a shared registry

Several hosts hand their types and steps to one registry. The registry looks for the step of a text
outside any step, where a failure would not be reported as the step's own; so a failing conversion
leaves the failure in place of the value, and running the step raises it.

A step whose pattern is no pattern, or whose conversions fail on the empty text, is set aside. A
step with the format of an earlier one is dropped, and one whose format an earlier step takes for a
step text is refused.

The arguments of a match are in the order of the places where their groups begin. Sorting by
insertion keeps those that begin in one place in the order as they are.
-/

namespace Phrasebook

namespace Sorting

variable {α : Type}

/-- An element put before the first one that it may precede. -/
def insert (le : α → α → Bool) (x : α) : List α → List α
  | [] => [x]
  | y :: rest => if le x y then x :: y :: rest else y :: insert le x rest

def sort (le : α → α → Bool) (xs : List α) : List α := xs.foldr (insert le) []

@[simp] theorem sort_nil (le : α → α → Bool) : sort le [] = [] := rfl

@[simp] theorem sort_cons (le : α → α → Bool) (x : α) (rest : List α) :
    sort le (x :: rest) = insert le x (sort le rest) := rfl

theorem insert_eq_cons {le : α → α → Bool} {x : α} {xs : List α} (h : ∀ y ∈ xs, le x y = true) :
    insert le x xs = x :: xs := by
  cases xs with
  | nil => rfl
  | cons y rest => simp [insert, h y (by simp)]

/-- A list that is in order stays as it is. -/
theorem sort_eq_self {le : α → α → Bool} {xs : List α}
    (h : xs.Pairwise fun x y => le x y = true) : sort le xs = xs := by
  induction h with
  | nil => rfl
  | cons hx _ ih => rw [sort_cons, ih, insert_eq_cons hx]

end Sorting

/-- A converted value, or the failure to convert that stands in its place. -/
inductive Argument where
  | value (value : Value)
  | failed (failure : Failure)

namespace Argument

def seen : Argument → Value
  | value v => v
  | failed failure => failure.held

def ofCapture : Option Text → Argument
  | some t => .value (.text t)
  | none => .value .none

/-- A conversion whose failure is a failure of the match. -/
def raising (convert : Convert) (old : Argument) : Except Failure Argument :=
  (convert old.seen).map value

/-- A conversion whose failure takes the place of the value. -/
def deferring (convert : Convert) (old : Argument) : Except Failure Argument :=
  match convert old.seen with
  | .ok new => .ok (value new)
  | .error failure => .ok (failed failure)

/-- The value of an argument. A value that stands for a failure raises it, whoever put it there. -/
def settle : Argument → Except Failure Value
  | value v => v.settle
  | failed failure => .error failure

def values : List Argument → Except Failure (List Value)
  | [] => .ok []
  | argument :: rest =>
    match argument.settle with
    | .error failure => .error failure
    | .ok v => (values rest).map (v :: ·)

end Argument

structure SharedStep (H : Type) where
  template : Template Argument
  handler : H

def SharedStep.read {H : Type} (step : SharedStep H) (text : Text) :
    Except Failure (Option (List (Reading Argument))) :=
  step.template.read Argument.ofCapture text

/-- What all hosts have handed on. -/
structure StepRegistry (H : Type) where
  types : Table (FieldType Argument)
  steps : List (SharedStep H)
  /-- The formats of the steps that were set aside. -/
  bad : List Text

namespace StepRegistry

variable {H : Type}

def empty : StepRegistry H := ⟨[], [], []⟩

def putType (r : StepRegistry H) (name : Text) (type : FieldType Argument) : StepRegistry H :=
  { r with types := r.types.put name type }

def putBuiltIns (r : StepRegistry H) : StepRegistry H :=
  builtInTypes.foldl (fun r (name, type) =>
    r.putType name { type with convert := Argument.raising type.convert }) r

def fieldType (r : StepRegistry H) (type : Text) : FieldType Argument :=
  (r.types.find? type).getD .anything

inductive Verdict where
  | fresh
  | known
  | ambiguous
  deriving DecidableEq

/-- The first of the earlier steps that has the format, or takes it for a step text, decides. This
is how the step registry of the package `behave`, version 1.3.3, finds known and ambiguous steps, all
steps being defined at one place of the source. -/
def verdict (format : Text) : List (SharedStep H) → Verdict
  | [] => .fresh
  | step :: rest =>
    if step.template.format = format then .known
    else
      match step.read format with
      | .ok (some _) => .ambiguous
      | _ => verdict format rest

/-- Adds a step after all others, unless it is set aside, dropped or refused. `behave` 1.3.3 tries a
new step on the empty text first, and sets it aside if that fails for whatever reason. -/
def addStep (r : StepRegistry H) (step : SharedStep H) : Except Failure (StepRegistry H) :=
  match step.read [] with
  | .error _ => .ok { r with bad := r.bad ++ [step.template.format] }
  | .ok _ =>
    match verdict step.template.format r.steps with
    | .fresh => .ok { r with steps := r.steps ++ [step] }
    | .known => .ok r
    | .ambiguous => .error .stepAmbiguous

inductive Found (H : Type) where
  | nothing
  | step (step : SharedStep H) (readings : List (Reading Argument))
  /-- A step takes the text, but a built-in conversion fails. -/
  | unreadable (failure : Failure)

/-- The readings in the order in which their groups begin, as `behave` 1.3.3 hands them over. -/
def inOrder (readings : List (Reading Argument)) : List (Reading Argument) :=
  Sorting.sort (fun a b => a.start ≤ b.start) readings

def firstOf (text : Text) : List (SharedStep H) → Found H
  | [] => .nothing
  | step :: rest =>
    match step.read text with
    | .error failure => .unreadable failure
    | .ok (some readings) => .step step (inOrder readings)
    | .ok none => firstOf text rest

def find (r : StepRegistry H) (text : Text) : Found H := firstOf text r.steps

end StepRegistry

/-- A host that hands everything on to the registry. -/
structure SharedHost (H : Type) where
  registry : StepRegistry H
  /-- The type names that this host knows of. -/
  known : List Text

namespace SharedHost

variable {H : Type}

def on (r : StepRegistry H) : SharedHost H := ⟨r.putBuiltIns, builtInTypes.names⟩

def defineType (t : ParameterType) (h : SharedHost H) : SharedHost H :=
  let name := TypeName.ofName t.name
  { registry := h.registry.putType name ⟨t.grouped, t.groups, Argument.deferring t.transform⟩
    known := if h.known.contains name then h.known else h.known ++ [name] }

def defineStep (expression : Text) (handler : H) (h : SharedHost H) :
    Except Failure (SharedHost H × List Event) :=
  match Format.ofExpression h.known.contains expression with
  | .error failure => .error failure
  | .ok format =>
    (h.registry.addStep ⟨.ofFormat h.registry.fieldType format, handler⟩).map fun registry =>
      ({ h with registry }, [.sharedStepDefined expression format])

instance : StepHost (SharedHost H) H where
  defineType t h := .ok (h.defineType t)
  defineStep := defineStep

/-- The handler of the step of a text and the values it is called with, behind the context of the
run, if there is a step. An argument that could not be converted stops the run before the call. -/
def call (h : SharedHost H) (text : Text) : Except Failure (Option (H × List Value)) :=
  match h.registry.find text with
  | .nothing => .ok none
  | .unreadable failure => .error (.stepUnreadable failure.message)
  | .step step readings =>
    (Argument.values (readings.map (·.value))).map fun values => some (step.handler, values)

end SharedHost

end Phrasebook
