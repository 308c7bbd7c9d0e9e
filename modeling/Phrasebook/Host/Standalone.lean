import Phrasebook.Host.Basic

/-!
# The standalone host

Keeps its own types and steps and finds the step of a text itself: steps are tried in the order of
their definition, and the first that takes the text is it. A conversion that fails ends the search.
-/

namespace Phrasebook

def Value.ofCapture : Option Text → Value
  | .some t => .text t
  | .none => .none

structure StandaloneStep (H : Type) where
  expression : Text
  template : Template Value
  handler : H

def StandaloneStep.read {H : Type} (step : StandaloneStep H) (text : Text) :
    Except Failure (Option (List Value)) :=
  (step.template.read Value.ofCapture text).map (·.map (·.map (·.value)))

/-- Types and steps of its own. -/
structure Standalone (H : Type) where
  types : Table ParameterType
  /-- The field types by type name, the built-in ones first. -/
  converters : Table (FieldType Value)
  steps : List (StandaloneStep H)

namespace Standalone

variable {H : Type}

/-- Only the built-in placeholders are known. -/
def empty : Standalone H := ⟨[], builtInTypes, []⟩

/-- Defines a parameter type under a name that is neither built in nor taken. The type is stored
before its type name is made, which cannot fail for a text. A name with a lone surrogate cannot be
encoded; it would have no type name, and would leave its type in the first table alone. -/
def defineType (t : ParameterType) (h : Standalone H) : Except Failure (Standalone H) :=
  if isBuiltIn t.name || h.types.has t.name then .error (.typeTaken t.name)
  else
    .ok { h with
      types := h.types ++ [(t.name, t)]
      converters := h.converters.put (TypeName.ofName t.name) t.fieldType }

def fieldType (h : Standalone H) (type : Text) : FieldType Value :=
  (h.converters.find? type).getD .anything

/-- The step of an expression, as the types stand now. -/
def stepOf (h : Standalone H) (expression : Text) (handler : H) :
    Except Failure (StandaloneStep H) :=
  (Format.ofExpression h.converters.has expression).map fun format =>
    ⟨expression, .ofFormat h.fieldType format, handler⟩

instance : StepHost (Standalone H) H where
  defineType := defineType
  defineStep expression handler h :=
    (h.stepOf expression handler).map fun step =>
      ({ h with steps := h.steps ++ [step] }, [.stepDefined expression step.template.format])

def firstOf (text : Text) :
    List (StandaloneStep H) → Except Failure (Option (StandaloneStep H × List Value))
  | [] => .ok none
  | step :: rest =>
    match step.read text with
    | .error failure => .error failure
    | .ok (some values) => .ok (some (step, values))
    | .ok none => firstOf text rest

def find (h : Standalone H) (text : Text) :
    Except Failure (Option (StandaloneStep H × List Value)) := firstOf text h.steps

/-- The handler of the step that takes a text, and the values that it is called with. -/
def call (h : Standalone H) (text : Text) : Except Failure (H × List Value) :=
  (h.find text).bind fun
    | some (step, values) => .ok (step.handler, values)
    | none => .error (.stepUndefined text)

/-- Runs the step that takes a text: what its handler gives, called once. -/
def run {β : Type} (h : Standalone (List Value → β)) (text : Text) : Except Failure β :=
  (h.call text).map fun (handler, values) => handler values

end Standalone

end Phrasebook
