import Phrasebook.Event
import Phrasebook.ParameterType
import Phrasebook.Table
import Phrasebook.Template

/-!
# Hosts

A host keeps parameter types and steps. Defining either may fail, and then the host is as before.
Hosts differ in what they do with a step, so what a step's handler is, is left open. The recorder
keeps all that it is told, in order, and refuses nothing.
-/

namespace Phrasebook

/-- A store of parameter types and of steps with handlers of type `H`. -/
class StepHost (σ : Type) (H : outParam Type) where
  defineType : ParameterType → σ → Except Failure σ
  /-- Defines a step by its expression, and reports what has been done. -/
  defineStep : Text → H → σ → Except Failure (σ × List Event)

/-- The type of a field without a type: any text but the empty one, as little as possible. -/
def FieldType.anything {α : Type} : FieldType α := ⟨".+?".toList, none, .ok⟩

def BuiltIn.fieldType (b : BuiltIn) : FieldType Value := ⟨b.pattern, none, b.convert⟩

/-- The pattern of a parameter type in a group of its own. -/
def ParameterType.grouped (t : ParameterType) : Text := "(?:".toList ++ t.pattern ++ [')']

def ParameterType.fieldType (t : ParameterType) : FieldType Value :=
  ⟨t.grouped, t.groups, t.transform⟩

def builtInTypes : Table (FieldType Value) :=
  BuiltIn.all.map fun b => (TypeName.ofBuiltIn b, b.fieldType)

/-- The parameter types and steps that were defined, in order. -/
structure Recorder (H : Type) where
  types : List ParameterType
  steps : List (Text × H)

namespace Recorder

variable {H : Type}

def empty : Recorder H := ⟨[], []⟩

def defineType (t : ParameterType) (r : Recorder H) : Recorder H :=
  { r with types := r.types ++ [t] }

def defineStep (expression : Text) (handler : H) (r : Recorder H) : Recorder H :=
  { r with steps := r.steps ++ [(expression, handler)] }

instance : StepHost (Recorder H) H where
  defineType t r := .ok (r.defineType t)
  defineStep expression handler r := .ok (r.defineStep expression handler, [])

def type? (r : Recorder H) (name : Text) : Option ParameterType := r.types.find? (·.name = name)

end Recorder

end Phrasebook
