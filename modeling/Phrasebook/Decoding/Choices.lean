import Phrasebook.Text.Quoted

/-!
# Declared values

A sum or list placeholder declares the texts it accepts. There is at least one, which the type says
by keeping the first apart.
-/

namespace Phrasebook

/-- One or more declared texts, in the order of declaration. -/
structure Choices where
  first : Text
  others : List Text
  deriving DecidableEq

namespace Choices

def values (c : Choices) : List Text := c.first :: c.others

def ofList? : List Text → Option Choices
  | [] => none
  | first :: others => some ⟨first, others⟩

theorem values_ne_nil (c : Choices) : c.values ≠ [] := by simp [values]

/-- The texts without repetitions, each where it stands first. -/
def distinct : List Text → List Text
  | [] => []
  | t :: rest => t :: (distinct rest).filter (· ≠ t)

/-- Words joined by commas, the last by "or". -/
def alternatives : List Text → Text
  | [] => []
  | [last] => last
  | [next, last] => next ++ " or ".toList ++ last
  | next :: rest => next ++ ", ".toList ++ alternatives rest

def expected (c : Choices) : Text := alternatives ((distinct c.values).map Text.quoted)

end Choices

end Phrasebook
