import Phrasebook.ParameterType
import Phrasebook.Proofs.Decoder
import Phrasebook.Proofs.Pattern.Generated

/-!
# Written choices

A placeholder of declared texts knows them twice: its pattern spells them out, with all that means
something in a pattern escaped, and its conversion looks a text up among them. Both accept exactly
the declared texts, whatever characters these hold.
-/

namespace Phrasebook

/-- The pattern of declared texts is a pattern without groups, and takes exactly these texts. -/
theorem Pattern.exists_read_alternation {values : List Text} (h : values ≠ []) (flags : Flags)
    [flags.Exact] :
    ∃ p, read flags (alternation values) = .ok (p, 0) ∧ ∀ t, p.takes t = true ↔ t ∈ values := by
  have hfirm : Firm flags (alternation values) [valuesItem values] := Firm.alternation h
  have hplain : (row [valuesItem values]).Plain := ⟨plain_valuesItem values, trivial⟩
  refine ⟨row [valuesItem values], hfirm.reads.read_eq, fun t => ?_⟩
  rw [takes_iff_spells hplain, spells_row_singleton, spells_valuesItem h]

/-- A decoder of declared texts gives back the text if it is declared. -/
theorem Decoder.decode_choice_text (choices : Choices) (t : Text) :
    (choice choices).decode (.text t) =
      if t ∈ choices.values then .ok (.text t)
      else .error (.undecodable [.undeclared none choices (.text t)]) := by
  by_cases ht : t ∈ choices.values
  · simp [decode, check, declares, ht]
  · simp [decode, check, declares, ht]

namespace Definition

/-- One or more declared texts make a definition, whatever they are. Its pattern has no groups and
takes exactly the declared texts, however line ends are dealt with; and its conversion gives back
exactly these and refuses all other texts. -/
theorem sum_agrees (first : Text) (others : List Text) (name : Text) :
    ∃ definition type decoder, ofSum (first :: others) = .ok definition ∧
      definition.compile name = .ok (type, decoder) ∧
      type.pattern = Pattern.alternation (first :: others) ∧
      (∀ multiline dotAll, ∃ p,
        Pattern.read ⟨false, multiline, dotAll, false, false⟩ type.pattern = .ok (p, 0) ∧
          ∀ t, p.takes t = true ↔ t ∈ first :: others) ∧
      ∀ t, type.transform (.text t) =
        if t ∈ first :: others then .ok (.text t)
        else .error (.undecodable [.undeclared none ⟨first, others⟩ (.text t)]) := by
  refine ⟨sum ⟨first, others⟩, _, _, rfl, rfl, rfl, ?_, ?_⟩
  · intro multiline dotAll
    exact Pattern.exists_read_alternation (List.cons_ne_nil first others) _
  · exact Decoder.decode_choice_text ⟨first, others⟩

end Definition

end Phrasebook
