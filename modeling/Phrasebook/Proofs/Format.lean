import Phrasebook.Format
import Phrasebook.Proofs.TypeName

/-!
# The parts of a written format

A format that is written for an expression is taken apart piece by piece: each brace of the text
comes back as a doubled brace, and each placeholder as a field that has only a type.
-/

namespace Phrasebook

namespace Format

def written : Phrase.Piece → Text
  | .plain c => escaped c
  | .hole name => typedField (TypeName.ofName name)

def partOf : Phrase.Piece → FormatPart
  | .plain c => if c = '{' then .brace true else if c = '}' then .brace false else .plain c
  | .hole name => .field [] (TypeName.ofName name)

theorem ofPieces_eq {known : Text → Bool} {expression : Text} {ps : List Phrase.Piece}
    (h : ∀ name ∈ Phrase.namesIn ps, known (TypeName.ofName name) = true) :
    ofPieces known expression ps = .ok (ps.flatMap written) := by
  induction ps with
  | nil => rfl
  | cons p ps ih =>
    cases p with
    | plain c =>
      rw [ofPieces, ofPiece, ih h]
      rfl
    | hole name =>
      have hk : known (TypeName.ofName name) = true := h name (by simp)
      have hrest := ih fun n hn => h n (by simp [hn])
      rw [ofPieces, ofPiece, hrest]
      simp [hk, Except.map, written]

/-- A format is only written if all types of the expression are known. -/
theorem known_of_ofPieces {known : Text → Bool} {expression format : Text}
    {ps : List Phrase.Piece} (h : ofPieces known expression ps = .ok format) :
    ∀ name ∈ Phrase.namesIn ps, known (TypeName.ofName name) = true := by
  induction ps generalizing format with
  | nil => simp
  | cons p ps ih =>
    rw [ofPieces] at h
    split at h
    · cases h
    · next written hw =>
      cases hr : ofPieces known expression ps with
      | error failure =>
        rw [hr] at h
        cases h
      | ok rest =>
        cases p with
        | plain c => exact ih hr
        | hole name =>
          have hk : known (TypeName.ofName name) = true := by
            by_contra hn
            simp [ofPiece, hn] at hw
          simpa [hk] using ih hr

theorem partsFrom_field {inside w : Text} (h : ∀ c ∈ w, c ≠ '}') (rest : Text) :
    partsFrom (some inside) (w ++ '}' :: rest) =
      fieldOf (inside.reverse ++ w) :: partsFrom none rest := by
  induction w generalizing inside with
  | nil => simp [partsFrom]
  | cons c w ih =>
    have hc : c ≠ '}' := h c (by simp)
    rw [List.cons_append, partsFrom, if_neg hc, ih fun d hd => h d (by simp [hd])]
    simp

theorem fieldOf_type (type : Text) : fieldOf (':' :: type) = .field [] type := by
  simp [fieldOf]

theorem partsFrom_typedField {type : Text} (h : ∀ c ∈ type, c ≠ '}') (rest : Text) :
    partsFrom none (typedField type ++ rest) = .field [] type :: partsFrom none rest := by
  have hw : typedField type ++ rest = '{' :: ((':' :: type) ++ '}' :: rest) := by simp [typedField]
  have hopen : partsFrom none ('{' :: ((':' :: type) ++ '}' :: rest)) =
      partsFrom (some []) ((':' :: type) ++ '}' :: rest) := by simp [partsFrom]
  have hchars : ∀ c ∈ ':' :: type, c ≠ '}' := by
    intro c hc
    cases List.mem_cons.mp hc with
    | inl he => simp [he]
    | inr ht => exact h c ht
  rw [hw, hopen, partsFrom_field hchars, List.reverse_nil, List.nil_append, fieldOf_type]

theorem partsFrom_escaped (c : Char) (rest : Text) :
    partsFrom none (escaped c ++ rest) = partOf (.plain c) :: partsFrom none rest := by
  by_cases ho : c = '{'
  · subst ho
    rfl
  · by_cases hc : c = '}'
    · subst hc
      rfl
    · have hw : escaped c = [c] := by simp [escaped, ho, hc]
      rw [hw, List.singleton_append, partsFrom, partOf, if_neg ho, if_neg hc]
      · exact fun r he => absurd he ho
      · exact fun r he => absurd he hc
      · exact fun he => absurd he ho

theorem ne_closing_of_mem_ofName {name : Text} {c : Char} (h : c ∈ TypeName.ofName name) : c ≠ '}' := by
  rintro rfl
  exact absurd (TypeName.isAsciiWord_ofName h) (by decide)

/-- A format is taken apart into the parts that it was written for. -/
theorem parts_written (ps : List Phrase.Piece) : parts (ps.flatMap written) = ps.map partOf := by
  induction ps with
  | nil => rfl
  | cons p ps ih =>
    rw [parts] at ih ⊢
    rw [List.flatMap_cons, List.map_cons, ← ih]
    cases p with
    | plain c => exact partsFrom_escaped c _
    | hole name => exact partsFrom_typedField (fun c hc => ne_closing_of_mem_ofName hc) _

/-- The fields of a written format are those of the placeholders. -/
theorem field_mem_parts_written {ps : List Phrase.Piece} {name type : Text} :
    .field name type ∈ parts (ps.flatMap written) ↔
      name = [] ∧ ∃ other, other ∈ Phrase.namesIn ps ∧ type = TypeName.ofName other := by
  rw [parts_written, List.mem_map]
  constructor
  · rintro ⟨p, hp, he⟩
    cases p with
    | plain c =>
      rw [partOf] at he
      split at he
      · cases he
      · split at he
        · cases he
        · cases he
    | hole other =>
      cases he
      exact ⟨rfl, other, List.mem_filterMap.mpr ⟨_, hp, rfl⟩, rfl⟩
  · rintro ⟨rfl, other, ho, rfl⟩
    obtain ⟨p, hp, hn⟩ := List.mem_filterMap.mp ho
    cases p with
    | plain c => cases hn
    | hole another =>
      cases hn
      exact ⟨_, hp, rfl⟩

end Format

end Phrasebook
