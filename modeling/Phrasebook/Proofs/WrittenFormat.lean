import Phrasebook.Failure
import Phrasebook.Proofs.Format
import Phrasebook.Proofs.Phrase.Renaming

/-!
# What a written format says

The format of an expression is written from one placeholder to the next, each looked for in what the
one before it has left. There is no format if the type of a placeholder is not known, and the first
such placeholder is to blame. Otherwise the format says what the expression says: taken apart, it has
the same characters, and a field of the right type in the place of each placeholder, however the
braces of the expression lie.
-/

namespace Phrasebook

/-- What a part of a format stands for: a character of the text, or the name and the type of a
field. -/
def FormatPart.sense : FormatPart → Char ⊕ (Text × Text)
  | plain c => .inl c
  | brace true => .inl '{'
  | brace false => .inl '}'
  | field name type => .inr (name, type)

namespace Format

/-- What a piece of an expression stands for in a format: a placeholder has a type but no name. -/
def senseOf : Phrase.Piece → Char ⊕ (Text × Text)
  | .plain c => .inl c
  | .hole name => .inr ([], TypeName.ofName name)

theorem sense_partOf (p : Phrase.Piece) : (partOf p).sense = senseOf p := by
  cases p with
  | hole name => rfl
  | plain c =>
    by_cases ho : c = '{'
    · simp [partOf, ho, FormatPart.sense, senseOf]
    · by_cases hc : c = '}'
      · simp [partOf, hc, FormatPart.sense, senseOf]
      · simp [partOf, ho, hc, FormatPart.sense, senseOf]

/-- The format of what is left of an expression, with each placeholder looked for where the one
before it has ended. There is none if a placeholder is not to be found. -/
def search (known : Text → Bool) (expression : Text) :
    Text → List (Text × Text) → Option (Except Failure Text)
  | rest, [] => some (.ok (rest.flatMap escaped))
  | rest, (braced, name) :: found =>
    match Text.cut? braced rest with
    | none => none
    | some (before, after) =>
      let type := TypeName.ofName name
      if known type then
        (search known expression after found).map
          (Except.map (before.flatMap escaped ++ typedField type ++ ·))
      else some (.error (.typeUndefined name expression))

/-- What every search passes over is escaped. -/
theorem search_append {known : Text → Bool} {expression w rest : Text} {found : List (Text × Text)}
    (hpass : ∀ braced name, (braced, name) ∈ found → Text.cut? braced (w ++ rest) =
      (Text.cut? braced rest).map fun cut => (w ++ cut.1, cut.2)) :
    search known expression (w ++ rest) found =
      (search known expression rest found).map (Except.map (w.flatMap escaped ++ ·)) := by
  cases found with
  | nil => simp [search, Except.map]
  | cons first found =>
    obtain ⟨braced, name⟩ := first
    rw [search, search, hpass braced name (by simp)]
    cases Text.cut? braced rest with
    | none => rfl
    | some cut =>
      obtain ⟨before, after⟩ := cut
      by_cases hk : known (TypeName.ofName name) = true
      · simp only [hk, if_true, Option.map_some]
        cases search known expression after found with
        | none => rfl
        | some result =>
          cases result with
          | error failure => rfl
          | ok written => simp [Except.map]
      · simp [hk, Except.map]

/-- Where a placeholder stands next, it is found. -/
theorem search_hole (known : Text → Bool) (expression name rest : Text)
    (found : List (Text × Text)) :
    search known expression (Phrase.braced name ++ rest) ((Phrase.braced name, name) :: found) =
      if known (TypeName.ofName name) then
        (search known expression rest found).map
          (Except.map (typedField (TypeName.ofName name) ++ ·))
      else some (.error (.typeUndefined name expression)) := by
  rw [search, Phrase.cut?_self]
  rfl

theorem search_ofPieces (known : Text → Bool) (expression : Text) {ps : List Phrase.Piece}
    (hs : Phrase.Settled ps) :
    search known expression (Phrase.ofPieces ps)
        ((Phrase.namesIn ps).map fun name => (Phrase.braced name, name)) =
      some (ofPieces known expression ps) := by
  induction ps with
  | nil => rfl
  | cons p ps ih =>
    rw [Phrase.ofPieces_cons]
    cases p with
    | plain c =>
      have hpass : ∀ braced name,
          (braced, name) ∈ (Phrase.namesIn ps).map (fun name => (Phrase.braced name, name)) →
          Text.cut? braced ([c] ++ Phrase.ofPieces ps) =
            (Text.cut? braced (Phrase.ofPieces ps)).map fun cut => ([c] ++ cut.1, cut.2) := by
        intro braced name hm
        obtain ⟨other, ho, he⟩ := List.mem_map.mp hm
        obtain ⟨rfl, rfl⟩ := Prod.mk.inj he
        exact Phrase.cut?_plain (Phrase.isName_of_mem_namesIn hs.2 ho) hs
      rw [Phrase.namesIn_plain, Phrase.Piece.written, search_append hpass, ih hs.2]
      simp [ofPieces, ofPiece]
    | hole name =>
      rw [Phrase.namesIn_hole, List.map_cons, Phrase.Piece.written, search_hole, ih hs.2]
      by_cases hk : known (TypeName.ofName name) = true
      · simp [ofPieces, ofPiece, hk]
      · simp [ofPieces, ofPiece, hk]

def unknown (known : Text → Bool) (name : Text) : Bool := !known (TypeName.ofName name)

/-- The first placeholder whose type is not known decides. -/
theorem ofPieces_find? (known : Text → Bool) (expression : Text) (ps : List Phrase.Piece) :
    ofPieces known expression ps =
      match (Phrase.namesIn ps).find? (unknown known) with
      | some name => .error (.typeUndefined name expression)
      | none => .ok (ps.flatMap written) := by
  induction ps with
  | nil => rfl
  | cons p ps ih =>
    cases p with
    | plain c =>
      rw [Phrase.namesIn_plain, ofPieces, ofPiece, ih]
      cases (Phrase.namesIn ps).find? (unknown known) with
      | none => rfl
      | some name => rfl
    | hole name =>
      rw [Phrase.namesIn_hole, List.find?_cons, ofPieces, ofPiece, ih]
      by_cases hk : known (TypeName.ofName name) = true
      · cases (Phrase.namesIn ps).find? (unknown known) with
        | none => simp [unknown, hk, Except.map, written]
        | some other => simp [unknown, hk, Except.map]
      · simp [unknown, hk]

/-- There is no format just if a type is not known, and the first one that is not is to blame. -/
theorem ofPieces_eq_error_iff {known : Text → Bool} {expression : Text} {ps : List Phrase.Piece}
    {failure : Failure} :
    ofPieces known expression ps = .error failure ↔
      ∃ earlier name later, Phrase.namesIn ps = earlier ++ name :: later ∧
        (∀ other ∈ earlier, known (TypeName.ofName other) = true) ∧
        known (TypeName.ofName name) = false ∧ failure = .typeUndefined name expression := by
  constructor
  · intro h
    rw [ofPieces_find?] at h
    cases hfind : (Phrase.namesIn ps).find? (unknown known) with
    | none =>
      rw [hfind] at h
      cases h
    | some name =>
      rw [hfind] at h
      cases h
      obtain ⟨hk, earlier, later, hn, he⟩ := List.find?_eq_some_iff_append.mp hfind
      exact ⟨earlier, name, later, hn, by simpa [unknown] using he, by simpa [unknown] using hk, rfl⟩
  · rintro ⟨earlier, name, later, hn, he, hk, rfl⟩
    have hfind : (Phrase.namesIn ps).find? (unknown known) = some name :=
      List.find?_eq_some_iff_append.mpr
        ⟨by simp [unknown, hk], earlier, later, hn, by simpa [unknown] using he⟩
    rw [ofPieces_find?, hfind]

/-- The format of an expression is what the search from placeholder to placeholder gives, which finds
all of them. It fails just if the type of some placeholder is not known, and names the first of
these. Otherwise its parts are, in order, the characters of the expression outside placeholders, and
for each placeholder a field that has only a type, that of the name. -/
theorem ofExpression_reads_back (known : Text → Bool) (expression : Text) :
    search known expression expression (Phrase.findBraced expression) =
        some (ofExpression known expression) ∧
      (∀ failure, ofExpression known expression = .error failure ↔
        ∃ earlier name later, Phrase.names expression = earlier ++ name :: later ∧
          (∀ other ∈ earlier, known (TypeName.ofName other) = true) ∧
          known (TypeName.ofName name) = false ∧
          failure = .typeUndefined name expression ∧ failure.label = "ValueError".toList) ∧
      ((∀ name ∈ Phrase.names expression, known (TypeName.ofName name) = true) →
        ∃ format, ofExpression known expression = .ok format ∧
          (parts format).map FormatPart.sense = (Phrase.pieces expression).map senseOf) := by
  have hnames : Phrase.names expression = Phrase.namesIn (Phrase.pieces expression) := rfl
  apply And.intro
  · have h := search_ofPieces known expression (Phrase.settled_pieces expression)
    rwa [Phrase.ofPieces_pieces] at h
  · apply And.intro
    · intro failure
      rw [hnames, ofExpression, ofPieces_eq_error_iff]
      constructor
      · rintro ⟨earlier, name, later, hn, he, hk, rfl⟩
        exact ⟨earlier, name, later, hn, he, hk, rfl, rfl⟩
      · rintro ⟨earlier, name, later, hn, he, hk, hf, -⟩
        exact ⟨earlier, name, later, hn, he, hk, hf⟩
    · intro hk
      have hparts : (parts ((Phrase.pieces expression).flatMap written)).map FormatPart.sense =
          (Phrase.pieces expression).map senseOf := by
        rw [parts_written, List.map_map]
        exact List.map_congr_left fun p _ => sense_partOf p
      exact ⟨_, ofPieces_eq hk, hparts⟩

/-- An expression in which placeholders stand in doubled braces, next to braces around what is no
name, and after a brace that is not closed. -/
def tangledExpression : Text :=
  ['{', '{', 'a', '}', '}', '{', 'b', '.', 'c', '}', '{', 'a', '{', 'i', 'n', 't', '}', '}', '{']

def tangledTypes : List Text := [['a'], TypeName.ofBuiltIn .int]

/-- Its format has up to three braces in a row, and says the same. -/
theorem ofExpression_reads_back_tangled :
    (∀ name ∈ Phrase.names tangledExpression, tangledTypes.contains (TypeName.ofName name) = true) ∧
      ∃ format, ofExpression tangledTypes.contains tangledExpression = .ok format ∧
        format = ['{', '{'] ++ typedField ['a'] ++ ['}', '}', '{', '{', 'b', '.', 'c', '}', '}'] ++
          ['{', '{', 'a'] ++ typedField (TypeName.ofBuiltIn .int) ++ ['}', '}', '{', '{'] ∧
        (parts format).map FormatPart.sense = (Phrase.pieces tangledExpression).map senseOf := by
  have hk : ∀ name ∈ Phrase.names tangledExpression,
      tangledTypes.contains (TypeName.ofName name) = true := by decide
  obtain ⟨format, hok, hparts⟩ :=
    (ofExpression_reads_back tangledTypes.contains tangledExpression).2.2 hk
  have hformat : ofExpression tangledTypes.contains tangledExpression =
      .ok ((Phrase.pieces tangledExpression).flatMap written) := ofPieces_eq hk
  cases hok.symm.trans hformat
  exact ⟨hk, _, hok, by decide, hparts⟩

end Format

end Phrasebook
