import Phrasebook.Phrase

/-!
# Settled pieces

Pieces are settled if taking apart what they write gives the same pieces again: no opening brace
stands in front of a name and a closing brace, and names hold no character that may not stand in
one. The pieces of a phrase are settled, and stay so when placeholders get other names. A phrase that
is read from left to right has the same pieces.
-/

namespace Phrasebook

namespace Phrase

/-- No character that may not stand in a placeholder name. -/
def IsName (name : Text) : Prop := ∀ c ∈ name, isNameChar c = true

instance (name : Text) : Decidable (IsName name) :=
  decidable_of_iff (name.all isNameChar = true) List.all_eq_true

theorem IsName.append {name more : Text} (h : IsName name) (h' : IsName more) :
    IsName (name ++ more) := by
  intro c hc
  cases List.mem_append.mp hc with
  | inl hc => exact h c hc
  | inr hc => exact h' c hc

theorem isName_cons {c : Char} {name : Text} :
    IsName (c :: name) ↔ isNameChar c = true ∧ IsName name := by
  simp [IsName]

theorem ne_opening_of_isNameChar {c : Char} (h : isNameChar c = true) : c ≠ '{' := by
  rintro rfl
  cases h

theorem ne_closing_of_isNameChar {c : Char} (h : isNameChar c = true) : c ≠ '}' := by
  rintro rfl
  cases h

theorem isName_of_closing? {ps rest : List Piece} {name : Text}
    (h : closing? ps = some (name, rest)) : IsName name := by
  induction ps generalizing name with
  | nil => cases h
  | cons p ps ih =>
    cases p with
    | hole n => cases h
    | plain c =>
      simp only [closing?] at h
      split at h
      · cases h
        intro c hc
        cases hc
      · split at h
        · next hc =>
          obtain ⟨⟨n, r⟩, hn, heq⟩ := Option.map_eq_some_iff.mp h
          cases heq
          exact isName_cons.mpr ⟨hc, ih hn⟩
        · cases h

/-- Nothing that would be read otherwise when written. -/
def Settled : List Piece → Prop
  | [] => True
  | .plain c :: rest => (c = '{' → closing? rest = none) ∧ Settled rest
  | .hole name :: rest => IsName name ∧ Settled rest

theorem settled_of_closing? {ps rest : List Piece} {name : Text} (hs : Settled ps)
    (h : closing? ps = some (name, rest)) : Settled rest := by
  induction ps generalizing name with
  | nil => cases h
  | cons p ps ih =>
    cases p with
    | hole n => cases h
    | plain c =>
      simp only [closing?] at h
      split at h
      · cases h
        exact hs.2
      · split at h
        · obtain ⟨⟨n, r⟩, hn, heq⟩ := Option.map_eq_some_iff.mp h
          cases heq
          exact ih hs.2 hn
        · cases h

theorem settled_attach {rest : List Piece} (h : Settled rest) (c : Char) :
    Settled (attach c rest) := by
  unfold attach
  split
  · split
    · next hc => exact ⟨isName_of_closing? hc, settled_of_closing? h hc⟩
    · next hc => exact ⟨fun _ => hc, h⟩
  · next hc => exact ⟨fun he => absurd he hc, h⟩

/-- The pieces of a phrase are settled. -/
theorem settled_pieces (phrase : Text) : Settled (pieces phrase) := by
  induction phrase with
  | nil => trivial
  | cons c rest ih => exact settled_attach ih c

/-- Any character but an opening brace stands for itself. -/
theorem pieces_of_ne {c : Char} (h : c ≠ '{') (phrase : Text) :
    pieces (c :: phrase) = .plain c :: pieces phrase := by
  rw [pieces_cons, attach, if_neg h]

/-- A name is read as far as its characters go, and needs a closing brace behind it. -/
theorem closing?_pieces (phrase : Text) :
    closing? (pieces phrase) =
      match phrase.dropWhile isNameChar with
      | '}' :: rest => some (phrase.takeWhile isNameChar, pieces rest)
      | _ => none := by
  induction phrase with
  | nil => rfl
  | cons c phrase ih =>
    by_cases hn : isNameChar c = true
    · have ho := ne_opening_of_isNameChar hn
      have hr := ne_closing_of_isNameChar hn
      rw [pieces_of_ne ho, closing?, if_neg hr, if_pos hn, ih, List.dropWhile_cons_of_pos hn,
        List.takeWhile_cons_of_pos hn]
      split
      · rfl
      · rfl
    · rw [List.dropWhile_cons_of_neg hn, List.takeWhile_cons_of_neg hn]
      by_cases hr : c = '}'
      · simp [hr, attach, closing?]
      · have hnone : closing? (attach c (pieces phrase)) = none := by
          rw [attach]
          split
          · split
            · rfl
            · simp [closing?, hr, hn]
          · simp [closing?, hr, hn]
        rw [pieces_cons, hnone]
        simp [hr]

/-- An opening brace begins a placeholder if a closing one ends the name behind it. Otherwise it
stands for itself. So a phrase can be read from left to right. -/
theorem pieces_opening (phrase : Text) :
    pieces ('{' :: phrase) =
      match phrase.dropWhile isNameChar with
      | '}' :: rest => .hole (phrase.takeWhile isNameChar) :: pieces rest
      | _ => .plain '{' :: pieces phrase := by
  rw [pieces_cons, attach, if_pos rfl, closing?_pieces]
  cases phrase.dropWhile isNameChar with
  | nil => rfl
  | cons c rest =>
    by_cases hc : c = '}'
    · simp [hc]
    · simp [hc]

/-- A name in braces is a placeholder, whatever follows. -/
theorem pieces_braced {name : Text} (h : IsName name) (rest : Text) :
    pieces (braced name ++ rest) = .hole name :: pieces rest := by
  have hw : braced name ++ rest = '{' :: (name ++ '}' :: rest) := by simp [braced]
  have hstop : isNameChar '}' = false := rfl
  rw [hw, pieces_opening, List.dropWhile_append_of_pos h, List.takeWhile_append_of_pos h]
  simp [hstop]

/-- Settled pieces are the pieces of what they write. -/
theorem pieces_ofPieces {ps : List Piece} (h : Settled ps) : pieces (ofPieces ps) = ps := by
  induction ps with
  | nil => rfl
  | cons p ps ih =>
    rw [ofPieces_cons]
    cases p with
    | hole name => rw [Piece.written, pieces_braced h.1, ih h.2]
    | plain c =>
      rw [Piece.written, List.singleton_append, pieces_cons, ih h.2, attach]
      split
      · next hc => rw [h.1 hc]
      · rfl

def namesIn (ps : List Piece) : List Text := ps.filterMap Piece.name?

@[simp] theorem namesIn_nil : namesIn [] = [] := rfl

@[simp] theorem namesIn_plain (c : Char) (ps : List Piece) :
    namesIn (.plain c :: ps) = namesIn ps := rfl

@[simp] theorem namesIn_hole (name : Text) (ps : List Piece) :
    namesIn (.hole name :: ps) = name :: namesIn ps := rfl

theorem namesIn_append (ps rest : List Piece) :
    namesIn (ps ++ rest) = namesIn ps ++ namesIn rest := List.filterMap_append

theorem isName_of_mem_namesIn {ps : List Piece} (h : Settled ps) {name : Text}
    (hn : name ∈ namesIn ps) : IsName name := by
  induction ps with
  | nil => cases hn
  | cons p ps ih =>
    cases p with
    | plain c => exact ih h.2 hn
    | hole other =>
      cases List.mem_cons.mp hn with
      | inl he => exact he ▸ h.1
      | inr hr => exact ih h.2 hr

/-- The pieces with new names, one after another, for the placeholders that need a definition. -/
def relabel : List Piece → List Text → List Piece
  | [], _ => []
  | .plain c :: ps, fresh => .plain c :: relabel ps fresh
  | .hole name :: ps, fresh =>
    if isBuiltIn name then .hole name :: relabel ps fresh
    else
      match fresh with
      | [] => .hole name :: relabel ps []
      | next :: fresh => .hole next :: relabel ps fresh

theorem exists_relabel_hole (name : Text) (ps : List Piece) (fresh : List Text) :
    ∃ other rest, relabel (.hole name :: ps) fresh = .hole other :: rest := by
  cases fresh with
  | nil =>
    rw [relabel]
    split <;> exact ⟨_, _, rfl⟩
  | cons next fresh =>
    rw [relabel]
    split <;> exact ⟨_, _, rfl⟩

theorem closing?_relabel (ps : List Piece) (fresh : List Text) :
    closing? (relabel ps fresh) = (closing? ps).map fun found => (found.1, relabel found.2 fresh) := by
  induction ps with
  | nil => rfl
  | cons p ps ih =>
    cases p with
    | plain c =>
      simp only [relabel, closing?, ih]
      split
      · rfl
      · split
        · simp only [Option.map_map]
          rfl
        · rfl
    | hole name =>
      simp only [relabel]
      split
      · rfl
      · cases fresh <;> rfl

theorem settled_relabel {ps : List Piece} (h : Settled ps) {fresh : List Text}
    (hf : ∀ name ∈ fresh, IsName name) : Settled (relabel ps fresh) := by
  induction ps generalizing fresh with
  | nil => trivial
  | cons p ps ih =>
    cases p with
    | plain c =>
      refine ⟨fun hc => ?_, ih h.2 hf⟩
      rw [closing?_relabel, h.1 hc]
      rfl
    | hole name =>
      simp only [relabel]
      split
      · exact ⟨h.1, ih h.2 hf⟩
      · cases fresh with
        | nil => exact ⟨h.1, ih h.2 hf⟩
        | cons next fresh => exact ⟨hf next (by simp), ih h.2 fun n hn => hf n (by simp [hn])⟩

def fill : List Piece → List Text → Text
  | [], _ => []
  | .plain c :: ps, texts => c :: fill ps texts
  | .hole _ :: ps, [] => fill ps []
  | .hole _ :: ps, t :: texts => t ++ fill ps texts

theorem fill_braced (ps : List Piece) : fill ps ((namesIn ps).map braced) = ofPieces ps := by
  induction ps with
  | nil => rfl
  | cons p ps ih =>
    cases p with
    | plain c => simp [fill, ih, Piece.written]
    | hole name => simp [fill, ih, Piece.written]

/-- A phrase is itself with every placeholder replaced by its name in braces. -/
theorem fill_names (phrase : Text) : fill (pieces phrase) ((names phrase).map braced) = phrase := by
  have hnames : names phrase = namesIn (pieces phrase) := rfl
  rw [hnames, fill_braced, ofPieces_pieces]

end Phrase

end Phrasebook
