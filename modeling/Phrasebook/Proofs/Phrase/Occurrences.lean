import Phrasebook.Proofs.Phrase.Renaming

/-!
# Where placeholders stand

Taking a phrase apart finds each place where a name stands in braces, in order and without overlaps:
no brace before such a place can swallow it, since a name ends at any brace. The names that need a
definition are given once each, in the order in which they are met first.
-/

namespace Phrasebook

namespace Choices

theorem mem_distinct {t : Text} {l : List Text} : t ∈ distinct l ↔ t ∈ l := by
  induction l with
  | nil => rfl
  | cons u l ih =>
    by_cases h : t = u
    · simp [distinct, h]
    · simp [distinct, h, ih]

theorem nodup_distinct (l : List Text) : (distinct l).Nodup := by
  induction l with
  | nil => exact List.nodup_nil
  | cons t l ih =>
    refine List.nodup_cons.mpr ⟨?_, ih.filter _⟩
    simp

end Choices

namespace Phrase

/-- A name in braces begins at a position of a phrase. -/
def StandsAt (phrase : Text) (start : Nat) (name : Text) : Prop :=
  IsName name ∧ ∃ before after, before.length = start ∧ phrase = before ++ braced name ++ after

def placed : Nat → List Piece → List (Nat × Text)
  | _, [] => []
  | start, .plain _ :: ps => placed (start + 1) ps
  | start, .hole name :: ps => (start, name) :: placed (start + (braced name).length) ps

def occurrences (phrase : Text) : List (Nat × Text) := placed 0 (pieces phrase)

theorem names_placed (start : Nat) (ps : List Piece) : (placed start ps).map (·.2) = namesIn ps := by
  induction ps generalizing start with
  | nil => rfl
  | cons p ps ih =>
    cases p with
    | plain c => exact ih (start + 1)
    | hole name => exact congrArg (name :: ·) (ih (start + (braced name).length))

theorem names_occurrences (phrase : Text) : (occurrences phrase).map (·.2) = names phrase :=
  names_placed 0 (pieces phrase)

/-- A placeholder stands behind what the pieces before it write. -/
theorem mem_placed {base start : Nat} {ps : List Piece} {name : Text} :
    (start, name) ∈ placed base ps ↔
      ∃ left right, ps = left ++ .hole name :: right ∧ start = base + (ofPieces left).length := by
  induction ps generalizing base with
  | nil => simp [placed]
  | cons p ps ih =>
    cases p with
    | plain c =>
      rw [placed, ih]
      constructor
      · rintro ⟨left, right, rfl, rfl⟩
        exact ⟨.plain c :: left, right, rfl, by simp [Piece.written]; omega⟩
      · rintro ⟨left, right, he, rfl⟩
        cases left with
        | nil => cases he
        | cons q left =>
          obtain ⟨rfl, rfl⟩ := List.cons.inj he
          exact ⟨left, right, rfl, by simp [Piece.written]; omega⟩
    | hole other =>
      rw [placed, List.mem_cons, ih]
      constructor
      · rintro (he | ⟨left, right, rfl, rfl⟩)
        · cases he
          exact ⟨[], ps, rfl, rfl⟩
        · exact ⟨.hole other :: left, right, rfl, by simp [Piece.written, Nat.add_assoc]⟩
      · rintro ⟨left, right, he, rfl⟩
        cases left with
        | nil =>
          cases he
          exact .inl rfl
        | cons q left =>
          obtain ⟨rfl, rfl⟩ := List.cons.inj he
          exact .inr ⟨left, right, rfl, by simp [Piece.written, Nat.add_assoc]⟩

/-- A placeholder ends before the next one begins. -/
theorem pairwise_placed (base : Nat) (ps : List Piece) :
    (placed base ps).Pairwise fun a b => a.1 + (braced a.2).length ≤ b.1 := by
  induction ps generalizing base with
  | nil => exact .nil
  | cons p ps ih =>
    cases p with
    | plain c => exact ih (base + 1)
    | hole name =>
      refine List.pairwise_cons.mpr ⟨?_, ih (base + (braced name).length)⟩
      rintro ⟨start, other⟩ hm
      obtain ⟨left, -, -, rfl⟩ := mem_placed.mp hm
      exact Nat.le_add_right ..

theorem closing?_append_hole (ps : List Piece) (name : Text) (rest : List Piece) :
    closing? (ps ++ .hole name :: rest) =
      (closing? ps).map fun found => (found.1, found.2 ++ .hole name :: rest) := by
  induction ps with
  | nil => rfl
  | cons p ps ih =>
    cases p with
    | hole other => rfl
    | plain c =>
      simp only [List.cons_append, closing?, ih]
      split
      · rfl
      · split
        · simp [Function.comp_def]
        · rfl

theorem attach_append_hole (c : Char) (ps : List Piece) (name : Text) (rest : List Piece) :
    attach c (ps ++ .hole name :: rest) = attach c ps ++ .hole name :: rest := by
  rw [attach, attach, closing?_append_hole]
  split
  · cases closing? ps with
    | none => rfl
    | some found => rfl
  · rfl

/-- A name in braces is a placeholder, whatever stands around it. -/
theorem pieces_append_braced {name : Text} (h : IsName name) (before after : Text) :
    pieces (before ++ braced name ++ after) = pieces before ++ .hole name :: pieces after := by
  induction before with
  | nil => exact pieces_braced h after
  | cons c before ih =>
    rw [List.cons_append, List.cons_append, pieces_cons, ih, attach_append_hole, pieces_cons]

/-- The occurrences of placeholders are the places where a name stands in braces. -/
theorem mem_occurrences {phrase name : Text} {start : Nat} :
    (start, name) ∈ occurrences phrase ↔ StandsAt phrase start name := by
  rw [occurrences, mem_placed]
  constructor
  · rintro ⟨left, right, hp, hs⟩
    have hname : name ∈ namesIn (pieces phrase) := by
      rw [hp, namesIn_append]
      simp
    have hwritten := ofPieces_pieces phrase
    rw [hp] at hwritten
    refine ⟨isName_of_mem_namesIn (settled_pieces phrase) hname, ofPieces left, ofPieces right,
      by simpa using hs.symm, hwritten.symm.trans ?_⟩
    simp [ofPieces, Piece.written]
  · rintro ⟨hn, before, after, rfl, rfl⟩
    exact ⟨pieces before, pieces after, pieces_append_braced hn before after, by simp⟩

theorem mem_names_iff {phrase name : Text} :
    name ∈ names phrase ↔ ∃ start, StandsAt phrase start name := by
  rw [← names_occurrences, List.mem_map]
  constructor
  · rintro ⟨⟨start, _⟩, hm, rfl⟩
    exact ⟨start, mem_occurrences.mp hm⟩
  · rintro ⟨start, hs⟩
    exact ⟨(start, name), mem_occurrences.mpr hs, rfl⟩

theorem findBraced_eq (phrase : Text) :
    findBraced phrase = (occurrences phrase).map fun place => (braced place.2, place.2) := by
  rw [findBraced, ← names_occurrences, List.map_map]
  rfl

/-- A name stands in a phrase before another does anywhere. -/
def Precedes (phrase name other : Text) : Prop :=
  ∃ start, StandsAt phrase start name ∧ ∀ later, StandsAt phrase later other → start < later

theorem mem_requiredNames {phrase name : Text} :
    name ∈ requiredNames phrase ↔
      isBuiltIn name = false ∧ ∃ start, StandsAt phrase start name := by
  rw [requiredNames, Choices.mem_distinct, definedNames, List.mem_filter, mem_names_iff]
  simp [and_comm]

/-- Names taken from places that increase, each once, are in the order of their first places. -/
theorem pairwise_distinct {places : List (Nat × Text)}
    (h : places.Pairwise fun a b => a.1 < b.1) :
    (Choices.distinct (places.map (·.2))).Pairwise fun name other =>
      ∃ start, (start, name) ∈ places ∧ ∀ later, (later, other) ∈ places → start < later := by
  induction places with
  | nil => exact .nil
  | cons place places ih =>
    obtain ⟨start, name⟩ := place
    obtain ⟨hfirst, hrest⟩ := List.pairwise_cons.mp h
    refine List.pairwise_cons.mpr ⟨?_, List.pairwise_filter.mpr ((ih hrest).imp ?_)⟩
    · intro other ho
      have hne : other ≠ name := by simpa using (List.mem_filter.mp ho).2
      refine ⟨start, List.mem_cons_self, fun later hl => ?_⟩
      cases List.mem_cons.mp hl with
      | inl he => exact absurd (Prod.mk.inj he).2 hne
      | inr hm => exact hfirst _ hm
    · rintro a b ⟨place, hm, hbefore⟩ - hb
      have hne : b ≠ name := by simpa using hb
      refine ⟨place, List.mem_cons_of_mem _ hm, fun later hl => ?_⟩
      cases List.mem_cons.mp hl with
      | inl he => exact absurd (Prod.mk.inj he).2 hne
      | inr hm => exact hbefore later hm

theorem pairwise_occurrences (phrase : Text) :
    (occurrences phrase).Pairwise fun a b => a.1 < b.1 := by
  refine (pairwise_placed 0 (pieces phrase)).imp fun {a b} h => ?_
  have hlong : 0 < (braced a.2).length := by simp [braced]
  omega

theorem definedNames_eq (phrase : Text) :
    definedNames phrase = ((occurrences phrase).filter (!isBuiltIn ·.2)).map (·.2) := by
  rw [definedNames, ← names_occurrences, List.filter_map]
  rfl

/-- The names that need a definition come in the order in which they stand first. -/
theorem pairwise_requiredNames (phrase : Text) :
    (requiredNames phrase).Pairwise (Precedes phrase) := by
  have hordered := pairwise_distinct ((pairwise_occurrences phrase).filter (!isBuiltIn ·.2))
  rw [← definedNames_eq] at hordered
  refine hordered.imp_of_mem ?_
  rintro name other hn ho ⟨start, hm, hbefore⟩
  refine ⟨start, mem_occurrences.mp (List.mem_filter.mp hm).1, fun later hl => ?_⟩
  have hdefined : isBuiltIn other = false := (mem_requiredNames.mp ho).1
  exact hbefore later (List.mem_filter.mpr ⟨mem_occurrences.mpr hl, by simp [hdefined]⟩)

/-- The placeholders of a phrase are the names in braces, at every place where one stands, in order
and apart from each other. Those that need a definition are required once each, in the order of
their first places, and are the ones that get unique names. -/
theorem placeholder_grammar (phrase : Text) :
    (∃ places : List (Nat × Text),
      findBraced phrase = places.map (fun place => (braced place.2, place.2)) ∧
        (∀ start name, (start, name) ∈ places ↔ StandsAt phrase start name) ∧
        places.Pairwise fun a b => a.1 + (braced a.2).length ≤ b.1) ∧
      (requiredNames phrase).Nodup ∧
      (requiredNames phrase).Pairwise (Precedes phrase) ∧
      (∀ name, name ∈ requiredNames phrase ↔
        isBuiltIn name = false ∧ ∃ start, StandsAt phrase start name) ∧
      ∀ separator token name,
        name ∈ requiredNames phrase ↔
          name ∈ (placeholders separator token phrase).map Placeholder.name := by
  refine ⟨⟨occurrences phrase, findBraced_eq phrase, fun _ _ => mem_occurrences,
    pairwise_placed 0 (pieces phrase)⟩, Choices.nodup_distinct _, pairwise_requiredNames phrase,
    fun _ => mem_requiredNames, fun separator token name => ?_⟩
  rw [placeholders_names]
  exact Choices.mem_distinct

-- a name that holds a brace hides the one around it, and a name with a point is none
example : findBraced "{a{b}}{a.b}{}{b}".toList =
    [("{b}".toList, "b".toList), ("{}".toList, []), ("{b}".toList, "b".toList)] := by decide

end Phrase

end Phrasebook
