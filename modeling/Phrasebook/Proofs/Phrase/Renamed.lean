import Phrasebook.Proofs.Phrase.Renaming

/-!
# Renamed phrases

Renaming changes a phrase nowhere but at the placeholders that need a definition: each of them gets
its own unique name where it stands, and built-in placeholders and all other characters stay. If
names can be made of the separator and the token, the renamed phrase has no placeholders but these.
-/

namespace Phrasebook.Phrase

/-- The names with new ones, one after another, in place of those that need a definition. -/
def renew : List Text → List Text → List Text
  | [], _ => []
  | name :: names, fresh =>
    if isBuiltIn name then name :: renew names fresh
    else
      match fresh with
      | [] => name :: renew names []
      | next :: fresh => next :: renew names fresh

theorem namesIn_relabel (ps : List Piece) (fresh : List Text) :
    namesIn (relabel ps fresh) = renew (namesIn ps) fresh := by
  induction ps generalizing fresh with
  | nil => rfl
  | cons p ps ih =>
    cases p with
    | plain c => exact ih fresh
    | hole name =>
      by_cases hb : isBuiltIn name = true
      · simp [relabel, renew, hb, ih]
      · cases fresh with
        | nil => simp [relabel, renew, hb, ih]
        | cons next fresh => simp [relabel, renew, hb, ih]

/-- Of the names with new ones, those that are not built in are the new ones, if these are not built
in and there are as many as needed. -/
theorem filter_renew {names fresh : List Text}
    (hl : (names.filter (!isBuiltIn ·)).length = fresh.length)
    (hf : ∀ name ∈ fresh, isBuiltIn name = false) :
    (renew names fresh).filter (!isBuiltIn ·) = fresh := by
  induction names generalizing fresh with
  | nil =>
    have hnil : fresh = [] := List.length_eq_zero_iff.mp hl.symm
    simp [renew, hnil]
  | cons name names ih =>
    by_cases hb : isBuiltIn name = true
    · simpa [renew, hb] using ih (by simpa [hb] using hl) hf
    · cases fresh with
      | nil => simp [hb] at hl
      | cons next fresh =>
        have hnext : isBuiltIn next = false := hf next (by simp)
        have hrest := ih (by simpa [hb] using hl) fun n hn => hf n (by simp [hn])
        simp [renew, hb, hnext, hrest]

/-- Pieces with other names leave the same room for texts. -/
theorem fill_relabel (ps : List Piece) (fresh texts : List Text) :
    fill (relabel ps fresh) texts = fill ps texts := by
  have hhole : ∀ (name other : Text) {qs rs : List Piece}, (∀ texts, fill qs texts = fill rs texts) →
      ∀ texts, fill (.hole other :: qs) texts = fill (.hole name :: rs) texts := by
    intro name other qs rs h texts
    cases texts with
    | nil => exact h []
    | cons t texts => exact congrArg (t ++ ·) (h texts)
  induction ps generalizing fresh texts with
  | nil => rfl
  | cons p ps ih =>
    cases p with
    | plain c => exact congrArg (c :: ·) (ih fresh texts)
    | hole name =>
      by_cases hb : isBuiltIn name = true
      · simpa [relabel, hb] using hhole name name (ih fresh) texts
      · cases fresh with
        | nil => simpa [relabel, hb] using hhole name name (ih []) texts
        | cons next fresh => simpa [relabel, hb] using hhole name next (ih fresh) texts

theorem ofPieces_relabel (ps : List Piece) (fresh : List Text) :
    ofPieces (relabel ps fresh) = fill ps ((renew (namesIn ps) fresh).map braced) := by
  rw [← fill_braced, fill_relabel, namesIn_relabel]

def newNames (separator token phrase : Text) : List Text :=
  renew (names phrase) ((placeholders separator token phrase).map Placeholder.uniqueName)

/-- Renaming never fails. It leaves everything in the phrase as it is but the placeholders that need
a definition, each of which gets its unique name, which is not a built-in one. If names can be made
of the separator and the token, the placeholders of the renamed phrase are just these. -/
theorem rename_placeholders (separator token phrase : Text) :
    ∃ renamed, rename phrase (placeholders separator token phrase) = .ok renamed ∧
      (placeholders separator token phrase).map Placeholder.name = definedNames phrase ∧
      phrase = fill (pieces phrase) ((names phrase).map braced) ∧
      renamed = fill (pieces phrase) ((newNames separator token phrase).map braced) ∧
      (∀ p ∈ placeholders separator token phrase, isBuiltIn p.uniqueName = false) ∧
      (IsName separator → IsName token →
        findBraced renamed = (newNames separator token phrase).map fun name => (braced name, name)) := by
  refine ⟨_, rename_eq separator token phrase, placeholders_names separator token phrase,
    (fill_names phrase).symm, ofPieces_relabel _ _, ?_, ?_⟩
  · intro p hp
    obtain ⟨-, -, index, hu⟩ := mem_placeholders hp
    rw [hu]
    exact isBuiltIn_uniqueName separator token p.name index
  · intro hs ht
    have hfresh : ∀ name ∈ (placeholders separator token phrase).map Placeholder.uniqueName,
        IsName name := by
      intro name hn
      obtain ⟨p, hp, rfl⟩ := List.mem_map.mp hn
      obtain ⟨-, hd, index, hu⟩ := mem_placeholders hp
      have hname := isName_of_mem_namesIn (settled_pieces phrase) (List.mem_filter.mp hd).1
      rw [hu]
      exact isName_uniqueName hs ht hname index
    have hpieces := pieces_ofPieces (settled_relabel (settled_pieces phrase) hfresh)
    have hnames : names (ofPieces (relabel (pieces phrase)
        ((placeholders separator token phrase).map Placeholder.uniqueName))) =
          newNames separator token phrase := by
      change namesIn (pieces _) = _
      rw [hpieces, namesIn_relabel]
      rfl
    rw [findBraced, hnames]

/-- A phrase in which a name occurs twice, with a built-in placeholder between, in doubled braces,
and next to braces around what is no name. -/
def nestedPhrase : Text :=
  ['{', '{', 'a', '}', '}', '{', 'i', 'n', 't', '}', '{', 'a', '.', 'b', '}', '{', '{', 'a', '}', '}', '{']

/-- The name gets a number of its own at either place. -/
theorem rename_placeholders_nested :
    IsName ['-'] ∧ IsName ['t'] ∧
      ∃ renamed, rename nestedPhrase (placeholders ['-'] ['t'] nestedPhrase) = .ok renamed ∧
        renamed = ['{', '{', 'a', '-', 't', '_', '0', '}', '}', '{', 'i', 'n', 't', '}',
          '{', 'a', '.', 'b', '}', '{', '{', 'a', '-', 't', '_', '1', '}', '}', '{'] ∧
        findBraced renamed = [(['{', 'a', '-', 't', '_', '0', '}'], ['a', '-', 't', '_', '0']),
          (['{', 'i', 'n', 't', '}'], ['i', 'n', 't']),
          (['{', 'a', '-', 't', '_', '1', '}'], ['a', '-', 't', '_', '1'])] := by
  obtain ⟨renamed, hok, -, -, hrenamed, -, hbraced⟩ := rename_placeholders ['-'] ['t'] nestedPhrase
  have hs : IsName ['-'] := by decide
  have ht : IsName ['t'] := by decide
  exact ⟨hs, ht, renamed, hok, hrenamed.trans (by decide), (hbraced hs ht).trans (by decide)⟩

end Phrasebook.Phrase
