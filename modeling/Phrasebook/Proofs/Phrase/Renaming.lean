import Phrasebook.Proofs.Lists
import Phrasebook.Proofs.Phrase.Pieces
import Phrasebook.Settings

/-!
# Renaming placeholders

Renaming looks for each placeholder in what the one before it has left of the phrase. It finds the
very placeholder that it is meant for: built-in ones have other names, and whatever else looks like
a name in braces is a placeholder of its own. So renaming never fails, and what it gives is the
phrase with new names for its placeholders.
-/

namespace Phrasebook

namespace Phrase

theorem cut?_self (name rest : Text) : Text.cut? (braced name) (braced name ++ rest) = some ([], rest) := by
  have hp : (braced name).isPrefixOf? (braced name ++ rest) = some rest :=
    List.isPrefixOf?_eq_some_iff_append_eq.mpr rfl
  rw [braced, List.cons_append, List.cons_append] at *
  rw [Text.cut?, hp]

theorem cut?_of_not_prefix {piece : Text} {c : Char} {rest : Text}
    (h : ∀ after, piece ++ after ≠ c :: rest) :
    Text.cut? piece (c :: rest) = (Text.cut? piece rest).map fun found => (c :: found.1, found.2) := by
  rw [Text.cut?]
  cases hp : piece.isPrefixOf? (c :: rest) with
  | none => rfl
  | some after => exact absurd (List.isPrefixOf?_eq_some_iff_append_eq.mp hp) (h after)

theorem cut?_braced_of_ne {name : Text} {c : Char} (hc : c ≠ '{') (rest : Text) :
    Text.cut? (braced name) (c :: rest) =
      (Text.cut? (braced name) rest).map fun found => (c :: found.1, found.2) := by
  refine cut?_of_not_prefix fun after he => ?_
  have hhead : '{' = c := (List.cons.inj he).1
  exact hc hhead.symm

theorem cut?_braced_append {name t : Text} (h : ∀ c ∈ t, c ≠ '{') (rest : Text) :
    Text.cut? (braced name) (t ++ rest) =
      (Text.cut? (braced name) rest).map fun found => (t ++ found.1, found.2) := by
  induction t with
  | nil => simp
  | cons c t ih =>
    rw [List.cons_append, cut?_braced_of_ne (h c (by simp)), ih fun d hd => h d (by simp [hd])]
    simp [Function.comp_def]

/-- A character that is no placeholder is passed over. -/
theorem cut?_plain {name : Text} (hn : IsName name) {c : Char} {ps : List Piece}
    (hs : Settled (.plain c :: ps)) :
    Text.cut? (braced name) (ofPieces (.plain c :: ps)) =
      (Text.cut? (braced name) (ofPieces ps)).map fun found => (c :: found.1, found.2) := by
  have hp : pieces (c :: ofPieces ps) = .plain c :: ps := pieces_ofPieces hs
  rw [ofPieces_cons, Piece.written, List.singleton_append]
  refine cut?_of_not_prefix fun after he => ?_
  rw [← he, pieces_braced hn] at hp
  cases hp

/-- A placeholder of another name is passed over. -/
theorem cut?_hole {name other : Text} (hn : IsName name) (hne : other ≠ name) {ps : List Piece}
    (hs : Settled (.hole other :: ps)) :
    Text.cut? (braced name) (ofPieces (.hole other :: ps)) =
      (Text.cut? (braced name) (ofPieces ps)).map fun found => (braced other ++ found.1, found.2) := by
  have hw : ofPieces (.hole other :: ps) = '{' :: ((other ++ ['}']) ++ ofPieces ps) := by
    simp [Piece.written, braced]
  have hstep : Text.cut? (braced name) ('{' :: ((other ++ ['}']) ++ ofPieces ps)) =
      (Text.cut? (braced name) ((other ++ ['}']) ++ ofPieces ps)).map
        fun found => ('{' :: found.1, found.2) := by
    refine cut?_of_not_prefix fun after he => ?_
    have hp : pieces (ofPieces (.hole other :: ps)) = .hole other :: ps := pieces_ofPieces hs
    rw [hw, ← he, pieces_braced hn] at hp
    cases hp
    exact hne rfl
  have hchars : ∀ c ∈ other ++ ['}'], c ≠ '{' := by
    intro c hc
    cases List.mem_append.mp hc with
    | inl hc => exact ne_opening_of_isNameChar (hs.1 c hc)
    | inr hc =>
      rw [List.mem_singleton.mp hc]
      decide
  rw [hw, hstep, cut?_braced_append hchars]
  simp [Function.comp_def, braced]

def definedIn (ps : List Piece) : List Text := (namesIn ps).filter (!isBuiltIn ·)

theorem definedIn_builtIn {name : Text} (h : isBuiltIn name = true) (ps : List Piece) :
    definedIn (.hole name :: ps) = definedIn ps := by
  rw [definedIn, namesIn_hole, List.filter_cons_of_neg (by simp [h])]
  rfl

theorem definedIn_hole {name : Text} (h : isBuiltIn name = false) (ps : List Piece) :
    definedIn (.hole name :: ps) = name :: definedIn ps := by
  rw [definedIn, namesIn_hole, List.filter_cons_of_pos (by simp [h])]
  rfl

/-- What every search passes over is kept as it is. -/
theorem renameFrom_append {phrase w rest : Text} {holders : List Placeholder}
    (h : ∀ p ∈ holders, Text.cut? p.braced (w ++ rest) =
      (Text.cut? p.braced rest).map fun found => (w ++ found.1, found.2)) :
    renameFrom phrase (w ++ rest) holders = (renameFrom phrase rest holders).map (w ++ ·) := by
  cases holders with
  | nil => rfl
  | cons p holders =>
    rw [renameFrom, renameFrom, h p (by simp)]
    cases Text.cut? p.braced rest with
    | none => rfl
    | some found =>
      obtain ⟨before, after⟩ := found
      simp only [Option.map_some]
      cases renameFrom phrase after holders with
      | error failure => rfl
      | ok renamed => simp [Except.map]

theorem renameFrom_ofPieces (phrase : Text) {ps : List Piece} (hs : Settled ps)
    {holders : List Placeholder} (hb : ∀ p ∈ holders, p.braced = braced p.name)
    (hn : holders.map Placeholder.name = definedIn ps) :
    renameFrom phrase (ofPieces ps) holders =
      .ok (ofPieces (relabel ps (holders.map Placeholder.uniqueName))) := by
  have hname : ∀ p ∈ holders, IsName p.name ∧ isBuiltIn p.name = false := by
    intro p hp
    have hd : p.name ∈ definedIn ps := hn ▸ List.mem_map_of_mem hp
    obtain ⟨hm, hd⟩ := List.mem_filter.mp hd
    exact ⟨isName_of_mem_namesIn hs hm, by simpa using hd⟩
  induction ps generalizing holders with
  | nil =>
    have hnil : holders = [] := List.map_eq_nil_iff.mp hn
    rw [hnil]
    rfl
  | cons piece ps ih =>
    cases piece with
    | plain c =>
      have hpass : ∀ p ∈ holders, Text.cut? p.braced ([c] ++ ofPieces ps) =
          (Text.cut? p.braced (ofPieces ps)).map fun found => ([c] ++ found.1, found.2) := by
        intro p hp
        rw [hb p hp]
        exact cut?_plain (hname p hp).1 hs
      rw [ofPieces_cons, Piece.written, renameFrom_append hpass, ih hs.2 hb hn hname]
      rfl
    | hole name =>
      cases hd : isBuiltIn name with
      | true =>
        rw [definedIn_builtIn hd] at hn
        have hpass : ∀ p ∈ holders, Text.cut? p.braced (braced name ++ ofPieces ps) =
            (Text.cut? p.braced (ofPieces ps)).map fun found => (braced name ++ found.1, found.2) := by
          intro p hp
          rw [hb p hp]
          refine cut?_hole (hname p hp).1 (fun he => ?_) hs
          rw [he, (hname p hp).2] at hd
          cases hd
        rw [ofPieces_cons, Piece.written, renameFrom_append hpass, ih hs.2 hb hn hname]
        simp [relabel, hd, Except.map, Piece.written]
      | false =>
        rw [definedIn_hole hd] at hn
        cases holders with
        | nil => cases hn
        | cons p holders =>
          obtain ⟨rfl, htail⟩ := List.cons.inj hn
          have hcut : Text.cut? p.braced (ofPieces (.hole p.name :: ps)) = some ([], ofPieces ps) := by
            rw [hb p (by simp), ofPieces_cons]
            exact cut?_self p.name (ofPieces ps)
          have hmore := ih hs.2 (fun q hq => hb q (List.mem_cons_of_mem _ hq)) htail
            fun q hq => hname q (List.mem_cons_of_mem _ hq)
          rw [renameFrom, hcut]
          change (renameFrom phrase (ofPieces ps) holders).map _ = _
          rw [hmore]
          simp [relabel, hd, Except.map, Piece.written]

/-- A placeholder is built in and keeps its name, or has the unique name of an occurrence. -/
def Renamed (holders : List Placeholder) (other name : Text) : Prop :=
  (isBuiltIn name = true ∧ other = name) ∨
    ∃ p, p ∈ holders ∧ other = p.uniqueName ∧ name = p.name

theorem names_relabel {ps : List Piece} {holders : List Placeholder}
    (hn : holders.map Placeholder.name = definedIn ps) :
    List.Forall₂ (Renamed holders)
      (namesIn (relabel ps (holders.map Placeholder.uniqueName))) (namesIn ps) := by
  induction ps generalizing holders with
  | nil => exact .nil
  | cons piece ps ih =>
    cases piece with
    | plain c => exact ih hn
    | hole name =>
      cases hd : isBuiltIn name with
      | true =>
        rw [definedIn_builtIn hd] at hn
        simp only [relabel, hd, if_true, namesIn_hole]
        exact .cons (.inl ⟨hd, rfl⟩) (ih hn)
      | false =>
        rw [definedIn_hole hd] at hn
        cases holders with
        | nil => cases hn
        | cons p holders =>
          obtain ⟨rfl, htail⟩ := List.cons.inj hn
          simp only [relabel, hd, Bool.false_eq_true, if_false, List.map_cons, namesIn_hole]
          refine .cons (.inr ⟨p, by simp, rfl, rfl⟩) ((ih htail).imp ?_)
          rintro other name (hb | ⟨q, hq, he⟩)
          · exact .inl hb
          · exact .inr ⟨q, List.mem_cons_of_mem _ hq, he⟩

/-- A new name is built in or a unique name. -/
theorem isBuiltIn_or_unique {ps : List Piece} {holders : List Placeholder}
    (hn : holders.map Placeholder.name = definedIn ps) {other : Text}
    (h : other ∈ namesIn (relabel ps (holders.map Placeholder.uniqueName))) :
    isBuiltIn other = true ∨ ∃ p, p ∈ holders ∧ other = p.uniqueName := by
  obtain ⟨name, -, hr⟩ := exists_right (names_relabel hn) h
  rcases hr with ⟨hb, rfl⟩ | ⟨p, hp, he, -⟩
  · exact .inl hb
  · exact .inr ⟨p, hp, he⟩

/-- What belongs to the new names belongs to the old ones, in the same order. -/
theorem map_relabel {α : Type} {f g : Text → α} {ps : List Piece} {holders : List Placeholder}
    (hn : holders.map Placeholder.name = definedIn ps)
    (hb : ∀ name ∈ namesIn ps, isBuiltIn name = true → f name = g name)
    (hp : ∀ p ∈ holders, f p.uniqueName = g p.name) :
    (namesIn (relabel ps (holders.map Placeholder.uniqueName))).map f = (namesIn ps).map g := by
  have hall : List.Forall₂ (fun other name => f other = g name)
      (namesIn (relabel ps (holders.map Placeholder.uniqueName))) (namesIn ps) := by
    obtain ⟨hlength, hzip⟩ := List.forall₂_iff_zip.mp (names_relabel hn)
    refine List.forall₂_iff_zip.mpr ⟨hlength, fun {other name} hm => ?_⟩
    rcases hzip hm with ⟨hd, rfl⟩ | ⟨p, hp', rfl, rfl⟩
    · exact hb other (List.of_mem_zip hm).2 hd
    · exact hp p hp'
  rw [← List.forall₂_eq_eq_eq, List.forall₂_map_left_iff, List.forall₂_map_right_iff]
  exact hall

theorem isName_separator (settings : Settings) : IsName settings.separator := by
  intro c hc
  have hl : Separator.isLegalChar c = true := by
    have h := settings.legal
    simp only [Separator.isLegal, Bool.and_eq_true, List.all_eq_true] at h
    exact h.2 c hc
  cases hn : isNameChar c with
  | true => rfl
  | false =>
    have hbad : c = '{' ∨ c = '}' ∨ c = '^' ∨ c = '.' := by
      simp only [isNameChar] at hn
      grind
    rcases hbad with rfl | rfl | rfl | rfl <;> exact absurd hl (by decide)

theorem isName_decimal (n : Nat) : IsName (Text.decimal n) := by
  intro c hc
  have hd : c.isDigit = true := Nat.isDigit_of_mem_toDigits (by decide) (by decide) hc
  cases hn : isNameChar c with
  | true => rfl
  | false =>
    have hbad : c = '{' ∨ c = '}' ∨ c = '^' ∨ c = '.' := by
      simp only [isNameChar] at hn
      grind
    rcases hbad with rfl | rfl | rfl | rfl <;> exact absurd hd (by decide)

theorem isName_uniqueName {separator token name : Text} (hs : IsName separator) (ht : IsName token)
    (hn : IsName name) (index : Nat) : IsName (uniqueName separator token name index) :=
  ((hn.append hs).append ht).append (isName_cons.mpr ⟨by decide, isName_decimal index⟩)

theorem underscore_mem_uniqueName (separator token name : Text) (index : Nat) :
    '_' ∈ uniqueName separator token name index := by
  simp [uniqueName]

/-- A number that was written at the end can be read back. -/
theorem append_decimal_injective {s t : Text} {i j : Nat}
    (h : s ++ '_' :: Text.decimal i = t ++ '_' :: Text.decimal j) : s = t ∧ i = j := by
  have hlast : ∀ (t : Text) (n : Nat),
      (t ++ '_' :: Text.decimal n).reverse.takeWhile (· ≠ '_') = (Text.decimal n).reverse := by
    intro t n
    have hd : ∀ c ∈ (Text.decimal n).reverse, (decide (c ≠ '_')) = true := by
      intro c hc
      have hu : '_' ∉ Text.decimal n := Nat.underscore_not_in_toDigits
      have hne : c ≠ '_' := by
        rintro rfl
        exact hu (List.mem_reverse.mp hc)
      exact decide_eq_true hne
    rw [List.reverse_append, List.reverse_cons, List.append_assoc, List.takeWhile_append_of_pos hd]
    simp
  have hdigits : Text.decimal i = Text.decimal j := by
    rw [← List.reverse_inj, ← hlast s i, ← hlast t j]
    exact congrArg (fun t => t.reverse.takeWhile (· ≠ '_')) h
  have hvalue := congrArg (Nat.ofDigitChars 10 · 0) hdigits
  simp only [Text.decimal, Nat.ofDigitChars_ten_toDigits] at hvalue
  rw [hdigits] at h
  exact ⟨List.append_cancel_right h, hvalue⟩

/-- Occurrences of one registration have different unique names, whatever their own names are. -/
theorem index_of_uniqueName {separator token name other : Text} {i j : Nat}
    (h : uniqueName separator token name i = uniqueName separator token other j) : i = j :=
  (append_decimal_injective h).2

/-- Unique names tell tokens of one length apart, whatever else they are made of. -/
theorem token_of_uniqueName {separator separator' token token' name name' : Text} {i j : Nat}
    (h : uniqueName separator token name i = uniqueName separator' token' name' j)
    (hl : token.length = token'.length) : token = token' :=
  List.append_inj_right' (append_decimal_injective h).1 hl

theorem underscore_not_mem_builtIn (b : BuiltIn) : '_' ∉ b.name := by
  cases b <;> decide

theorem isBuiltIn_iff {name : Text} : isBuiltIn name = true ↔ ∃ b : BuiltIn, b.name = name := by
  constructor
  · intro h
    obtain ⟨b, hb⟩ := Option.isSome_iff_exists.mp h
    exact ⟨b, by simpa using List.find?_some hb⟩
  · rintro ⟨b, rfl⟩
    cases b <;> decide

/-- No unique name is built in. -/
theorem isBuiltIn_uniqueName (separator token name : Text) (index : Nat) :
    isBuiltIn (uniqueName separator token name index) = false := by
  cases h : isBuiltIn (uniqueName separator token name index) with
  | false => rfl
  | true =>
    obtain ⟨b, hb⟩ := isBuiltIn_iff.mp h
    have hu := underscore_mem_uniqueName separator token name index
    rw [← hb] at hu
    exact absurd hu (underscore_not_mem_builtIn b)

theorem placeholders_names (separator token phrase : Text) :
    (placeholders separator token phrase).map Placeholder.name = definedNames phrase := by
  rw [placeholders, List.mapIdx_eq_zipIdx_map, List.map_map]
  exact List.zipIdx_map_fst 0 (definedNames phrase)

theorem mem_placeholders {separator token phrase : Text} {p : Placeholder}
    (h : p ∈ placeholders separator token phrase) :
    p.braced = braced p.name ∧ p.name ∈ definedNames phrase ∧
      ∃ index, p.uniqueName = uniqueName separator token p.name index := by
  obtain ⟨index, hi, rfl⟩ := List.mem_mapIdx.mp h
  exact ⟨rfl, List.getElem_mem hi, index, rfl⟩

/-- Renaming gives every placeholder that needs a definition its unique name. -/
theorem rename_eq (separator token phrase : Text) :
    rename phrase (placeholders separator token phrase) =
      .ok (ofPieces (relabel (pieces phrase)
        ((placeholders separator token phrase).map Placeholder.uniqueName))) := by
  have h := renameFrom_ofPieces phrase (settled_pieces phrase)
    (fun p (hp : p ∈ placeholders separator token phrase) => (mem_placeholders hp).1)
    (placeholders_names separator token phrase)
  rwa [ofPieces_pieces] at h

end Phrase

end Phrasebook
