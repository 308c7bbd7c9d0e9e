import Phrasebook.Proofs.Lists
import Phrasebook.Proofs.Phrase.Pieces

/-!
# Filled phrases that can be read back

Different texts for the placeholders can write the same step text. They cannot if between any two
neighbouring placeholders there stands a character that none of the texts holds: the first such
character shows where a placeholder ends.
-/

namespace Phrasebook.Phrase

/-- Between any two neighbouring placeholders there is a character of some kind. -/
def Separated (mark : Char → Prop) (ps : List Piece) : Prop :=
  ∀ (before : List Piece) (name between next : Text) (after : List Piece),
    ps = before ++ .hole name :: (between.map .plain ++ .hole next :: after) →
      ∃ c, c ∈ between ∧ mark c

variable {mark : Char → Prop} {ps : List Piece}

theorem Separated.of_cons {p : Piece} (h : Separated mark (p :: ps)) : Separated mark ps := by
  intro before name between next after he
  refine h (p :: before) name between next after ?_
  rw [he, List.cons_append]

/-- Pieces begin with characters, as far as they go. -/
theorem exists_stretch (ps : List Piece) :
    ∃ (between : Text) (rest : List Piece), ps = between.map .plain ++ rest ∧
      (rest = [] ∨ ∃ name after, rest = .hole name :: after) := by
  induction ps with
  | nil => exact ⟨[], [], rfl, .inl rfl⟩
  | cons p ps ih =>
    cases p with
    | hole name => exact ⟨[], .hole name :: ps, rfl, .inr ⟨name, ps, rfl⟩⟩
    | plain c =>
      obtain ⟨between, rest, rfl, hrest⟩ := ih
      exact ⟨c :: between, rest, rfl, hrest⟩

theorem fill_stretch (between : Text) (rest : List Piece) (texts : List Text) :
    fill (between.map .plain ++ rest) texts = between ++ fill rest texts := by
  induction between with
  | nil => rfl
  | cons c between ih => rw [List.map_cons, List.cons_append, fill, ih, List.cons_append]

theorem namesIn_stretch (between : Text) (rest : List Piece) :
    namesIn (between.map .plain ++ rest) = namesIn rest := by
  induction between with
  | nil => rfl
  | cons c between ih => exact ih

theorem Separated.stretch (h : Separated mark ps) (between : Text) :
    Separated mark (between.map .plain ++ ps) := by
  induction between with
  | nil => exact h
  | cons c between ih =>
    intro before name gap next after he
    cases before with
    | nil => cases (List.cons.inj he).1
    | cons p before => exact ih before name gap next after (List.cons.inj he).2

/-- Behind its last placeholder a phrase may end in any way. -/
theorem separated_last (name ending : Text) : Separated mark (.hole name :: ending.map .plain) := by
  intro before left gap right after he
  have hcount := congrArg (fun ps => (namesIn ps).length) he
  have hplain : namesIn (ending.map .plain) = [] := by
    simpa using namesIn_stretch ending []
  simp only [namesIn_append, namesIn_hole, hplain, List.length_append, List.length_cons,
    List.length_nil] at hcount
  omega

/-- What stands before the next placeholder is its beginning as far as it goes. -/
theorem eq_of_stretch {between gap name next : Text} {rest after : List Piece}
    (h : between.map .plain ++ .hole name :: rest = gap.map .plain ++ .hole next :: after) :
    between = gap := by
  induction between generalizing gap with
  | nil =>
    cases gap with
    | nil => rfl
    | cons d gap => cases (List.cons.inj h).1
  | cons c between ih =>
    cases gap with
    | nil => cases (List.cons.inj h).1
    | cons d gap =>
      obtain ⟨hc, hrest⟩ := List.cons.inj h
      cases hc
      rw [ih hrest]

/-- Another placeholder in front, with a mark behind it. -/
theorem Separated.hole {next : Text} {rest : List Piece} (h : Separated mark (.hole next :: rest))
    {c : Char} {between : Text} (hc : c ∈ between) (hm : mark c) (name : Text) :
    Separated mark (.hole name :: (between.map .plain ++ .hole next :: rest)) := by
  intro before left gap right after he
  cases before with
  | nil =>
    obtain rfl := eq_of_stretch (List.cons.inj he).2
    exact ⟨c, hc, hm⟩
  | cons p before => exact h.stretch between before left gap right after (List.cons.inj he).2

/-- Two placeholders with one character between them. -/
theorem separated_pair {c : Char} (hc : mark c) (name next : Text) :
    Separated mark [.hole name, .plain c, .hole next] :=
  (separated_last next []).hole (List.mem_singleton_self c) hc name

/-- What a placeholder holds ends where the first mark after it begins. -/
theorem eq_of_fill_hole {name : Text} (hs : Separated mark (.hole name :: ps)) {t u : Text}
    {texts others : List Text} (hl : texts.length = (namesIn ps).length)
    (hl' : others.length = (namesIn ps).length) (ht : ∀ c ∈ t, ¬ mark c) (hu : ∀ c ∈ u, ¬ mark c)
    (h : t ++ fill ps texts = u ++ fill ps others) : t = u := by
  obtain ⟨between, rest, rfl, hrest⟩ := exists_stretch ps
  rw [namesIn_stretch] at hl hl'
  rw [fill_stretch, fill_stretch] at h
  rcases hrest with rfl | ⟨next, after, rfl⟩
  · exact List.append_cancel_right h
  · obtain ⟨before, c, behind, rfl, hc, hno⟩ := exists_earliest (hs [] name between next after rfl)
    have hnot : ∀ v : Text, (∀ d ∈ v, ¬ mark d) → c ∉ v ++ before := by
      intro v hv hm
      cases List.mem_append.mp hm with
      | inl hm => exact hv c hm hc
      | inr hm => exact hno c hm hc
    have hsplit : (t ++ before) ++ c :: (behind ++ fill (.hole next :: after) texts) =
        (u ++ before) ++ c :: (behind ++ fill (.hole next :: after) others) := by
      simpa using h
    exact List.append_cancel_right (append_cons_inj (hnot t ht) (hnot u hu) hsplit)

/-- Texts without marks can be read back from a phrase whose placeholders are kept apart by them. -/
theorem fill_injective (hs : Separated mark ps) {texts others : List Text}
    (hl : texts.length = (namesIn ps).length) (hl' : others.length = (namesIn ps).length)
    (ht : ∀ t ∈ texts, ∀ c ∈ t, ¬ mark c) (ho : ∀ t ∈ others, ∀ c ∈ t, ¬ mark c)
    (h : fill ps texts = fill ps others) : texts = others := by
  induction ps generalizing texts others with
  | nil =>
    rw [List.eq_nil_of_length_eq_zero hl, List.eq_nil_of_length_eq_zero hl']
  | cons p ps ih =>
    cases p with
    | plain c => exact ih hs.of_cons hl hl' ht ho (List.cons.inj h).2
    | hole name =>
      cases texts with
      | nil => cases hl
      | cons t texts =>
        cases others with
        | nil => cases hl'
        | cons u others =>
          have hlength : texts.length = (namesIn ps).length := Nat.succ.inj hl
          have hlength' : others.length = (namesIn ps).length := Nat.succ.inj hl'
          have hfirst : t = u :=
            eq_of_fill_hole hs hlength hlength' (ht t (by simp)) (ho u (by simp)) h
          subst hfirst
          rw [ih hs.of_cons hlength hlength' (fun v hv => ht v (List.mem_cons_of_mem _ hv))
            (fun v hv => ho v (List.mem_cons_of_mem _ hv)) (List.append_cancel_left h)]

/-- A character stands in what is written as often as between the placeholders and in the texts. -/
theorem count_fill (c : Char) {texts : List Text} (hl : texts.length = (namesIn ps).length) :
    (fill ps texts).count c =
      (fill ps (List.replicate (namesIn ps).length [])).count c + texts.flatten.count c := by
  induction ps generalizing texts with
  | nil =>
    obtain rfl := List.eq_nil_of_length_eq_zero hl
    rfl
  | cons p ps ih =>
    cases p with
    | plain d =>
      have hrest := ih hl
      rw [namesIn_plain, fill, fill, List.count_cons, List.count_cons, hrest]
      omega
    | hole name =>
      cases texts with
      | nil => cases hl
      | cons t texts =>
        have hrest := ih (Nat.succ.inj hl)
        rw [namesIn_hole, List.length_cons, List.replicate_succ, fill, fill, List.flatten_cons,
          List.count_append, List.count_append, List.count_append, List.count_nil, hrest]
        omega

/-- Where characters that the texts do not hold keep the placeholders apart, no other texts write the
same. -/
theorem fill_unique {texts others : List Text} (hs : Separated (fun c => ∀ t ∈ texts, c ∉ t) ps)
    (hl : texts.length = (namesIn ps).length) (hl' : others.length = (namesIn ps).length)
    (h : fill ps others = fill ps texts) : others = texts := by
  refine fill_injective hs hl' hl (fun t ht c hc hmark => ?_) (fun t ht c hc hmark => hmark t ht hc) h
  have hnone : texts.flatten.count c = 0 := by
    rw [List.count_eq_zero, List.mem_flatten]
    rintro ⟨u, hu, hcu⟩
    exact hmark u hu hcu
  have hcount := congrArg (List.count c) h
  rw [count_fill c hl, count_fill c hl', hnone] at hcount
  have hsome : 0 < others.flatten.count c := List.count_pos_iff.mpr (List.mem_flatten_of_mem ht hc)
  omega

end Phrasebook.Phrase
