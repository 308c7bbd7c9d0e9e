import Mathlib.Data.List.Forall2
import Mathlib.Order.Nat
import Phrasebook.Text.Basic

/-!
# Places of pieces in a text

Pieces of a text can be looked for one after another, each behind the place where the one before it
was found. Taking the leftmost place every time misses nothing: wherever the pieces stand in order
and without overlaps, the first of them stands no earlier than where it is found, so the others stand
behind that place as well.

The stretches around such places are what is left of the text without the pieces. Woven with other
pieces they are another text, and the same stretches lie around the new pieces there. So putting the
old pieces back gives the old text again.
-/

namespace Phrasebook.Text

variable {t piece : Text} {base start : Nat} {places : List (Nat × Text)}

/-- Cutting a text at a piece takes nothing away. -/
theorem eq_of_cut? {piece t before after : Text} (h : cut? piece t = some (before, after)) :
    t = before ++ (piece ++ after) := by
  induction t generalizing before with
  | nil =>
    rw [cut?] at h
    split at h
    · next hp =>
      cases h
      rw [List.isEmpty_iff.mp hp]
      rfl
    · cases h
  | cons c rest ih =>
    rw [cut?] at h
    split at h
    · next found hp =>
      cases h
      exact (List.isPrefixOf?_eq_some_iff_append_eq.mp hp).symm
    · obtain ⟨⟨left, right⟩, hfound, he⟩ := Option.map_eq_some_iff.mp h
      cases he
      rw [ih hfound, List.cons_append]

/-- A piece stands in a text behind a number of characters. -/
def HasAt (t piece : Text) (start : Nat) : Prop := start ≤ t.length ∧ piece <+: t.drop start

instance (t piece : Text) (start : Nat) : Decidable (HasAt t piece start) :=
  inferInstanceAs (Decidable (_ ∧ _))

theorem hasAt_iff :
    HasAt t piece start ↔ ∃ before after, before.length = start ∧ t = before ++ (piece ++ after) := by
  constructor
  · rintro ⟨hs, after, ha⟩
    refine ⟨t.take start, after, by simp [hs], ?_⟩
    rw [ha, List.take_append_drop]
  · rintro ⟨before, after, rfl, rfl⟩
    exact ⟨by simp, by simp⟩

theorem hasAt_succ {c : Char} {rest : Text} :
    HasAt (c :: rest) piece (start + 1) ↔ HasAt rest piece start := by
  simp [HasAt]

theorem hasAt_zero : HasAt t piece 0 ↔ piece <+: t := by
  simp [HasAt]

/-- Behind the beginning of a text, positions are counted from there. -/
theorem hasAt_drop (hb : base ≤ t.length) :
    HasAt (t.drop base) piece start ↔ HasAt t piece (base + start) := by
  rw [HasAt, HasAt, List.length_drop, List.drop_drop]
  exact and_congr_left fun _ => by omega

/-- What stands in a text is followed by the rest of it. -/
theorem HasAt.append_drop (h : HasAt t piece start) :
    piece ++ t.drop (start + piece.length) = t.drop start := by
  obtain ⟨-, after, ha⟩ := h
  rw [← List.drop_drop, ← ha, List.drop_left]

theorem HasAt.end_le (h : HasAt t piece start) : start + piece.length ≤ t.length := by
  obtain ⟨before, after, rfl, rfl⟩ := hasAt_iff.mp h
  simp only [List.length_append]
  omega

theorem isPrefixOf?_eq_none_iff {c : Char} {rest : Text} :
    piece.isPrefixOf? (c :: rest) = none ↔ ¬ HasAt (c :: rest) piece 0 := by
  rw [hasAt_zero, Option.eq_none_iff_forall_ne_some]
  constructor
  · rintro h ⟨after, ha⟩
    exact h after (List.isPrefixOf?_eq_some_iff_append_eq.mpr ha)
  · intro h after ha
    exact h ⟨after, List.isPrefixOf?_eq_some_iff_append_eq.mp ha⟩

/-- A text cannot be cut at a piece that stands nowhere in it. -/
theorem cut?_eq_none_iff : cut? piece t = none ↔ ∀ start, ¬ HasAt t piece start := by
  induction t with
  | nil =>
    simp [cut?, HasAt]
  | cons c rest ih =>
    rw [cut?]
    cases hp : piece.isPrefixOf? (c :: rest) with
    | some after =>
      have hhere : HasAt (c :: rest) piece 0 :=
        hasAt_zero.mpr ⟨after, List.isPrefixOf?_eq_some_iff_append_eq.mp hp⟩
      simp only [reduceCtorEq, false_iff, not_forall, not_not]
      exact ⟨0, hhere⟩
    | none =>
      have hhere := isPrefixOf?_eq_none_iff.mp hp
      rw [Option.map_eq_none_iff, ih]
      constructor
      · intro h start
        cases start with
        | zero => exact hhere
        | succ start => exact fun hs => h start (hasAt_succ.mp hs)
      · exact fun h start hs => h (start + 1) (hasAt_succ.mpr hs)

/-- A text is cut at the leftmost place of the piece. -/
theorem length_le_of_cut? {before after : Text} (h : cut? piece t = some (before, after))
    (hs : HasAt t piece start) : before.length ≤ start := by
  induction t generalizing before start with
  | nil =>
    rw [cut?] at h
    split at h
    · cases h
      exact Nat.zero_le start
    · cases h
  | cons c rest ih =>
    rw [cut?] at h
    split at h
    · cases h
      exact Nat.zero_le start
    · next hp =>
      obtain ⟨⟨left, right⟩, hfound, he⟩ := Option.map_eq_some_iff.mp h
      cases he
      cases start with
      | zero => exact absurd hs (isPrefixOf?_eq_none_iff.mp hp)
      | succ start => exact Nat.succ_le_succ (ih hfound (hasAt_succ.mp hs))

/-- The leftmost place of a piece from a position on. -/
def FirstAt (t piece : Text) (base start : Nat) : Prop :=
  IsLeast {place | base ≤ place ∧ HasAt t piece place} start

theorem exists_firstAt (hb : base ≤ start) (hs : HasAt t piece start) :
    ∃ first, FirstAt t piece base first ∧ first ≤ start := by
  have hsome : ∃ place, base ≤ place ∧ HasAt t piece place := ⟨start, hb, hs⟩
  have hfirst : FirstAt t piece base (Nat.find hsome) := Nat.isLeast_find hsome
  exact ⟨Nat.find hsome, hfirst, hfirst.2 ⟨hb, hs⟩⟩

/-- Cutting what follows a position leaves what stands before the leftmost place, and behind it. -/
theorem cut?_drop_of_firstAt (h : FirstAt t piece base start) :
    cut? piece (t.drop base) =
      some ((t.drop base).take (start - base), t.drop (start + piece.length)) := by
  obtain ⟨⟨hle, hs⟩, hleast⟩ := h
  have hb : base ≤ t.length := hle.trans hs.1
  have hthere : HasAt (t.drop base) piece (start - base) := by
    rw [hasAt_drop hb]
    rwa [Nat.add_sub_cancel' hle]
  cases hcut : cut? piece (t.drop base) with
  | none => exact absurd hthere (cut?_eq_none_iff.mp hcut _)
  | some found =>
    obtain ⟨before, after⟩ := found
    have heq := eq_of_cut? hcut
    have hfound : HasAt t piece (base + before.length) :=
      (hasAt_drop hb).mp (hasAt_iff.mpr ⟨before, after, rfl, heq⟩)
    have hlow := length_le_of_cut? hcut hthere
    have hhigh := hleast ⟨Nat.le_add_right base before.length, hfound⟩
    have hlength : start - base = before.length := by omega
    have hend : start + piece.length = base + (before ++ piece).length := by
      rw [List.length_append]
      omega
    rw [hend, ← List.drop_drop, hlength, heq, List.take_left, ← List.append_assoc, List.drop_left]

theorem cut?_drop_eq_none (hb : base ≤ t.length) (h : ∀ start, base ≤ start → ¬ HasAt t piece start) :
    cut? piece (t.drop base) = none := by
  rw [cut?_eq_none_iff]
  intro start hs
  exact h (base + start) (Nat.le_add_right base start) ((hasAt_drop hb).mp hs)

/-- Pieces stand at places in a text, in order and without overlaps. -/
structure Located (t : Text) (places : List (Nat × Text)) : Prop where
  stand : ∀ place ∈ places, HasAt t place.2 place.1
  apart : places.Pairwise fun place next => place.1 + place.2.length ≤ next.1

def Holds (t : Text) (pieces : List Text) : Prop :=
  ∃ places, Located t places ∧ places.map Prod.snd = pieces

/-- Each piece stands at its leftmost place behind the one before it, the first one from a position
on. -/
def Leftmost (t : Text) : Nat → List (Nat × Text) → Prop
  | _, [] => True
  | base, (start, piece) :: places =>
    FirstAt t piece base start ∧ Leftmost t (start + piece.length) places

def behind : Nat → List (Nat × Text) → Nat
  | base, [] => base
  | _, (start, piece) :: places => behind (start + piece.length) places

theorem located_cons :
    Located t ((start, piece) :: places) ↔
      HasAt t piece start ∧ (∀ place ∈ places, start + piece.length ≤ place.1) ∧ Located t places := by
  constructor
  · rintro ⟨hs, ha⟩
    obtain ⟨hfirst, hrest⟩ := List.forall_mem_cons.mp hs
    obtain ⟨hbehind, hapart⟩ := List.pairwise_cons.mp ha
    exact ⟨hfirst, hbehind, hrest, hapart⟩
  · rintro ⟨hfirst, hbehind, hrest, hapart⟩
    exact ⟨List.forall_mem_cons.mpr ⟨hfirst, hrest⟩, List.pairwise_cons.mpr ⟨hbehind, hapart⟩⟩

theorem Leftmost.le (h : Leftmost t base places) : ∀ place ∈ places, base ≤ place.1 := by
  induction places generalizing base with
  | nil => simp
  | cons place places ih =>
    obtain ⟨start, piece⟩ := place
    have hfirst : base ≤ start := h.1.1.1
    refine List.forall_mem_cons.mpr ⟨hfirst, fun next hn => ?_⟩
    have hnext := ih h.2 next hn
    omega

theorem Leftmost.located (h : Leftmost t base places) : Located t places := by
  induction places generalizing base with
  | nil => exact ⟨by simp, .nil⟩
  | cons place places ih => exact located_cons.mpr ⟨h.1.1.2, h.2.le, ih h.2⟩

/-- Pieces that can be located can be located leftmost. The induction moves the first piece to its
leftmost place: the others stand behind its old end, and the new one is no later. -/
theorem exists_leftmost (h : Located t places) (hb : ∀ place ∈ places, base ≤ place.1) :
    ∃ found, Leftmost t base found ∧ found.map Prod.snd = places.map Prod.snd := by
  induction places generalizing base with
  | nil => exact ⟨[], trivial, rfl⟩
  | cons place places ih =>
    obtain ⟨start, piece⟩ := place
    obtain ⟨hs, hbehind, hrest⟩ := located_cons.mp h
    obtain ⟨first, hfirst, hle⟩ := exists_firstAt (hb _ List.mem_cons_self) hs
    have hmoved : ∀ next ∈ places, first + piece.length ≤ next.1 := by
      intro next hn
      have hnext := hbehind next hn
      omega
    obtain ⟨found, hfound, hpieces⟩ := ih hrest hmoved
    exact ⟨(first, piece) :: found, ⟨hfirst, hfound⟩, by simp [hpieces]⟩

theorem holds_iff_leftmost {pieces : List Text} :
    Holds t pieces ↔ ∃ places, Leftmost t 0 places ∧ places.map Prod.snd = pieces := by
  constructor
  · rintro ⟨places, hl, rfl⟩
    exact exists_leftmost hl fun place _ => Nat.zero_le place.1
  · rintro ⟨places, hl, hp⟩
    exact ⟨places, hl.located, hp⟩

/-- The stretches of a text from a position on that lie around places: one before each, and one
behind the last. -/
def stretches (t : Text) : Nat → List (Nat × Text) → List Text
  | base, [] => [t.drop base]
  | base, (start, piece) :: places =>
    (t.drop base).take (start - base) :: stretches t (start + piece.length) places

def weave : List Text → List Text → Text
  | stretch :: rest, piece :: pieces => stretch ++ (piece ++ weave rest pieces)
  | rest, _ => rest.flatten

/-- Where the pieces between stretches stand, if the first stretch begins at a position. -/
def woven : Nat → List Text → List Text → List (Nat × Text)
  | base, stretch :: rest, piece :: pieces =>
    (base + stretch.length, piece) :: woven (base + stretch.length + piece.length) rest pieces
  | _, _, _ => []

theorem length_stretches (t : Text) (base : Nat) (places : List (Nat × Text)) :
    (stretches t base places).length = places.length + 1 := by
  induction places generalizing base with
  | nil => rfl
  | cons place places ih => simp [stretches, ih]

/-- The pieces of a text between the stretches around them are the text. -/
theorem weave_stretches (h : Located t places) (hb : ∀ place ∈ places, base ≤ place.1) :
    weave (stretches t base places) (places.map Prod.snd) = t.drop base := by
  induction places generalizing base with
  | nil => simp [stretches, weave]
  | cons place places ih =>
    obtain ⟨start, piece⟩ := place
    obtain ⟨hs, hbehind, hrest⟩ := located_cons.mp h
    have hle : base ≤ start := hb _ List.mem_cons_self
    have hdrop : t.drop start = (t.drop base).drop (start - base) := by
      rw [List.drop_drop, Nat.add_sub_cancel' hle]
    rw [stretches, List.map_cons, weave, ih hrest hbehind, hs.append_drop, hdrop,
      List.take_append_drop]

section Woven

variable {gaps pieces : List Text}

theorem map_woven (hl : gaps.length = pieces.length + 1) (base : Nat) :
    (woven base gaps pieces).map Prod.snd = pieces := by
  induction pieces generalizing base gaps with
  | nil => cases gaps <;> rfl
  | cons piece pieces ih =>
    cases gaps with
    | nil => simp at hl
    | cons gap gaps => simp [woven, ih (Nat.succ.inj hl)]

/-- Pieces between stretches stand where they have been put, with the stretches around them. The
induction takes each piece, with the stretch before it, over to the text on the left. -/
theorem located_woven (hl : gaps.length = pieces.length + 1) (left : Text) :
    Located (left ++ weave gaps pieces) (woven left.length gaps pieces) ∧
      (∀ place ∈ woven left.length gaps pieces, left.length ≤ place.1) ∧
      stretches (left ++ weave gaps pieces) left.length (woven left.length gaps pieces) = gaps := by
  induction pieces generalizing gaps left with
  | nil =>
    obtain ⟨gap, rfl⟩ := List.length_eq_one_iff.mp hl
    exact ⟨⟨by simp [woven], .nil⟩, by simp [woven], by simp [woven, stretches, weave]⟩
  | cons piece pieces ih =>
    cases gaps with
    | nil => simp at hl
    | cons gap gaps =>
      obtain ⟨hlocated, hbehind, haround⟩ := ih (Nat.succ.inj hl) (left ++ (gap ++ piece))
      have hlength : (left ++ (gap ++ piece)).length = left.length + gap.length + piece.length := by
        simp only [List.length_append, Nat.add_assoc]
      have htext : left ++ (gap ++ piece) ++ weave gaps pieces =
          left ++ weave (gap :: gaps) (piece :: pieces) := by
        simp [weave]
      rw [hlength] at hlocated hbehind haround
      rw [htext] at hlocated haround
      have hhere : HasAt (left ++ weave (gap :: gaps) (piece :: pieces)) piece
          (left.length + gap.length) :=
        hasAt_iff.mpr ⟨left ++ gap, weave gaps pieces, by simp, by simp [weave]⟩
      refine ⟨located_cons.mpr ⟨hhere, hbehind, hlocated⟩, ?_, ?_⟩
      · refine List.forall_mem_cons.mpr ⟨Nat.le_add_right _ _, fun place hp => ?_⟩
        have hplace := hbehind place hp
        omega
      · rw [woven, stretches, haround]
        simp [weave]

/-- Putting other pieces between the stretches can be undone. -/
theorem exists_woven (hl : gaps.length = pieces.length + 1) :
    ∃ places, Located (weave gaps pieces) places ∧ places.map Prod.snd = pieces ∧
      stretches (weave gaps pieces) 0 places = gaps := by
  obtain ⟨hlocated, -, haround⟩ := located_woven hl []
  exact ⟨woven 0 gaps pieces, hlocated, map_woven hl 0, haround⟩

end Woven

end Phrasebook.Text
