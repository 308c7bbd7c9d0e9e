import Phrasebook.Phrase
import Phrasebook.Proofs.Places

/-!
# Replacing braced texts

Renaming takes any placeholders, also such as do not belong to the phrase: their braced texts may be
empty, overlap, or stand nowhere. Each is looked for behind the one before it. So all are replaced as
soon as they can be located in the phrase in order at all, and else renaming fails at the first that
is not found behind the leftmost places of the earlier ones. What lies around the braced texts stays,
and with them in place of the new names it is the phrase again.
-/

namespace Phrasebook.Phrase

variable {phrase t : Text} {base : Nat} {places : List (Nat × Text)} {p : Placeholder}
  {ps : List Placeholder}

def oldTexts (ps : List Placeholder) : List Text := ps.map Placeholder.braced

def newTexts (ps : List Placeholder) : List Text := ps.map fun p => braced p.uniqueName

/-- The braced text of a placeholder stands nowhere behind the leftmost places of the earlier ones,
the first of which is looked for from a position on. -/
def FirstMissing (t : Text) (base : Nat) (ps : List Placeholder) (p : Placeholder) : Prop :=
  ∃ earlier later places, ps = earlier ++ p :: later ∧ Text.Leftmost t base places ∧
    places.map Prod.snd = oldTexts earlier ∧
    ∀ start, Text.behind base places ≤ start → ¬ Text.HasAt t p.braced start

theorem FirstMissing.later {q : Placeholder} {start : Nat}
    (hq : Text.FirstAt t q.braced base start)
    (h : FirstMissing t (start + q.braced.length) ps p) : FirstMissing t base (q :: ps) p := by
  obtain ⟨earlier, later, places, rfl, hl, hp, hno⟩ := h
  exact ⟨q :: earlier, later, (start, q.braced) :: places, rfl, ⟨hq, hl⟩,
    congrArg (q.braced :: ·) hp, hno⟩

/-- Either all braced texts have leftmost places or one is the first without. -/
theorem leftmost_or_missing (t : Text) (base : Nat) (ps : List Placeholder) :
    (∃ places, Text.Leftmost t base places ∧ places.map Prod.snd = oldTexts ps) ∨
      ∃ p, FirstMissing t base ps p := by
  induction ps generalizing base with
  | nil => exact .inl ⟨[], trivial, rfl⟩
  | cons p ps ih =>
    by_cases hp : ∃ start, base ≤ start ∧ Text.HasAt t p.braced start
    · obtain ⟨start, hb, hs⟩ := hp
      obtain ⟨first, hfirst, -⟩ := Text.exists_firstAt hb hs
      rcases ih (first + p.braced.length) with ⟨places, hl, hpieces⟩ | ⟨q, hq⟩
      · exact .inl ⟨(first, p.braced) :: places, ⟨hfirst, hl⟩, congrArg (p.braced :: ·) hpieces⟩
      · exact .inr ⟨q, hq.later hfirst⟩
    · exact .inr ⟨p, [], ps, [], rfl, trivial, rfl, fun start hb hs => hp ⟨start, hb, hs⟩⟩

/-- A braced text that is found is replaced, and renaming goes on behind it. -/
theorem renameFrom_of_firstAt {start : Nat} (h : Text.FirstAt t p.braced base start) :
    renameFrom phrase (t.drop base) (p :: ps) =
      (renameFrom phrase (t.drop (start + p.braced.length)) ps).map fun renamed =>
        (t.drop base).take (start - base) ++ braced p.uniqueName ++ renamed := by
  rw [renameFrom, Text.cut?_drop_of_firstAt h]

/-- A braced text that is not found stops renaming. -/
theorem renameFrom_of_not_hasAt (hb : base ≤ t.length)
    (h : ∀ start, base ≤ start → ¬ Text.HasAt t p.braced start) :
    renameFrom phrase (t.drop base) (p :: ps) = .error (.placeholderNotFound p.braced phrase) := by
  rw [renameFrom, Text.cut?_drop_eq_none hb h]

/-- With all braced texts found, the new ones stand between the stretches around them. -/
theorem renameFrom_of_leftmost (h : Text.Leftmost t base places)
    (hp : places.map Prod.snd = oldTexts ps) :
    renameFrom phrase (t.drop base) ps =
      .ok (Text.weave (Text.stretches t base places) (newTexts ps)) := by
  induction ps generalizing base places with
  | nil =>
    obtain rfl := List.map_eq_nil_iff.mp hp
    simp [renameFrom, Text.stretches, Text.weave, newTexts]
  | cons p ps ih =>
    cases places with
    | nil => cases hp
    | cons place places =>
      obtain ⟨start, piece⟩ := place
      obtain ⟨rfl, hpieces⟩ := List.cons.inj hp
      obtain ⟨hfirst, hrest⟩ := h
      rw [renameFrom_of_firstAt hfirst, ih hrest hpieces]
      simp [Except.map, Text.stretches, Text.weave, newTexts]

/-- With a braced text missing, renaming reports the first such one. -/
theorem renameFrom_of_missing (hb : base ≤ t.length) (h : FirstMissing t base ps p) :
    renameFrom phrase (t.drop base) ps = .error (.placeholderNotFound p.braced phrase) := by
  obtain ⟨earlier, later, places, rfl, hl, hp, hno⟩ := h
  induction earlier generalizing base places with
  | nil =>
    obtain rfl := List.map_eq_nil_iff.mp hp
    exact renameFrom_of_not_hasAt hb hno
  | cons q earlier ih =>
    cases places with
    | nil => cases hp
    | cons place places =>
      obtain ⟨start, piece⟩ := place
      obtain ⟨rfl, hpieces⟩ := List.cons.inj hp
      obtain ⟨hfirst, hrest⟩ := hl
      have hmore := ih hfirst.1.2.end_le places hrest hpieces hno
      rw [List.cons_append, renameFrom_of_firstAt hfirst, hmore]
      rfl

theorem rename_of_leftmost (h : Text.Leftmost phrase 0 places)
    (hp : places.map Prod.snd = oldTexts ps) :
    rename phrase ps = .ok (Text.weave (Text.stretches phrase 0 places) (newTexts ps)) :=
  renameFrom_of_leftmost h hp

theorem rename_of_missing (h : FirstMissing phrase 0 ps p) :
    rename phrase ps = .error (.placeholderNotFound p.braced phrase) :=
  renameFrom_of_missing (Nat.zero_le phrase.length) h

/-- One text becomes another by putting pieces in the places of others: around them all is the
same. -/
structure Exchanged (t u : Text) (places others : List (Nat × Text)) : Prop where
  located : Text.Located t places
  relocated : Text.Located u others
  around : Text.stretches t 0 places = Text.stretches u 0 others

/-- Exchanging pieces can be undone. -/
theorem Exchanged.weave_eq {u : Text} {others : List (Nat × Text)}
    (h : Exchanged t u places others) :
    Text.weave (Text.stretches u 0 others) (places.map Prod.snd) = t := by
  rw [← h.around]
  exact Text.weave_stretches h.located fun place _ => Nat.zero_le place.1

/-- The new texts stand around what the old ones stood around. -/
theorem exists_exchanged (h : Text.Leftmost t 0 places) (hp : places.map Prod.snd = oldTexts ps) :
    ∃ others, others.map Prod.snd = newTexts ps ∧
      Exchanged t (Text.weave (Text.stretches t 0 places) (newTexts ps)) places others := by
  have hcount : places.length = ps.length := by simpa [oldTexts] using congrArg List.length hp
  have hlength : (Text.stretches t 0 places).length = (newTexts ps).length + 1 := by
    rw [Text.length_stretches, hcount, newTexts, List.length_map]
  obtain ⟨others, hothers, hpieces, haround⟩ := Text.exists_woven hlength
  exact ⟨others, hpieces, h.located, hothers, haround.symm⟩

theorem rename_eq_ok_iff {renamed : Text} :
    rename phrase ps = .ok renamed ↔
      ∃ places, Text.Leftmost phrase 0 places ∧ places.map Prod.snd = oldTexts ps ∧
        renamed = Text.weave (Text.stretches phrase 0 places) (newTexts ps) := by
  constructor
  · intro h
    rcases leftmost_or_missing phrase 0 ps with ⟨places, hl, hp⟩ | ⟨p, hmissing⟩
    · rw [rename_of_leftmost hl hp] at h
      exact ⟨places, hl, hp, (Except.ok.inj h).symm⟩
    · rw [rename_of_missing hmissing] at h
      cases h
  · rintro ⟨places, hl, hp, rfl⟩
    exact rename_of_leftmost hl hp

theorem rename_eq_error_iff {failure : Failure} :
    rename phrase ps = .error failure ↔
      ∃ p, FirstMissing phrase 0 ps p ∧ failure = .placeholderNotFound p.braced phrase := by
  constructor
  · intro h
    rcases leftmost_or_missing phrase 0 ps with ⟨places, hl, hp⟩ | ⟨p, hmissing⟩
    · rw [rename_of_leftmost hl hp] at h
      cases h
    · rw [rename_of_missing hmissing] at h
      exact ⟨p, hmissing, (Except.error.inj h).symm⟩
  · rintro ⟨p, hmissing, rfl⟩
    exact rename_of_missing hmissing

/-- Renaming succeeds exactly if the braced texts can be located in the phrase in order and without
overlaps. Then they are exchanged for the new names at their leftmost places, and putting them back
in place of these gives the phrase. Else renaming fails at the first braced text that does not stand
behind the leftmost places of the earlier ones. -/
theorem rename_greedy (phrase : Text) (ps : List Placeholder) :
    ((∃ renamed, rename phrase ps = .ok renamed) ↔ Text.Holds phrase (oldTexts ps)) ∧
      (∀ renamed, rename phrase ps = .ok renamed →
        ∃ places others, Text.Leftmost phrase 0 places ∧ places.map Prod.snd = oldTexts ps ∧
          others.map Prod.snd = newTexts ps ∧ Exchanged phrase renamed places others ∧
          Text.weave (Text.stretches renamed 0 others) (oldTexts ps) = phrase) ∧
      ∀ failure, rename phrase ps = .error failure ↔
        ∃ p, FirstMissing phrase 0 ps p ∧ failure = .placeholderNotFound p.braced phrase ∧
          failure.label = "ValueError".toList := by
  refine ⟨⟨fun ⟨renamed, hr⟩ => ?_, fun h => ?_⟩, fun renamed hr => ?_, fun failure => ?_⟩
  · obtain ⟨places, hl, hp, -⟩ := rename_eq_ok_iff.mp hr
    exact ⟨places, hl.located, hp⟩
  · obtain ⟨places, hl, hp⟩ := Text.holds_iff_leftmost.mp h
    exact ⟨_, rename_of_leftmost hl hp⟩
  · obtain ⟨places, hl, hp, rfl⟩ := rename_eq_ok_iff.mp hr
    obtain ⟨others, hothers, hexchanged⟩ := exists_exchanged hl hp
    exact ⟨places, others, hl, hp, hothers, hexchanged, hp ▸ hexchanged.weave_eq⟩
  · rw [rename_eq_error_iff]
    constructor
    · rintro ⟨p, hmissing, rfl⟩
      exact ⟨p, hmissing, rfl, rfl⟩
    · rintro ⟨p, hmissing, he, -⟩
      exact ⟨p, hmissing, he⟩

def bracePhrase : Text := ['{', '{', '{', '}']

def overlapping : List Placeholder :=
  [⟨['{', '{'], ['a'], ['u']⟩, ⟨[], ['b'], ['v']⟩, ⟨['{'], ['c'], ['w']⟩]

def crowded : List Placeholder := [⟨['{', '{'], ['a'], ['u']⟩, ⟨['{', '{'], ['a'], ['v']⟩]

/-- The first two braces go to the first placeholder, nothing to the second and the third brace to
the last. Where two placeholders need two braces each, the second is missing. -/
theorem rename_greedy_overlapping :
    rename bracePhrase overlapping = .ok ['{', 'u', '}', '{', 'v', '}', '{', 'w', '}', '}'] ∧
      Text.Holds bracePhrase (oldTexts overlapping) ∧
      (∃ places others, Text.Leftmost bracePhrase 0 places ∧
        places.map Prod.snd = oldTexts overlapping ∧ others.map Prod.snd = newTexts overlapping ∧
        Exchanged bracePhrase ['{', 'u', '}', '{', 'v', '}', '{', 'w', '}', '}'] places others ∧
        Text.weave (Text.stretches ['{', 'u', '}', '{', 'v', '}', '{', 'w', '}', '}'] 0 others)
          (oldTexts overlapping) = bracePhrase) ∧
      ¬ Text.Holds bracePhrase (oldTexts crowded) ∧
      ∃ p, FirstMissing bracePhrase 0 crowded p ∧ p.braced = ['{', '{'] := by
  have hok : rename bracePhrase overlapping =
      .ok ['{', 'u', '}', '{', 'v', '}', '{', 'w', '}', '}'] := rfl
  have herror : rename bracePhrase crowded = .error (.placeholderNotFound ['{', '{'] bracePhrase) := rfl
  obtain ⟨hall, hrestore, -⟩ := rename_greedy bracePhrase overlapping
  obtain ⟨hcrowded, -, hfirst⟩ := rename_greedy bracePhrase crowded
  obtain ⟨p, hmissing, he, -⟩ := (hfirst _).mp herror
  have hbraced : p.braced = ['{', '{'] := (Failure.placeholderNotFound.inj he).1.symm
  refine ⟨hok, hall.mp ⟨_, hok⟩, hrestore _ hok, fun h => ?_, p, hmissing, hbraced⟩
  obtain ⟨renamed, hr⟩ := hcrowded.mpr h
  rw [herror] at hr
  cases hr

end Phrasebook.Phrase
