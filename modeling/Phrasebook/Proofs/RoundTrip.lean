import Phrasebook.Proofs.Decoder
import Phrasebook.Proofs.Matching
import Phrasebook.Proofs.Phrase.Filling

/-!
# What is written is what is received

Sum and list placeholders that are kept apart by characters of the phrase can be filled with any
declared values: running the text that they write calls the handler with these values. Values may
begin like one another, hold other values, or hold characters that mean something in patterns.
-/

namespace Phrasebook

namespace Definition

def values : Definition → List Text
  | sum choices => choices.values
  | list choices _ => choices.values
  | string | raw _ | unknown _ => []

def Declaring : Definition → Prop
  | sum _ | list _ _ => True
  | string | raw _ | unknown _ => False

/-- The text writes a value that the definition declares. -/
inductive Writes : Definition → Text → Value → Prop where
  | one {choices : Choices} {t : Text} (h : t ∈ choices.values) : Writes (sum choices) t (.text t)
  | several {choices : Choices} {nonEmpty : Bool} {ts : List Text}
      (h : ∀ t ∈ ts, t ∈ choices.values) (hn : nonEmpty = true → ts ≠ []) :
      Writes (list choices nonEmpty) (ListText.join ts) (.list (ts.map .text))

/-- Lists of its values can be read back: no value is empty or holds the separator. -/
def Splittable : Definition → Prop
  | list choices _ =>
    ∀ t ∈ choices.values, t ≠ [] ∧ Text.mentions ListText.separator t = false
  | sum _ | string | raw _ | unknown _ => True

variable {definition : Definition} {t : Text} {value : Value}

theorem Declaring.generated (h : definition.Declaring) : definition.Generated := by
  cases definition with
  | sum | list => trivial
  | string | raw | unknown => exact h.elim

theorem Declaring.known (h : definition.Declaring) (value : Value) : definition ≠ .unknown value := by
  rintro rfl
  exact h

/-- The pattern takes what is written. -/
theorem Writes.spells (h : definition.Writes t value) :
    (Pattern.row definition.items).Spells t := by
  cases h with
  | @one choices _ h =>
    exact Pattern.spells_row_singleton.mpr ((Pattern.spells_valuesItem choices.values_ne_nil).mpr h)
  | @several choices nonEmpty ts h hn =>
    exact (Pattern.spells_listItems choices.values_ne_nil).mpr ⟨ts, hn, h, rfl⟩

/-- The conversion gives back the value that was written. -/
theorem Writes.convert (h : definition.Writes t value) (hs : definition.Splittable) :
    definition.fieldType.convert (.text t) = .ok value := by
  cases h with
  | @one choices _ h => exact Decoder.decode_choice_iff.mpr ⟨Decoder.declares_text.mpr h, rfl⟩
  | @several choices nonEmpty ts h hn =>
    have he : ListText.elements (ListText.join ts) = ts :=
      ListText.elements_join fun t ht => hs t (h t ht)
    refine Decoder.decode_list_iff.mpr ⟨ts.map .text, ?_, ?_, ?_, rfl⟩
    · rw [Value.splitListText, he]
      rfl
    · intro item hi
      obtain ⟨t, ht, rfl⟩ := List.mem_map.mp hi
      exact Decoder.declares_text.mpr (h t ht)
    · intro hne hnil
      exact hn hne (List.map_eq_nil_iff.mp hnil)

/-- A text that the pattern takes holds characters of declared texts, commas and blanks only. -/
theorem chars_of_spells (h : (Pattern.row definition.items).Spells t) (hd : definition.Declaring)
    {c : Char} (hc : c ∈ t) : c = ',' ∨ c = ' ' ∨ ∃ u, u ∈ definition.values ∧ c ∈ u := by
  cases definition with
  | sum choices =>
    have ht := (Pattern.spells_valuesItem choices.values_ne_nil).mp
      (Pattern.spells_row_singleton.mp h)
    exact .inr (.inr ⟨t, ht, hc⟩)
  | list choices nonEmpty =>
    obtain ⟨ts, -, hts, rfl⟩ := (Pattern.spells_listItems choices.values_ne_nil).mp h
    rcases ListText.mem_join hc with hs | ⟨u, hu, hcu⟩
    · simp only [ListText.separator, List.mem_cons, List.not_mem_nil, or_false] at hs
      exact hs.elim .inl fun hb => .inr (.inl hb)
    · exact .inr (.inr ⟨u, hts u hu, hcu⟩)
  | string | raw | unknown => exact hd.elim

end Definition

namespace Request

variable {H : Type}

/-- A character that no placeholder of the phrase can hold. -/
def Mark (q : Request H) (c : Char) : Prop :=
  c ≠ ',' ∧ c ≠ ' ' ∧ ∀ name ∈ Phrase.names q.phrase, ∀ definition,
    q.definitions.find? name = some definition → ∀ t ∈ definition.values, c ∉ t

/-- Every placeholder declares its texts, lists can be read back, neighbouring placeholders are kept
apart by characters that neither holds, and no definition is left over unless that is let pass. -/
structure Fillable (q : Request H) : Prop where
  declaring : ∀ name ∈ Phrase.names q.phrase, isBuiltIn name = false ∧
    ∃ definition, q.definitions.find? name = some definition ∧ definition.Declaring
  splittable : ∀ name ∈ Phrase.names q.phrase, ∀ definition,
    q.definitions.find? name = some definition → definition.Splittable
  separated : Phrase.Separated q.Mark (Phrase.pieces q.phrase)
  used : Registrar.unused q.phrase q.definitions = [] ∨ q.registrar.settings.allowUnused = true

def Fills (q : Request H) (written : List (Text × Value)) : Prop :=
  List.Forall₂ (fun name w => ∃ definition, q.definitions.find? name = some definition ∧
    definition.Writes w.1 w.2) (Phrase.names q.phrase) written

theorem Fillable.generated {q : Request H} (h : q.Fillable) : q.Generated := by
  intro name hn definition hd
  obtain ⟨-, other, ho, hdeclaring⟩ := h.declaring name hn
  rw [hd] at ho
  cases ho
  exact hdeclaring.generated

theorem Fillable.make_ok {q : Request H} (h : q.Fillable) (hn : q.Named) :
    ∃ registration, (q.make (newDesk : Desk (Standalone H))).1 = .ok registration := by
  refine make_newDesk hn (fun name hname => ?_) h.used
  obtain ⟨-, definition, hd, hdeclaring⟩ := h.declaring name (List.mem_of_mem_filter hname)
  exact ⟨definition, hd, hdeclaring.known⟩

theorem itemsOf_declaring {q : Request H} {name : Text} {definition : Definition}
    (hb : isBuiltIn name = false) (hd : q.definitions.find? name = some definition) :
    q.definitions.itemsOf name = [⟨.ordinary, Pattern.row definition.items⟩] := by
  rw [Definitions.itemsOf, ofName?_eq_none hb, hd]

/-- What is written is a split of the text. -/
theorem Fills.splitsAs {q : Request H} (h : q.Fillable) {written : List (Text × Value)}
    (hw : q.Fills written) :
    Pattern.SplitsAs q.definitions.itemsOf (Phrase.pieces q.phrase)
      (Phrase.fill (Phrase.pieces q.phrase) (written.map (·.1))) (written.map (·.1)) := by
  refine ⟨rfl, ?_⟩
  rw [List.forall₂_map_right_iff]
  refine ((List.forall₂_and_left _ _).mpr ⟨fun name hn => hn, hw⟩).imp ?_
  rintro name w ⟨hn, definition, hd, hwrites⟩
  rw [itemsOf_declaring (h.declaring name hn).1 hd, Pattern.spells_row_singleton]
  exact hwrites.spells

/-- No text of a split holds a mark. -/
theorem not_mark_of_splitsAs {q : Request H} (h : q.Fillable) {text : Text} {texts : List Text}
    (hs : Pattern.SplitsAs q.definitions.itemsOf (Phrase.pieces q.phrase) text texts) :
    ∀ t ∈ texts, ∀ c ∈ t, ¬ q.Mark c := by
  rintro t ht c hc ⟨hcomma, hblank, hvalues⟩
  obtain ⟨name, hn, hspells⟩ := exists_left hs.2 ht
  obtain ⟨hb, definition, hd, hdeclaring⟩ := h.declaring name hn
  rw [itemsOf_declaring hb hd, Pattern.spells_row_singleton] at hspells
  rcases Definition.chars_of_spells hspells hdeclaring hc with he | he | ⟨u, hu, hcu⟩
  · exact hcomma he
  · exact hblank he
  · exact hvalues name hn definition hd u hu hcu

/-- The text can be split in no other way. -/
theorem Fills.unique {q : Request H} (h : q.Fillable) {written : List (Text × Value)}
    (hw : q.Fills written) {texts : List Text}
    (hs : Pattern.SplitsAs q.definitions.itemsOf (Phrase.pieces q.phrase)
      (Phrase.fill (Phrase.pieces q.phrase) (written.map (·.1))) texts) :
    texts = written.map (·.1) := by
  have hwritten := hw.splitsAs h
  exact Phrase.fill_injective h.separated hs.2.length_eq.symm hwritten.2.length_eq.symm
    (not_mark_of_splitsAs h hs) (not_mark_of_splitsAs h hwritten) hs.1.symm

/-- The conversions give back the values that were written. -/
theorem Fills.convertAll {q : Request H} (h : q.Fillable) {written : List (Text × Value)}
    (hw : q.Fills written) : q.convertAll (written.map (·.1)) = .ok (written.map (·.2)) := by
  refine convertAll_eq_ok (((List.forall₂_and_left _ _).mpr ⟨fun name hn => hn, hw⟩).imp ?_)
  rintro name w ⟨hn, definition, hd, hwrites⟩
  rw [Definitions.typeOf, ofName?_eq_none (h.declaring name hn).1, hd]
  exact hwrites.convert (h.splittable name hn definition hd)

end Request

namespace Standalone

variable {β : Type}

/-- Once the phrase is registered, what is written calls the handler with the values. -/
theorem call_filled {H : Type} {q : Request H} (hn : q.Named) (h : q.Fillable)
    {written : List (Text × Value)} (hw : q.Fills written) :
    (q.make Request.newDesk).2.host.call
      (Phrase.fill (Phrase.pieces q.phrase) (written.map (·.1))) =
        .ok (q.handler, written.map (·.2)) := by
  obtain ⟨registration, hr⟩ := h.make_ok hn
  obtain ⟨step, hsteps, hserved⟩ := Request.serves_make_of_ok hn hr
  have hsplit := (Request.splits_iff hserved h.generated _ _).mpr (hw.splitsAs h)
  obtain ⟨texts, hs, hread⟩ := (Request.read_of_servedBy hserved h.generated _).2 ⟨_, hsplit⟩
  -- the search may have chosen any split, but there is only one
  have htexts := hw.unique h ((Request.splits_iff hserved h.generated _ _).mp hs)
  rw [htexts, hw.convertAll h] at hread
  rw [call, find, hsteps, firstOf_cons_some hread]
  rw [← hserved.handler]
  rfl

/-- Registering such a phrase with a new host succeeds, and running the text that is written with
declared values calls the handler with these values. -/
theorem run_filled (q : Request (List Value → β)) (hn : q.Named) (h : q.Fillable) :
    (∃ registration, (q.make Request.newDesk).1 = .ok registration) ∧
      ∀ written, q.Fills written →
        (q.make Request.newDesk).2.host.run
          (Phrase.fill (Phrase.pieces q.phrase) (written.map (·.1))) =
            .ok (q.handler (written.map (·.2))) := by
  refine ⟨h.make_ok hn, fun written hw => ?_⟩
  rw [run, call_filled hn h hw]
  rfl

/-- A value and a list, kept apart by a character that means something in patterns. -/
def pairing : Request (List Value → List Value) :=
  ⟨⟨{}, fun _ => ['t']⟩, ['{', 'a', '}', '|', '{', 'b', '}'], id,
    [(['a'], .sum ⟨['x'], [['x', '}']]⟩), (['b'], .list ⟨['p'], [['p', '.']]⟩ true)]⟩

theorem pairing_definitions {name : Text} {definition : Definition}
    (h : pairing.definitions.find? name = some definition) :
    definition = .sum ⟨['x'], [['x', '}']]⟩ ∨ definition = .list ⟨['p'], [['p', '.']]⟩ true := by
  rcases List.mem_pair.mp (Table.mem_of_find? h) with he | he
  · exact .inl (Prod.mk.inj he).2
  · exact .inr (Prod.mk.inj he).2

theorem mark_pairing : pairing.Mark '|' := by
  refine ⟨by decide, by decide, fun name _ definition hd t ht => ?_⟩
  rcases pairing_definitions hd with rfl | rfl
  · revert t
    decide
  · revert t
    decide

theorem fillable_pairing : pairing.Fillable where
  declaring name hn := by
    rcases List.mem_pair.mp (show name ∈ [['a'], ['b']] from hn) with rfl | rfl
    · exact ⟨by decide, _, rfl, trivial⟩
    · exact ⟨by decide, _, rfl, trivial⟩
  splittable name _ definition hd := by
    rcases pairing_definitions hd with rfl | rfl
    · trivial
    · change ∀ t ∈ [['p'], ['p', '.']], t ≠ [] ∧ Text.mentions ListText.separator t = false
      decide
  separated := Phrase.separated_pair mark_pairing ['a'] ['b']
  used := .inl (by decide)

/-- Values that begin like others, and a list of several. -/
theorem run_pairing :
    pairing.Named ∧ pairing.Fillable ∧
      (∃ registration, (pairing.make Request.newDesk).1 = .ok registration) ∧
      (pairing.make Request.newDesk).2.host.run ['x', '}', '|', 'p', '.', ',', ' ', 'p'] =
        .ok [.text ['x', '}'], .list [.text ['p', '.'], .text ['p']]] := by
  have hn : pairing.Named := by
    intro n
    change Phrase.IsName ['t']
    decide
  have hfills : pairing.Fills [(['x', '}'], .text ['x', '}']),
      (['p', '.', ',', ' ', 'p'], .list [.text ['p', '.'], .text ['p']])] :=
    .cons ⟨_, rfl, .one (by decide)⟩ (.cons ⟨_, rfl,
      @Definition.Writes.several ⟨['p'], [['p', '.']]⟩ true [['p', '.'], ['p']] (by decide)
        (by decide)⟩ .nil)
  obtain ⟨hmade, hrun⟩ := run_filled pairing hn fillable_pairing
  exact ⟨hn, fillable_pairing, hmade, hrun _ hfills⟩

end Standalone

end Phrasebook
