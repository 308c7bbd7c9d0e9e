import Phrasebook.Proofs.Decoder
import Phrasebook.Proofs.Matching

/-!
# Written lists

A list placeholder reads a text twice: its pattern takes what is written as a list of declared
texts, and its conversion splits the text and looks every element up. This file says when the two
agree on all texts, and which lists come back from the texts that write them.
-/

namespace Phrasebook

open ListText (elements join split)

/-- The pattern of a list takes what some declared texts write. -/
theorem Pattern.fits_listOf_iff {values : List Text} (h : values ≠ []) {nonEmpty : Bool} {t : Text} :
    Fits (listOf values nonEmpty) t ↔
      ∃ ts, (nonEmpty = true → ts ≠ []) ∧ (∀ u ∈ ts, u ∈ values) ∧ t = join ts := by
  rw [fits_iff_spells (reads_listOf h nonEmpty) (plain_listItems values nonEmpty),
    spells_listItems h]

namespace Decoder

variable {choices : Choices} {nonEmpty : Bool}

theorem elements_eq_nil_iff {t : Text} : elements t = [] ↔ t = [] :=
  ⟨fun he => by_contra fun ht => ListText.elements_ne_nil ht he, fun ht => ht ▸ rfl⟩

/-- A text is decoded to its elements if all of them are declared, and there is one where that is
required. -/
theorem decode_list_text_iff {t : Text} {result : Value} :
    (list choices nonEmpty).decode (.text t) = .ok result ↔
      (∀ u ∈ elements t, u ∈ choices.values) ∧ (nonEmpty = true → t ≠ []) ∧
        result = .list ((elements t).map .text) := by
  have hitems : elements? (Value.splitListText (.text t)) = some ((elements t).map .text) := rfl
  have hnil : (elements t).map Value.text ≠ [] ↔ t ≠ [] := by
    rw [Ne, List.map_eq_nil_iff, elements_eq_nil_iff]
  have hdeclared : (∀ item ∈ (elements t).map Value.text, declares choices item = true) ↔
      ∀ u ∈ elements t, u ∈ choices.values := by
    simp only [List.forall_mem_map, declares_text]
  rw [decode_list_iff, hitems]
  constructor
  · rintro ⟨items, he, hall, hne, rfl⟩
    cases he
    exact ⟨hdeclared.mp hall, fun hn => hnil.mp (hne hn), rfl⟩
  · rintro ⟨hall, hne, rfl⟩
    exact ⟨_, rfl, hdeclared.mpr hall, fun hn => hnil.mpr (hne hn), rfl⟩

/-- A text that is decoded is taken by the pattern. -/
theorem fits_of_decode {t : Text} {result : Value}
    (h : (list choices nonEmpty).decode (.text t) = .ok result) :
    Pattern.Fits (Pattern.listOf choices.values nonEmpty) t := by
  obtain ⟨hall, hne, -⟩ := decode_list_text_iff.mp h
  refine (Pattern.fits_listOf_iff choices.values_ne_nil).mpr
    ⟨elements t, fun hn he => hne hn (elements_eq_nil_iff.mp he), hall, ?_⟩
  rw [ListText.join_elements]

/-- What a written list of declared texts is split into is declared, if that is so for each text. -/
theorem elements_join_declared
    (h : ∀ t ∈ choices.values, ∀ piece ∈ split t, piece ∈ choices.values) {ts : List Text}
    (hts : ∀ t ∈ ts, t ∈ choices.values) : ∀ u ∈ elements (join ts), u ∈ choices.values := by
  intro u hu
  by_cases hnil : join ts = []
  · rw [hnil] at hu
    cases hu
  · obtain ⟨t, rest, rfl⟩ := List.exists_cons_of_ne_nil (l := ts) fun he => hnil (he ▸ rfl)
    rw [ListText.elements, if_neg (by simpa using hnil), ListText.split_join_eq_flatMap] at hu
    obtain ⟨v, hv, hpiece⟩ := List.mem_flatMap.mp hu
    exact h v (hts v hv) u hpiece

end Decoder

namespace Definition

/-- The pattern of a list takes exactly the texts that its conversion accepts if and only if what a
declared text is split into is declared, and the empty text is not declared where an element is
required. -/
theorem list_agrees_iff (choices : Choices) (nonEmpty : Bool) (name : Text) :
    ∃ type decoder, (list choices nonEmpty).compile name = .ok (type, decoder) ∧
      type.pattern = Pattern.listOf choices.values nonEmpty ∧
      ((∀ t, Pattern.Fits type.pattern t ↔ ∃ value, type.transform (.text t) = .ok value) ↔
        (∀ t ∈ choices.values, ∀ piece ∈ split t, piece ∈ choices.values) ∧
          ¬ (nonEmpty = true ∧ [] ∈ choices.values)) := by
  refine ⟨_, _, rfl, rfl, ?_⟩
  have hwritten : ∀ t ∈ choices.values,
      Pattern.Fits (Pattern.listOf choices.values nonEmpty) t := by
    intro t ht
    exact (Pattern.fits_listOf_iff choices.values_ne_nil).mpr
      ⟨[t], fun _ => List.cons_ne_nil t [], by simpa using ht, (ListText.join_singleton t).symm⟩
  constructor
  · intro hagree
    constructor
    · intro t ht piece hpiece
      obtain ⟨value, hvalue⟩ := (hagree t).mp (hwritten t ht)
      by_cases hnil : t = []
      · rw [hnil] at hpiece
        rw [List.mem_singleton.mp hpiece, ← hnil]
        exact ht
      · refine (Decoder.decode_list_text_iff.mp hvalue).1 piece ?_
        rwa [ListText.elements, if_neg (by simpa using hnil)]
    · rintro ⟨hn, hempty⟩
      obtain ⟨value, hvalue⟩ := (hagree []).mp (hwritten [] hempty)
      exact (Decoder.decode_list_text_iff.mp hvalue).2.1 hn rfl
  · rintro ⟨hclosed, hempty⟩ t
    constructor
    · intro hfits
      obtain ⟨ts, hne, hts, rfl⟩ := (Pattern.fits_listOf_iff choices.values_ne_nil).mp hfits
      refine ⟨_, Decoder.decode_list_text_iff.mpr
        ⟨Decoder.elements_join_declared hclosed hts, fun hn hnil => ?_, rfl⟩⟩
      -- nothing is written by no texts or by the empty one, and neither is allowed
      rcases ListText.join_eq_nil_iff.mp hnil with rfl | rfl
      · exact hne hn rfl
      · exact hempty ⟨hn, hts [] (by simp)⟩
    · rintro ⟨value, hvalue⟩
      exact Decoder.fits_of_decode hvalue

/-- A list of declared texts comes back from the text that writes it if and only if none of the
texts holds the separator and the list is not that of one empty text. -/
theorem transform_join_iff {values : List Text} {nonEmpty : Bool} {definition : Definition}
    (h : ofListValues values nonEmpty = .ok definition) (name : Text) {ts : List Text}
    (hts : ∀ t ∈ ts, t ∈ values) (hne : nonEmpty = true → ts ≠ []) :
    ∃ type decoder, definition.compile name = .ok (type, decoder) ∧
      (type.transform (.text (join ts)) = .ok (.list (ts.map .text)) ↔
        (∀ t ∈ ts, Text.mentions ListText.separator t = false) ∧ ts ≠ [[]]) := by
  cases values with
  | nil => cases h
  | cons first others =>
    cases h
    refine ⟨_, _, rfl, ?_⟩
    rw [← ListText.elements_join_iff]
    constructor
    · intro hok
      have hitems := Value.list.inj (Decoder.decode_list_text_iff.mp hok).2.2
      exact (List.map_injective_iff.mpr (fun _ _ => Value.text.inj) hitems).symm
    · intro helements
      refine Decoder.decode_list_text_iff.mpr ⟨?_, fun hn hnil => ?_, by rw [helements]⟩
      · rw [helements]
        exact hts
      · rw [hnil] at helements
        exact hne hn helements.symm

/-- Two texts, one of which ends in a comma and the other begins with a blank, so that they look as
if they held a separator where they meet. -/
def edged : List Text := [['a', ','], [' ', 'b']]

/-- A list of these texts comes back. -/
theorem transform_join_edged :
    ofListValues edged true = .ok (list ⟨['a', ','], [[' ', 'b']]⟩ true) ∧
      (∀ t ∈ [['a', ','], [' ', 'b'], ['a', ',']], t ∈ edged) ∧
      ∃ type decoder, (list ⟨['a', ','], [[' ', 'b']]⟩ true).compile ['n'] = .ok (type, decoder) ∧
        type.transform (.text ['a', ',', ',', ' ', ' ', 'b', ',', ' ', 'a', ',']) =
          .ok (.list [.text ['a', ','], .text [' ', 'b'], .text ['a', ',']]) := by
  have hts : ∀ t ∈ [['a', ','], [' ', 'b'], ['a', ',']], t ∈ edged := by decide
  obtain ⟨type, decoder, hc, hback⟩ :=
    @transform_join_iff edged true _ rfl ['n'] _ hts (by simp)
  exact ⟨rfl, hts, type, decoder, hc, hback.mpr (by decide)⟩

/-- A declared text that holds the separator is split and does not come back. -/
theorem list_of_held_separator_is_lost :
    ¬ ∀ (values : List Text) (nonEmpty : Bool) (definition : Definition) (name : Text)
        (type : ParameterType) (decoder : Decoder) (ts : List Text),
      ofListValues values nonEmpty = .ok definition →
        definition.compile name = .ok (type, decoder) →
        (∀ t ∈ ts, t ∈ values) → (nonEmpty = true → ts ≠ []) →
        type.transform (.text (join ts)) = .ok (.list (ts.map .text)) := by
  intro h
  have hback : (Decoder.list ⟨['a', ',', ' ', 'b'], []⟩ false).decode (.text ['a', ',', ' ', 'b']) =
      .ok (.list [.text ['a', ',', ' ', 'b']]) :=
    h [['a', ',', ' ', 'b']] false _ ['n'] _ _ [['a', ',', ' ', 'b']] rfl rfl (by simp) (by simp)
  have hdeclared := (Decoder.decode_list_text_iff.mp hback).1 ['a'] (by decide)
  exact absurd hdeclared (by decide)

end Definition

end Phrasebook
