import Phrasebook.Proofs.WrittenList

/-!
# What list texts mean

Reading a list text backwards: which lists of declared texts write it. The pattern of a list takes a
text if there is any such list, and a text may have many of them. The conversion accepts only lists
whose elements hold no separator, and of these there is one at most, except that the empty text may
also be the list of one empty text; it is then read as the empty list.
-/

namespace Phrasebook

open ListText (elements join)

/-- The pattern of a list is a pattern without groups, and takes exactly what some declared texts
write. -/
theorem Pattern.exists_read_listOf {values : List Text} (h : values ≠ []) (nonEmpty : Bool)
    (flags : Flags) [flags.Exact] :
    ∃ p, read flags (listOf values nonEmpty) = .ok (p, 0) ∧
      ∀ t, p.takes t = true ↔
        ∃ ts, (nonEmpty = true → ts ≠ []) ∧ (∀ u ∈ ts, u ∈ values) ∧ t = join ts := by
  have hreads : Reads flags (listOf values nonEmpty) (listItems values nonEmpty) :=
    reads_listOf h nonEmpty
  refine ⟨row (listItems values nonEmpty), hreads.read_eq, fun t => ?_⟩
  rw [takes_iff_spells (plain_listItems values nonEmpty), spells_listItems h]

/-- Whatever texts are declared, the pattern of a list has no groups. It takes what one or more of
them write, and the empty text unless an element is required, however line ends are dealt with. -/
theorem Pattern.listOf_takes_iff (first : Text) (others : List Text)
    (nonEmpty multiline dotAll : Bool) :
    ∃ p, read ⟨false, multiline, dotAll, false, false⟩ (listOf (first :: others) nonEmpty) =
        .ok (p, 0) ∧
      ∀ t, p.takes t = true ↔
        (∃ ts, ts ≠ [] ∧ (∀ u ∈ ts, u ∈ first :: others) ∧ t = join ts) ∨
          t = [] ∧ nonEmpty = false := by
  obtain ⟨p, hp, htakes⟩ := exists_read_listOf (List.cons_ne_nil first others) nonEmpty
    ⟨false, multiline, dotAll, false, false⟩
  refine ⟨p, hp, fun t => (htakes t).trans ⟨?_, ?_⟩⟩
  · rintro ⟨ts, hne, hts, rfl⟩
    by_cases hnil : ts = []
    · subst hnil
      exact .inr ⟨rfl, Bool.eq_false_iff.mpr fun hn => hne hn rfl⟩
    · exact .inl ⟨ts, hnil, hts, rfl⟩
  · rintro (⟨ts, hnil, hts, rfl⟩ | ⟨rfl, hn⟩)
    · exact ⟨ts, fun _ => hnil, hts, rfl⟩
    · exact ⟨[], by simp [hn], by simp, rfl⟩

/-- Declared texts that hold no separator, which can be the elements of a list text. -/
def Choices.Separable (choices : Choices) (ts : List Text) : Prop :=
  ∀ u ∈ ts, u ∈ choices.values ∧ Text.mentions ListText.separator u = false

instance (choices : Choices) (ts : List Text) : Decidable (choices.Separable ts) :=
  inferInstanceAs (Decidable (∀ u ∈ ts, _ ∧ _))

namespace Decoder

variable {choices : Choices} {nonEmpty : Bool} {t : Text}

/-- The elements of a text are declared texts without separators as soon as they are declared. -/
theorem separable_elements (h : ∀ u ∈ elements t, u ∈ choices.values) :
    choices.Separable (elements t) := by
  have hback : elements (join (elements t)) = elements t := by rw [ListText.join_elements]
  exact fun u hu => ⟨h u hu, (ListText.elements_join_iff.mp hback).1 u hu⟩

/-- A text has no other elements than those that write it. -/
theorem elements_eq_of_join {ts : List Text} (hts : choices.Separable ts) (hj : join ts = t)
    (ht : t ≠ []) : elements t = ts := by
  rw [← hj] at ht ⊢
  refine ListText.elements_join_iff.mpr ⟨fun u hu => (hts u hu).2, ?_⟩
  rintro rfl
  exact ht rfl

/-- A text is decoded exactly if it is empty where that is allowed, or declared texts without
separators write it. -/
theorem exists_decode_list_text_iff :
    (∃ value, (list choices nonEmpty).decode (.text t) = .ok value) ↔
      t = [] ∧ nonEmpty = false ∨ t ≠ [] ∧ ∃ ts, choices.Separable ts ∧ t = join ts := by
  constructor
  · rintro ⟨value, hv⟩
    obtain ⟨hall, hne, -⟩ := decode_list_text_iff.mp hv
    by_cases ht : t = []
    · exact .inl ⟨ht, Bool.eq_false_iff.mpr fun hn => hne hn ht⟩
    · exact .inr ⟨ht, elements t, separable_elements hall, (ListText.join_elements t).symm⟩
  · rintro (⟨rfl, hn⟩ | ⟨ht, ts, hts, hj⟩)
    · exact ⟨_, decode_list_text_iff.mpr ⟨by simp, by simp [hn], rfl⟩⟩
    · refine ⟨_, decode_list_text_iff.mpr ⟨?_, fun _ => ht, rfl⟩⟩
      rw [elements_eq_of_join hts hj.symm ht]
      exact fun u hu => (hts u hu).1

end Decoder

/-- A list accepts the empty text unless an element is required, and any other text that declared
texts without separators write. It gives these texts, which are the only ones to write it, and none
for the empty text; and it leaves what it gives as it is. -/
theorem Definition.list_meaning (choices : Choices) (nonEmpty : Bool) (name : Text) :
    ∃ type decoder, (list choices nonEmpty).compile name = .ok (type, decoder) ∧
      (∀ t, (∃ value, type.transform (.text t) = .ok value) ↔
        t = [] ∧ nonEmpty = false ∨ t ≠ [] ∧ ∃ ts, choices.Separable ts ∧ t = join ts) ∧
      ∀ t value, type.transform (.text t) = .ok value →
        ∃ ts, value = .list (ts.map .text) ∧ choices.Separable ts ∧ t = join ts ∧
          (t = [] → ts = []) ∧ (t ≠ [] → ∀ us, choices.Separable us → t = join us → us = ts) ∧
          decoder.decode value = .ok value := by
  refine ⟨_, _, rfl, fun t => Decoder.exists_decode_list_text_iff, fun t value hv => ?_⟩
  obtain ⟨hall, -, rfl⟩ := Decoder.decode_list_text_iff.mp hv
  refine ⟨elements t, rfl, Decoder.separable_elements hall, (ListText.join_elements t).symm, ?_, ?_,
    Decoder.decode_list_again hv⟩
  · rintro rfl
    rfl
  · intro ht us hus hj
    exact (Decoder.elements_eq_of_join hus hj.symm ht).symm

/-- Texts with which a list text looks as if it held more separators than it does, the empty text,
and one that no list text can hold. -/
def Choices.deceptive : Choices := ⟨[], [['a', ','], [' ', 'b'], ['a', ',', ' ', 'b']]⟩

/-- Empty texts at both ends are elements as any other. -/
theorem Definition.list_meaning_deceptive :
    ∃ type decoder, (list .deceptive true).compile ['n'] = .ok (type, decoder) ∧
      type.transform (.text [',', ' ', 'a', ',', ',', ' ', ' ', 'b', ',', ' ']) =
        .ok (.list [.text [], .text ['a', ','], .text [' ', 'b'], .text []]) ∧
      decoder.decode (.list [.text [], .text ['a', ','], .text [' ', 'b'], .text []]) =
        .ok (.list [.text [], .text ['a', ','], .text [' ', 'b'], .text []]) := by
  have hts : Choices.deceptive.Separable [[], ['a', ','], [' ', 'b'], []] := by decide
  obtain ⟨type, decoder, hc, haccepts, hgives⟩ := list_meaning .deceptive true ['n']
  obtain ⟨value, hv⟩ := (haccepts _).mpr (.inr ⟨List.cons_ne_nil _ _, _, hts, rfl⟩)
  obtain ⟨ts, rfl, -, -, -, honly, hback⟩ := hgives _ value hv
  obtain rfl := honly (List.cons_ne_nil _ _) _ hts rfl
  exact ⟨type, decoder, hc, hv, hback⟩

end Phrasebook
