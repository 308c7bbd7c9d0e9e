import Phrasebook.Decoding.Decoder

/-!
# What decoders accept

Exactly which values a decoder of declared texts and one of lists accept, and what they give.
-/

namespace Phrasebook.Decoder

variable {choices : Choices} {nonEmpty : Bool} {value result : Value}

theorem declares_iff : declares choices value = true ↔ ∃ t, t ∈ choices.values ∧ value = .text t := by
  cases value with
  | text t => simp [declares]
  | none | bool | int | float | list | tuple | dict | deferred => simp [declares]

theorem declares_text {t : Text} : declares choices (.text t) = true ↔ t ∈ choices.values := by
  simp [declares]

theorem elementIssues_eq_nil_iff {items : List Value} {index : Nat} :
    elementIssues choices index items = [] ↔ ∀ item ∈ items, declares choices item = true := by
  induction items generalizing index with
  | nil => simp [elementIssues]
  | cons item items ih =>
    rw [elementIssues]
    split
    · next hd => simp [ih, hd]
    · next hd => simp [hd]

/-- Values each of which is a declared text are declared texts. -/
theorem exists_texts {items : List Value} (h : ∀ item ∈ items, declares choices item = true) :
    ∃ ts : List Text, items = ts.map .text ∧ ∀ t ∈ ts, t ∈ choices.values := by
  induction items with
  | nil => exact ⟨[], rfl, fun t ht => absurd ht List.not_mem_nil⟩
  | cons item items ih =>
    obtain ⟨t, ht, rfl⟩ := declares_iff.mp (h item (by simp))
    obtain ⟨ts, rfl, hts⟩ := ih fun i hi => h i (List.mem_cons_of_mem _ hi)
    refine ⟨t :: ts, rfl, fun u hu => ?_⟩
    cases List.mem_cons.mp hu with
    | inl he => exact he ▸ ht
    | inr hr => exact hts u hr

theorem decode_eq_ok_iff {d : Decoder} : d.decode value = .ok result ↔ d.check value = .ok result := by
  rw [decode]
  cases d.check value with
  | ok found => simp only [Except.ok.injEq]
  | error issues =>
    constructor
    · intro h
      cases h
    · intro h
      cases h

/-- A decoder of declared texts accepts these and leaves them as they are. -/
theorem decode_choice_iff :
    (choice choices).decode value = .ok result ↔ declares choices value = true ∧ result = value := by
  rw [decode_eq_ok_iff, check]
  by_cases hd : declares choices value = true
  · rw [if_pos hd]
    simp [hd, eq_comm]
  · rw [if_neg hd]
    simp [hd]

/-- A decoder of lists accepts lists of declared texts, in whatever form they come. -/
theorem decode_list_iff :
    (list choices nonEmpty).decode value = .ok result ↔
      ∃ items, elements? value.splitListText = some items ∧
        (∀ item ∈ items, declares choices item = true) ∧ (nonEmpty = true → items ≠ []) ∧
        result = .list items := by
  rw [decode_eq_ok_iff, check]
  cases he : elements? value.splitListText with
  | none => simp
  | some items =>
    by_cases hshort : items = [] ∧ nonEmpty = true
    · simp [hshort]
    · have hlong : (items.isEmpty && nonEmpty) = false := by
        rw [Bool.and_eq_false_iff]
        by_cases hn : nonEmpty = true
        · exact .inl (by simpa using fun h => hshort ⟨h, hn⟩)
        · exact .inr (by simpa using hn)
      have hne : nonEmpty = true → items ≠ [] := fun hn h => hshort ⟨h, hn⟩
      simp only [hlong, Bool.false_eq_true, if_false]
      cases hissues : elementIssues choices 0 items with
      | nil =>
        have hall := elementIssues_eq_nil_iff.mp hissues
        constructor
        · intro h
          exact ⟨items, rfl, hall, hne, (Except.ok.inj h).symm⟩
        · rintro ⟨_, h, -, -, rfl⟩
          cases h
          rfl
      | cons issue issues =>
        constructor
        · intro h
          cases h
        · rintro ⟨_, h, hall, -, -⟩
          cases h
          rw [elementIssues_eq_nil_iff.mpr hall] at hissues
          cases hissues

/-- What a decoder of lists gives is decoded to itself. -/
theorem decode_list_again (h : (list choices nonEmpty).decode value = .ok result) :
    (list choices nonEmpty).decode result = .ok result := by
  obtain ⟨items, -, hall, hne, rfl⟩ := decode_list_iff.mp h
  exact decode_list_iff.mpr ⟨items, rfl, hall, hne, rfl⟩

/-- A decoder of declared texts gives nothing but these. -/
theorem declared_of_choice (h : (choice choices).decode value = .ok result) :
    ∃ t, t ∈ choices.values ∧ result = .text t := by
  obtain ⟨hd, rfl⟩ := decode_choice_iff.mp h
  exact declares_iff.mp hd

/-- A decoder of lists gives nothing but lists of declared texts. -/
theorem declared_of_list (h : (list choices nonEmpty).decode value = .ok result) :
    ∃ ts : List Text, result = .list (ts.map .text) ∧ (∀ t ∈ ts, t ∈ choices.values) ∧
      (nonEmpty = true → ts ≠ []) := by
  obtain ⟨items, -, hall, hne, rfl⟩ := decode_list_iff.mp h
  obtain ⟨ts, rfl, hts⟩ := exists_texts hall
  refine ⟨ts, rfl, hts, ?_⟩
  rintro hn rfl
  exact hne hn rfl

end Phrasebook.Decoder
