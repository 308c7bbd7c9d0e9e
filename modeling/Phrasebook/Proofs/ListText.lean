import Mathlib.Data.List.Forall2
import Phrasebook.Proofs.Places
import Phrasebook.Text.Basic

/-!
# Splitting and joining

No separator straddles the border of two elements: whether an element ends in a comma or begins
with a blank, the separators of a written list are those that were put there and those that the
elements hold. So splitting a written list splits its elements one by one, and a list can be read
back exactly if no element holds a separator and it is not the one of a single empty text.
-/

namespace Phrasebook.ListText

theorem join_singleton (t : Text) : join [t] = t := by
  simp [join, Text.join, List.intercalate]

theorem join_cons_cons (t u : Text) (ts : List Text) :
    join (t :: u :: ts) = t ++ (separator ++ join (u :: ts)) := by
  simp [join, Text.join, List.intercalate]

theorem join_cons (t : Text) (ts : List Text) :
    join (t :: ts) = t ++ (ts.map (separator ++ ·)).flatten := by
  induction ts generalizing t with
  | nil => rw [join_singleton, List.map_nil, List.flatten_nil, List.append_nil]
  | cons u ts ih => rw [join_cons_cons, ih, List.map_cons, List.flatten_cons, List.append_assoc]

theorem join_ne_nil {t : Text} (h : t ≠ []) (ts : List Text) : join (t :: ts) ≠ [] := by
  intro he
  rw [join_cons] at he
  exact h (List.append_eq_nil_iff.mp he).1

/-- A character of a written list belongs to a separator or to an element. -/
theorem mem_join {c : Char} {ts : List Text} (h : c ∈ join ts) :
    c ∈ separator ∨ ∃ t, t ∈ ts ∧ c ∈ t := by
  induction ts with
  | nil => cases h
  | cons t ts ih =>
    cases ts with
    | nil =>
      rw [join_singleton] at h
      exact .inr ⟨t, by simp, h⟩
    | cons u ts =>
      rw [join_cons_cons, List.mem_append, List.mem_append] at h
      rcases h with h | h | h
      · exact .inr ⟨t, by simp, h⟩
      · exact .inl h
      · rcases ih h with hs | ⟨v, hv, hc⟩
        · exact .inl hs
        · exact .inr ⟨v, List.mem_cons_of_mem _ hv, hc⟩

/-- What stands in no element and in no separator does not stand in a written list. -/
theorem not_mem_join {c : Char} {ts : List Text} (hs : c ∉ separator) (ht : ∀ t ∈ ts, c ∉ t) :
    c ∉ join ts := by
  intro hm
  rcases mem_join hm with hsep | ⟨t, hmem, hc⟩
  · exact hs hsep
  · exact ht t hmem hc

/-- A character at which no separator begins belongs to the first stretch. -/
theorem split_cons {c : Char} {rest piece : Text} {pieces : List Text}
    (h : ∀ after, separator ++ after ≠ c :: rest) (hs : split rest = piece :: pieces) :
    split (c :: rest) = (c :: piece) :: pieces := by
  rw [split, hs]
  rintro after rfl rfl
  exact h after rfl

theorem mentions_cons {c : Char} {t : Text} (h : Text.mentions separator (c :: t) = false) :
    (∀ after, separator ++ after ≠ c :: t) ∧ Text.mentions separator t = false := by
  rw [Text.mentions, Text.cut?] at h
  cases hp : separator.isPrefixOf? (c :: t) with
  | some after =>
    rw [hp] at h
    cases h
  | none =>
    rw [hp] at h
    refine ⟨fun after he => ?_, ?_⟩
    · rw [List.isPrefixOf?_eq_some_iff_append_eq.mpr he] at hp
      cases hp
    · rw [Text.mentions]
      simpa using h

theorem split_of_not_mentions {t : Text} (h : Text.mentions separator t = false) :
    split t = [t] := by
  induction t with
  | nil => rfl
  | cons c t ih =>
    obtain ⟨hc, ht⟩ := mentions_cons h
    exact split_cons hc (ih ht)

/-- A separator ends a stretch, whatever stands before it. -/
theorem split_append_separator (t rest : Text) :
    split (t ++ (separator ++ rest)) = split t ++ split rest := by
  fun_induction split t with
  | case1 => rfl
  | case2 after ih => exact congrArg ([] :: ·) ih
  | case3 c t hno hs ih => exact absurd hs (split_ne_nil t)
  | case4 c t hno piece pieces hs ih =>
    rw [hs, List.cons_append] at ih
    refine split_cons (fun after he => ?_) ih
    obtain ⟨hcomma, he⟩ := List.cons.inj he
    cases t with
    -- the comma would be followed by that of the separator, not by a blank
    | nil => cases he
    | cons d t =>
      obtain ⟨hblank, -⟩ := List.cons.inj he
      exact hno t hcomma.symm (congrArg (· :: t) hblank.symm)

/-- The leftmost separator stands behind a text that holds none. -/
theorem split_append {t : Text} (h : Text.mentions separator t = false) (rest : Text) :
    split (t ++ (separator ++ rest)) = t :: split rest := by
  rw [split_append_separator, split_of_not_mentions h, List.singleton_append]

/-- A written list is split element by element. -/
theorem split_join_eq_flatMap (t : Text) (ts : List Text) :
    split (join (t :: ts)) = (t :: ts).flatMap split := by
  induction ts generalizing t with
  | nil => rw [join_singleton, List.flatMap_singleton]
  | cons u ts ih => rw [join_cons_cons, split_append_separator, ih, ← List.flatMap_cons]

theorem split_join {t : Text} {ts : List Text}
    (h : ∀ u ∈ t :: ts, Text.mentions separator u = false) : split (join (t :: ts)) = t :: ts := by
  induction ts generalizing t with
  | nil =>
    rw [join_singleton]
    exact split_of_not_mentions (h t (by simp))
  | cons u ts ih =>
    rw [join_cons_cons, split_append (h t (by simp)), ih fun v hv => h v (List.mem_cons_of_mem _ hv)]

/-- The elements of a written list are those that were written. -/
theorem elements_join {ts : List Text}
    (h : ∀ t ∈ ts, t ≠ [] ∧ Text.mentions separator t = false) : elements (join ts) = ts := by
  cases ts with
  | nil => rfl
  | cons t ts =>
    have hne : (join (t :: ts)).isEmpty = false := by
      rw [List.isEmpty_eq_false_iff]
      exact join_ne_nil (h t (by simp)).1 ts
    rw [elements, hne]
    exact split_join fun u hu => (h u hu).2

/-- The stretches with the separator between them are the text again. -/
theorem join_split (t : Text) : join (split t) = t := by
  fun_induction split t with
  | case1 => rfl
  | case2 rest ih =>
    obtain ⟨piece, pieces, hs⟩ := List.exists_cons_of_ne_nil (split_ne_nil rest)
    rw [hs] at ih ⊢
    rw [join_cons_cons, ih]
    rfl
  | case3 c rest hno hs ih => exact absurd hs (split_ne_nil rest)
  | case4 c rest hno piece pieces hs ih =>
    rw [hs, join_cons] at ih
    rw [join_cons, List.cons_append, ih]

theorem join_elements (t : Text) : join (elements t) = t := by
  by_cases h : t = []
  · rw [h]
    rfl
  · rw [elements, if_neg (by simpa using h), join_split]

theorem two_le_length_split {t : Text} (h : Text.mentions separator t = true) :
    2 ≤ (split t).length := by
  obtain ⟨⟨before, after⟩, hcut⟩ := Option.isSome_iff_exists.mp h
  have hb := List.length_pos_iff.mpr (split_ne_nil before)
  have ha := List.length_pos_iff.mpr (split_ne_nil after)
  rw [Text.eq_of_cut? hcut, split_append_separator, List.length_append]
  omega

theorem split_eq_singleton_iff {t : Text} :
    split t = [t] ↔ Text.mentions separator t = false := by
  refine ⟨fun hs => ?_, split_of_not_mentions⟩
  by_contra hm
  have hlong := two_le_length_split ((Bool.not_eq_false _).mp hm)
  rw [hs, List.length_singleton] at hlong
  omega

theorem length_le_flatMap_split (ts : List Text) : ts.length ≤ (ts.flatMap split).length := by
  induction ts with
  | nil => exact Nat.le_refl 0
  | cons t ts ih =>
    have ht := List.length_pos_iff.mpr (split_ne_nil t)
    rw [List.flatMap_cons, List.length_append, List.length_cons]
    omega

/-- Splitting leaves elements as they are only if none of them holds a separator. -/
theorem flatMap_split_eq_self_iff {ts : List Text} :
    ts.flatMap split = ts ↔ ∀ t ∈ ts, Text.mentions separator t = false := by
  induction ts with
  | nil => simp
  | cons t ts ih =>
    rw [List.flatMap_cons, List.forall_mem_cons, ← ih, ← split_eq_singleton_iff]
    constructor
    · intro he
      have hlength : (split t).length = [t].length := by
        have hall := congrArg List.length he
        have ht := List.length_pos_iff.mpr (split_ne_nil t)
        have hrest := length_le_flatMap_split ts
        rw [List.length_append, List.length_cons] at hall
        rw [List.length_singleton]
        omega
      exact List.append_inj he hlength
    · rintro ⟨ht, hts⟩
      rw [ht, hts, List.singleton_append]

theorem join_eq_nil_iff {ts : List Text} : join ts = [] ↔ ts = [] ∨ ts = [[]] := by
  constructor
  · intro he
    cases ts with
    | nil => exact .inl rfl
    | cons t ts =>
      cases ts with
      | nil =>
        rw [join_singleton] at he
        exact .inr (congrArg ([·]) he)
      | cons u ts =>
        rw [join_cons_cons] at he
        cases (List.append_eq_nil_iff.mp he).2
  · rintro (rfl | rfl) <;> rfl

/-- A written list has the elements that were written exactly if none of them holds a separator and
there is more to it than one empty text. -/
theorem elements_join_iff {ts : List Text} :
    elements (join ts) = ts ↔ (∀ t ∈ ts, Text.mentions separator t = false) ∧ ts ≠ [[]] := by
  by_cases hnil : join ts = []
  · rcases join_eq_nil_iff.mp hnil with rfl | rfl
    · simp [hnil]
    · simp [hnil]
  · obtain ⟨hne, hone⟩ := not_or.mp (mt join_eq_nil_iff.mpr hnil)
    obtain ⟨t, rest, rfl⟩ := List.exists_cons_of_ne_nil hne
    rw [elements, if_neg (by simpa using hnil), split_join_eq_flatMap, flatMap_split_eq_self_iff]
    exact (and_iff_left hone).symm

end Phrasebook.ListText
