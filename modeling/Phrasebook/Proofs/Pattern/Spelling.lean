import Phrasebook.Proofs.Pattern.Outcomes

/-!
# What plain patterns spell

A plain pattern looks at nothing but the characters that it takes, and remembers none of them. Which
texts it spells does not depend on where it stands: it can go from one place to another exactly if
it spells what lies between them. Repetitions spell what their parts spell one after another, so the
rule that a repetition which takes nothing is the last one leaves no text out.
-/

namespace Phrasebook

/-- From a place, the characters `u` lead to another. -/
structure Spot.Goes (s : Spot) (u : Text) (t : Spot) : Prop where
  after : s.after = u ++ t.after
  before : t.before = u.reverse ++ s.before
  captures : t.captures = s.captures

namespace Spot.Goes

theorem refl (s : Spot) : s.Goes [] s := ⟨rfl, rfl, rfl⟩

theorem trans {s t w : Spot} {u v : Text} (h : s.Goes u t) (h' : t.Goes v w) :
    s.Goes (u ++ v) w := by
  refine ⟨?_, ?_, ?_⟩
  · rw [h.after, h'.after, List.append_assoc]
  · rw [h'.before, h.before, List.reverse_append, List.append_assoc]
  · rw [h'.captures, h.captures]

theorem unique {s t t' : Spot} {u : Text} (h : s.Goes u t) (h' : s.Goes u t') : t = t' := by
  obtain ⟨ha, hb, hc⟩ := h
  obtain ⟨ha', hb', hc'⟩ := h'
  have hafter : t.after = t'.after := List.append_cancel_left (ha ▸ ha')
  cases t
  cases t'
  simp_all

theorem nil_iff {s t : Spot} : s.Goes [] t ↔ t = s :=
  ⟨fun h => unique h (refl s), fun h => h ▸ refl s⟩

/-- The way can be broken after any of its characters. -/
theorem split {s w : Spot} {u v : Text} (h : s.Goes (u ++ v) w) :
    ∃ t, s.Goes u t ∧ t.Goes v w := by
  refine ⟨⟨u.reverse ++ s.before, v ++ w.after, s.captures⟩, ⟨?_, rfl, rfl⟩, ⟨rfl, ?_, ?_⟩⟩
  · rw [h.after, List.append_assoc]
  · rw [h.before, List.reverse_append, List.append_assoc]
  · exact h.captures

theorem of_after {s : Spot} {u rest : Text} (h : s.after = u ++ rest) :
    s.Goes u ⟨u.reverse ++ s.before, rest, s.captures⟩ := ⟨h, rfl, rfl⟩

theorem length_after {s t : Spot} {u : Text} (h : s.Goes u t) :
    s.after.length = u.length + t.after.length := by
  rw [h.after, List.length_append]

end Spot.Goes

theorem Spot.advance?_eq_some_iff {s t : Spot} {set : CharSet} :
    s.advance? set = some t ↔ ∃ c, set.has c = true ∧ s.Goes [c] t := by
  constructor
  · intro h
    unfold advance? at h
    split at h
    · next c rest hs =>
      split at h
      · next hc =>
        cases h
        exact ⟨c, hc, hs, rfl, rfl⟩
      · cases h
    · cases h
  · rintro ⟨c, hc, h⟩
    have ha : s.after = c :: t.after := h.after
    have ht := h.unique (Spot.Goes.of_after h.after)
    rw [ht]
    simp [advance?, ha, hc]

namespace Pattern

/-- Nothing but single characters, sequences, alternatives and repetitions. -/
def Plain : Pattern → Prop
  | empty | one _ => True
  | seq first second => first.Plain ∧ second.Plain
  | alt left right => left.Plain ∧ right.Plain
  | loop least most? _ body => (∀ most ∈ most?, least ≤ most) ∧ body.Plain
  | _ => False

/-- The texts that a plain pattern takes, wherever it stands. -/
def Spells : Pattern → Text → Prop
  | empty, u => u = []
  | one set, u => ∃ c, set.has c = true ∧ u = [c]
  | seq first second, u => ∃ v w, first.Spells v ∧ second.Spells w ∧ u = v ++ w
  | alt left right, u => left.Spells u ∨ right.Spells u
  | loop least most? _ body, u =>
    ∃ parts : List Text, least ≤ parts.length ∧ (∀ most ∈ most?, parts.length ≤ most) ∧
      (∀ v ∈ parts, body.Spells v) ∧ u = parts.flatten
  | _, _ => False

/-- The places reached are those to which texts of a language lead. -/
def Reaches (f : Outcomes) (language : Text → Prop) : Prop :=
  ∀ s t, t ∈ f s ↔ ∃ u, language u ∧ s.Goes u t

variable {f : Outcomes} {language : Text → Prop}

/-- Going along several parts, one after another. -/
theorem mem_outcomesTimes_iff (h : Reaches f language) (n : Nat) (s t : Spot) :
    t ∈ outcomesTimes f n s ↔
      ∃ parts : List Text, parts.length = n ∧ (∀ v ∈ parts, language v) ∧
        s.Goes parts.flatten t := by
  induction n generalizing s with
  | zero =>
    constructor
    · intro ht
      have he : t = s := by simpa [outcomesTimes] using ht
      exact ⟨[], rfl, by simp, Spot.Goes.nil_iff.mpr he⟩
    · rintro ⟨parts, hl, -, hg⟩
      cases List.eq_nil_of_length_eq_zero hl
      have he : t = s := Spot.Goes.nil_iff.mp hg
      simp [outcomesTimes, he]
  | succ n ih =>
    rw [outcomesTimes, List.mem_flatMap]
    constructor
    · rintro ⟨w, hw, ht⟩
      obtain ⟨u, hu, hsw⟩ := (h s w).mp hw
      obtain ⟨parts, hl, hp, hwt⟩ := (ih w).mp ht
      exact ⟨u :: parts, by simp [hl], by simpa using ⟨hu, hp⟩, hsw.trans hwt⟩
    · rintro ⟨parts, hl, hp, hg⟩
      cases parts with
      | nil => simp at hl
      | cons u parts =>
        obtain ⟨w, hsw, hwt⟩ := Spot.Goes.split (List.flatten_cons ▸ hg)
        refine ⟨w, (h s w).mpr ⟨u, hp u (by simp), hsw⟩, (ih w).mpr ⟨parts, ?_, ?_, hwt⟩⟩
        · simpa using hl
        · intro v hv
          exact hp v (by simp [hv])

/-- The order of preference does not change what is reached. -/
theorem mem_outcomesAsFew_iff (f : Outcomes) (n : Nat) (s t : Spot) :
    t ∈ outcomesAsFew f n s ↔ t ∈ outcomesAtMost f n s := by
  induction n generalizing s with
  | zero => simp [outcomesAsFew, outcomesAtMost]
  | succ n ih =>
    simp only [outcomesAsFew, outcomesAtMost, List.mem_cons, List.mem_append, List.mem_flatMap,
      List.not_mem_nil, or_false]
    rw [or_comm]
    refine or_congr (exists_congr fun w => and_congr_right fun _ => ?_) Iff.rfl
    split
    · exact ih w
    · rfl

theorem parts_of_mem_outcomesAtMost (h : Reaches f language) {n : Nat} {s t : Spot}
    (ht : t ∈ outcomesAtMost f n s) :
    ∃ parts : List Text, parts.length ≤ n ∧ (∀ v ∈ parts, language v) ∧
      s.Goes parts.flatten t := by
  induction n generalizing s with
  | zero =>
    have he : t = s := by simpa [outcomesAtMost] using ht
    exact ⟨[], by simp, by simp, Spot.Goes.nil_iff.mpr he⟩
  | succ n ih =>
    rw [outcomesAtMost, List.mem_append, List.mem_flatMap] at ht
    obtain ⟨w, hw, ht⟩ | ht := ht
    · obtain ⟨u, hu, hsw⟩ := (h s w).mp hw
      split at ht
      · obtain ⟨parts, hl, hp, hwt⟩ := ih ht
        exact ⟨u :: parts, by simp [hl], by simpa using ⟨hu, hp⟩, hsw.trans hwt⟩
      · have he : t = w := by simpa using ht
        exact ⟨[u], by simp, by simpa using hu, by simpa [he] using hsw⟩
    · have he : t = s := by simpa using ht
      exact ⟨[], by simp, by simp, Spot.Goes.nil_iff.mpr he⟩

/-- Each part takes a character, so the repetition may go on after it. -/
theorem mem_outcomesAtMost (h : Reaches f language) {n : Nat} {s t : Spot} {parts : List Text}
    (hl : parts.length ≤ n) (hp : ∀ v ∈ parts, language v ∧ v ≠ []) (hg : s.Goes parts.flatten t) :
    t ∈ outcomesAtMost f n s := by
  induction n generalizing s parts with
  | zero =>
    cases List.eq_nil_of_length_eq_zero (Nat.le_zero.mp hl)
    have he : t = s := Spot.Goes.nil_iff.mp hg
    simp [outcomesAtMost, he]
  | succ n ih =>
    rw [outcomesAtMost, List.mem_append, List.mem_flatMap]
    cases parts with
    | nil =>
      have he : t = s := Spot.Goes.nil_iff.mp hg
      simp [he]
    | cons u parts =>
      obtain ⟨hu, hne⟩ := hp u (by simp)
      obtain ⟨w, hsw, hwt⟩ := Spot.Goes.split (List.flatten_cons ▸ hg)
      have hlt : w.after.length < s.after.length := by
        have := hsw.length_after
        have := List.length_pos_iff.mpr hne
        omega
      refine Or.inl ⟨w, (h s w).mpr ⟨u, hu, hsw⟩, ?_⟩
      rw [if_pos hlt]
      exact ih (by simpa using hl) (fun v hv => hp v (by simp [hv])) hwt

/-- Parts that are empty can be left out. -/
theorem exists_nonempty_parts (parts : List Text) :
    ∃ more : List Text, more.length ≤ parts.length ∧ (∀ v ∈ more, v ∈ parts ∧ v ≠ []) ∧
      more.flatten = parts.flatten := by
  induction parts with
  | nil => exact ⟨[], by simp, by simp, rfl⟩
  | cons u parts ih =>
    obtain ⟨more, hl, hm, he⟩ := ih
    by_cases hu : u = []
    · refine ⟨more, by simp only [List.length_cons]; omega, ?_, by simpa [hu] using he⟩
      intro v hv
      exact ⟨List.mem_cons_of_mem _ (hm v hv).1, (hm v hv).2⟩
    · refine ⟨u :: more, by simpa using hl, ?_, by simp [he]⟩
      intro v hv
      rcases List.mem_cons.mp hv with rfl | hv
      · exact ⟨by simp, hu⟩
      · exact ⟨List.mem_cons_of_mem _ (hm v hv).1, (hm v hv).2⟩

theorem length_le_length_flatten {parts : List Text} (h : ∀ v ∈ parts, v ≠ []) :
    parts.length ≤ parts.flatten.length := by
  induction parts with
  | nil => simp
  | cons u parts ih =>
    have hu := List.length_pos_iff.mpr (h u (by simp))
    have hi := ih fun v hv => h v (by simp [hv])
    simp only [List.length_cons, List.flatten_cons, List.length_append]
    omega

/-- What a repetition reaches: the required parts first, then as many more as may follow. -/
theorem mem_outcomes_loop_iff (h : Reaches f language) {least : Nat} {most? : Option Nat}
    (hb : ∀ most ∈ most?, least ≤ most) (s t : Spot) :
    (∃ w ∈ outcomesTimes f least s, t ∈ outcomesAtMost f (spare least most? w) w) ↔
      ∃ parts : List Text, least ≤ parts.length ∧ (∀ most ∈ most?, parts.length ≤ most) ∧
        (∀ v ∈ parts, language v) ∧ s.Goes parts.flatten t := by
  constructor
  · rintro ⟨w, hw, ht⟩
    obtain ⟨parts, hl, hp, hsw⟩ := (mem_outcomesTimes_iff h least s w).mp hw
    obtain ⟨more, hm, hp', hwt⟩ := parts_of_mem_outcomesAtMost h ht
    refine ⟨parts ++ more, by simp [hl], ?_, ?_, ?_⟩
    · intro most hmost
      have hle := hb most hmost
      cases hmost
      simp only [spare] at hm
      simp only [List.length_append]
      omega
    · simpa [or_imp, forall_and] using ⟨hp, hp'⟩
    · simpa using hsw.trans hwt
  · rintro ⟨parts, hl, hm, hp, hg⟩
    rw [← List.take_append_drop least parts, List.flatten_append] at hg
    obtain ⟨w, hsw, hwt⟩ := hg.split
    refine ⟨w, (mem_outcomesTimes_iff h least s w).mpr ⟨parts.take least, ?_, ?_, hsw⟩, ?_⟩
    · simp [hl]
    · exact fun v hv => hp v (List.mem_of_mem_take hv)
    · obtain ⟨more, hlen, hmore, he⟩ := exists_nonempty_parts (parts.drop least)
      rw [← he] at hwt
      have hfew := length_le_length_flatten fun v hv => (hmore v hv).2
      have hafter := hwt.length_after
      rw [List.length_drop] at hlen
      refine mem_outcomesAtMost h ?_ ?_ hwt
      · cases hmost : most? with
        | none =>
          simp only [spare]
          omega
        | some most =>
          have hle := hm most (by simp [hmost])
          simp only [spare]
          omega
      · intro v hv
        exact ⟨hp v (List.mem_of_mem_drop (hmore v hv).1), (hmore v hv).2⟩

/-- A plain pattern goes exactly along the texts that it spells. -/
theorem mem_outcomes_iff {p : Pattern} (h : p.Plain) : Reaches p.outcomes p.Spells := by
  induction p with
  | empty =>
    intro s t
    simp [outcomes, Spells, Spot.Goes.nil_iff]
  | one set =>
    intro s t
    simp only [outcomes, Option.mem_toList, Spot.advance?_eq_some_iff, Spells]
    constructor
    · rintro ⟨c, hc, hg⟩
      exact ⟨[c], ⟨c, hc, rfl⟩, hg⟩
    · rintro ⟨u, ⟨c, hc, rfl⟩, hg⟩
      exact ⟨c, hc, hg⟩
  | seq first second ihf ihs =>
    intro s t
    rw [outcomes, List.mem_flatMap]
    constructor
    · rintro ⟨w, hw, ht⟩
      obtain ⟨u, hu, hsw⟩ := (ihf h.1 s w).mp hw
      obtain ⟨v, hv, hwt⟩ := (ihs h.2 w t).mp ht
      exact ⟨u ++ v, ⟨u, v, hu, hv, rfl⟩, hsw.trans hwt⟩
    · rintro ⟨_, ⟨u, v, hu, hv, rfl⟩, hg⟩
      obtain ⟨w, hsw, hwt⟩ := hg.split
      exact ⟨w, (ihf h.1 s w).mpr ⟨u, hu, hsw⟩, (ihs h.2 w t).mpr ⟨v, hv, hwt⟩⟩
  | alt left right ihl ihr =>
    intro s t
    rw [outcomes, List.mem_append, ihl h.1, ihr h.2]
    simp only [Spells, or_and_right, exists_or]
  | loop least most? preference body ih =>
    intro s t
    have hr := mem_outcomes_loop_iff (ih h.2) h.1 s t
    have hs : (∃ u, (loop least most? preference body).Spells u ∧ s.Goes u t) ↔
        ∃ parts : List Text, least ≤ parts.length ∧ (∀ most ∈ most?, parts.length ≤ most) ∧
          (∀ v ∈ parts, body.Spells v) ∧ s.Goes parts.flatten t := by
      constructor
      · rintro ⟨_, ⟨parts, hl, hm, hp, rfl⟩, hg⟩
        exact ⟨parts, hl, hm, hp, hg⟩
      · rintro ⟨parts, hl, hm, hp, hg⟩
        exact ⟨_, ⟨parts, hl, hm, hp, rfl⟩, hg⟩
    rw [hs, ← hr]
    cases preference with
    | most => rw [outcomes, List.mem_flatMap]
    | fewest => simp only [outcomes, List.mem_flatMap, mem_outcomesAsFew_iff]
  | group | anchor | again | look | atomic | given => exact h.elim

/-- What it takes on its way to a place is what it spells. -/
theorem spells_of_mem_outcomes {p : Pattern} (h : p.Plain) {s t : Spot} {u : Text}
    (ht : t ∈ p.outcomes s) (hs : s.after = u ++ t.after) : p.Spells u := by
  obtain ⟨v, hv, hg⟩ := (mem_outcomes_iff h s t).mp ht
  exact List.append_cancel_right (hg.after.symm.trans hs) ▸ hv

/-- A plain pattern takes exactly the texts that it spells. -/
theorem takes_iff_spells {p : Pattern} (h : p.Plain) (u : Text) :
    p.takes u = true ↔ p.Spells u := by
  rw [takes_iff]
  constructor
  · rintro ⟨t, ht, ha⟩
    exact spells_of_mem_outcomes h ht (by simp [Spot.ofText, ha])
  · intro hu
    have hg : (Spot.ofText u).Goes u ⟨u.reverse, [], []⟩ :=
      ⟨by simp [Spot.ofText], by simp [Spot.ofText], rfl⟩
    exact ⟨_, (mem_outcomes_iff h _ _).mpr ⟨u, hu, hg⟩, rfl⟩

/-- A character that is repeated without a bound spells all texts of such characters that are long
enough. -/
theorem spells_characters {least : Nat} {preference : Preference} {set : CharSet} {u : Text}
    (hl : least ≤ u.length) (h : ∀ c ∈ u, set.has c = true) :
    (loop least none preference (.one set)).Spells u := by
  refine ⟨u.map fun c => [c], by rwa [List.length_map], nofun, fun v hv => ?_, ?_⟩
  · obtain ⟨c, hc, rfl⟩ := List.mem_map.mp hv
    exact ⟨c, h c hc, rfl⟩
  · rw [← List.flatMap_def, List.flatMap_singleton']

/-- What may be there may be missing. -/
theorem spells_missing {preference : Preference} {p : Pattern} :
    (loop 0 (some 1) preference p).Spells [] :=
  ⟨[], Nat.le_refl 0, fun _ _ => Nat.zero_le _, nofun, rfl⟩

/-- If it is there, it is there once. -/
theorem spells_present {preference : Preference} {p : Pattern} {u : Text} (h : p.Spells u) :
    (loop 0 (some 1) preference p).Spells u := by
  refine ⟨[u], Nat.zero_le _, fun most hm => ?_, fun v hv => ?_, (List.flatten_singleton).symm⟩
  · exact (Option.some.inj hm) ▸ Nat.le_refl 1
  · rw [List.mem_singleton.mp hv]
    exact h

end Pattern

end Phrasebook
