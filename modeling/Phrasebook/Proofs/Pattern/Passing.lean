import Phrasebook.Proofs.Pattern.Spelling

/-!
# How a pattern passes through a text

Whatever a pattern may contain, the places that it reaches lie further on in the text or where it
began, and of the groups it sets only its own. So groups with other numbers keep what they took.
-/

namespace Phrasebook

/-- From a place, one may come to another without going back and with the groups as they were, but
for those beyond a number up to another. -/
structure Spot.Passes (s : Spot) (k l : Nat) (t : Spot) : Prop where
  forward : ∃ u, s.after = u ++ t.after ∧ t.before = u.reverse ++ s.before
  kept : ∀ m, m ≤ k ∨ l < m → t.capture? m = s.capture? m

/-- No group beyond a number has taken part. -/
def Spot.Unset (s : Spot) (k : Nat) : Prop := ∀ m, k < m → s.capture? m = none

theorem Spot.Unset.mono {s : Spot} {k l : Nat} (h : s.Unset k) (hl : k ≤ l) : s.Unset l :=
  fun m hm => h m (Nat.lt_of_le_of_lt hl hm)

namespace Spot.Passes

variable {s t w : Spot} {k l : Nat}

theorem refl (s : Spot) (k l : Nat) : s.Passes k l s := ⟨⟨[], rfl, rfl⟩, fun _ _ => rfl⟩

theorem of_goes {u : Text} (h : s.Goes u t) (k l : Nat) : s.Passes k l t := by
  refine ⟨⟨u, h.after, h.before⟩, fun m _ => ?_⟩
  rw [capture?, h.captures]
  rfl

theorem trans (h : s.Passes k l t) (h' : t.Passes k l w) : s.Passes k l w := by
  obtain ⟨⟨u, ha, hb⟩, hk⟩ := h
  obtain ⟨⟨v, ha', hb'⟩, hk'⟩ := h'
  refine ⟨⟨u ++ v, ?_, ?_⟩, fun m hm => (hk' m hm).trans (hk m hm)⟩
  · rw [ha, ha', List.append_assoc]
  · rw [hb', hb, List.reverse_append, List.append_assoc]

theorem mono {k' l' : Nat} (h : s.Passes k l t) (hk : k' ≤ k) (hl : l ≤ l') : s.Passes k' l' t :=
  ⟨h.forward, fun m hm => h.kept m (by omega)⟩

theorem remember {number : Nat} (h : s.Passes k l t) (hn : k < number ∧ number ≤ l) (since : Spot) :
    s.Passes k l (t.remember number since) := by
  refine ⟨h.forward, fun m hm => ?_⟩
  have hne : (m == number) = false := by
    rw [beq_eq_false_iff_ne]
    omega
  rw [capture?, Spot.remember, List.lookup_cons, hne]
  exact h.kept m hm

theorem unset (h : s.Passes k l t) (hs : s.Unset k) (hl : k ≤ l) : t.Unset l := by
  intro m hm
  rw [h.kept m (.inr hm)]
  exact hs m (Nat.lt_of_le_of_lt hl hm)

theorem length_before (h : s.Passes k l t) : s.before.length ≤ t.before.length := by
  obtain ⟨⟨u, -, hb⟩, -⟩ := h
  rw [hb, List.length_append]
  omega

theorem length_after (h : s.Passes k l t) : t.after.length ≤ s.after.length := by
  obtain ⟨⟨u, ha, -⟩, -⟩ := h
  rw [ha, List.length_append]
  omega

end Spot.Passes

theorem Spot.passes_of_repeated? {s t : Spot} {ignoreCase : Bool} {u : Text}
    (h : s.repeated? ignoreCase u = some t) (k l : Nat) : s.Passes k l t := by
  simp only [repeated?, Option.ite_none_right_eq_some] at h
  rw [← Option.some.inj h.2]
  exact ⟨⟨s.after.take u.length, (List.take_append_drop _ _).symm, rfl⟩, fun _ _ => rfl⟩

namespace Pattern

/-- All groups of the pattern have numbers beyond `k` up to `l`. -/
def Between (k l : Nat) : Pattern → Prop
  | empty | one _ | anchor _ | again _ _ => True
  | seq first second => first.Between k l ∧ second.Between k l
  | alt left right => left.Between k l ∧ right.Between k l
  | loop _ _ _ body | look _ _ body | atomic body => body.Between k l
  | group number body => (k < number ∧ number ≤ l) ∧ body.Between k l
  | given _ present absent => present.Between k l ∧ absent.Between k l

theorem Plain.between {p : Pattern} (h : p.Plain) (k l : Nat) : p.Between k l := by
  induction p with
  | empty | one => trivial
  | seq first second ihf ihs => exact ⟨ihf h.1, ihs h.2⟩
  | alt left right ihl ihr => exact ⟨ihl h.1, ihr h.2⟩
  | loop least most? preference body ih => exact ih h.2
  | anchor | group | again | look | atomic | given => exact h.elim

theorem Between.mono {p : Pattern} {k k' l l' : Nat} (h : p.Between k l) (hk : k' ≤ k)
    (hl : l ≤ l') : p.Between k' l' := by
  induction p with
  | empty | one | anchor | again => trivial
  | seq first second ihf ihs => exact ⟨ihf h.1, ihs h.2⟩
  | alt left right ihl ihr => exact ⟨ihl h.1, ihr h.2⟩
  | loop least most? preference body ih => exact ih h
  | look back? negated body ih => exact ih h
  | atomic body ih => exact ih h
  | group number body ih =>
    obtain ⟨⟨hlow, hhigh⟩, hbody⟩ := h
    exact ⟨⟨Nat.lt_of_le_of_lt hk hlow, Nat.le_trans hhigh hl⟩, ih hbody⟩
  | given number present absent ihp iha => exact ⟨ihp h.1, iha h.2⟩

def Passing (k l : Nat) (f : Outcomes) : Prop := ∀ s t, t ∈ f s → s.Passes k l t

variable {k l : Nat} {f : Outcomes}

theorem passing_times (h : Passing k l f) (n : Nat) : Passing k l (outcomesTimes f n) := by
  induction n with
  | zero =>
    intro s t ht
    have he : t = s := by simpa [outcomesTimes] using ht
    exact he ▸ Spot.Passes.refl s k l
  | succ n ih =>
    intro s t ht
    obtain ⟨w, hw, ht⟩ := List.mem_flatMap.mp ht
    exact (h s w hw).trans (ih w t ht)

theorem passing_atMost (h : Passing k l f) (n : Nat) : Passing k l (outcomesAtMost f n) := by
  induction n with
  | zero =>
    intro s t ht
    have he : t = s := by simpa [outcomesAtMost] using ht
    exact he ▸ Spot.Passes.refl s k l
  | succ n ih =>
    intro s t ht
    rw [outcomesAtMost, List.mem_append, List.mem_flatMap] at ht
    obtain ⟨w, hw, ht⟩ | ht := ht
    · split at ht
      · exact (h s w hw).trans (ih w t ht)
      · have he : t = w := by simpa using ht
        exact he ▸ h s w hw
    · have he : t = s := by simpa using ht
      exact he ▸ Spot.Passes.refl s k l

theorem passing_loop (h : Passing k l f) {least more : Nat} {s w t : Spot}
    (hw : w ∈ outcomesTimes f least s) (ht : t ∈ outcomesAtMost f more w) : s.Passes k l t :=
  (passing_times h least s w hw).trans (passing_atMost h more w t ht)

/-- A pattern passes forward and keeps all groups but its own. -/
theorem passing_of_between {p : Pattern} (h : p.Between k l) : Passing k l p.outcomes := by
  induction p with
  | empty =>
    intro s t ht
    have he : t = s := by simpa [outcomes] using ht
    exact he ▸ Spot.Passes.refl s k l
  | one set =>
    intro s t ht
    obtain ⟨c, -, hg⟩ := Spot.advance?_eq_some_iff.mp (Option.mem_toList.mp ht)
    exact Spot.Passes.of_goes hg k l
  | anchor place =>
    intro s t ht
    rw [outcomes] at ht
    split at ht
    · have he : t = s := by simpa using ht
      exact he ▸ Spot.Passes.refl s k l
    · cases ht
  | seq first second ihf ihs =>
    intro s t ht
    obtain ⟨w, hw, ht⟩ := List.mem_flatMap.mp ht
    exact (ihf h.1 s w hw).trans (ihs h.2 w t ht)
  | alt left right ihl ihr =>
    intro s t ht
    cases List.mem_append.mp ht with
    | inl hl => exact ihl h.1 s t hl
    | inr hr => exact ihr h.2 s t hr
  | loop least most? preference body ih =>
    intro s t ht
    cases preference with
    | most =>
      obtain ⟨w, hw, ht⟩ := List.mem_flatMap.mp ht
      exact passing_loop (ih h) hw ht
    | fewest =>
      obtain ⟨w, hw, ht⟩ := List.mem_flatMap.mp ht
      exact passing_loop (ih h) hw ((mem_outcomesAsFew_iff _ _ w t).mp ht)
  | group number body ih =>
    intro s t ht
    obtain ⟨w, hw, rfl⟩ := List.mem_map.mp ht
    exact (ih h.2 s w hw).remember h.1 s
  | again number ignoreCase =>
    intro s t ht
    obtain ⟨taken, -, hr⟩ := Option.bind_eq_some_iff.mp (Option.mem_toList.mp ht)
    exact Spot.passes_of_repeated? hr k l
  | look back? negated body ih =>
    intro s t ht
    simp only [outcomes] at ht
    split at ht
    · next w hfound =>
      obtain ⟨from', hfrom, hhead⟩ := Option.bind_eq_some_iff.mp hfound
      have hw := ih h from' w (List.mem_of_mem_head? hhead)
      have hcaptures : from'.captures = s.captures := by
        cases back? with
        | none =>
          cases hfrom
          rfl
        | some n =>
          simp only [Spot.back?] at hfrom
          split at hfrom
          · cases hfrom
            rfl
          · cases hfrom
      have he : t = { s with captures := w.captures } := by simpa using ht
      rw [he]
      refine ⟨⟨[], rfl, rfl⟩, fun m hm => ?_⟩
      have hk := hw.kept m hm
      rw [Spot.capture?, Spot.capture?, hcaptures] at hk
      exact hk
    · have he : t = s := by simpa using ht
      exact he ▸ Spot.Passes.refl s k l
    · cases ht
  | atomic body ih =>
    intro s t ht
    exact ih h s t (List.mem_of_mem_head? (Option.mem_toList.mp ht))
  | given number present absent ihp iha =>
    intro s t ht
    rw [outcomes] at ht
    split at ht
    · exact ihp h.1 s t ht
    · exact iha h.2 s t ht

/-- The number of a group comes before those of the groups within it. -/
theorem passes_remember {body : Pattern} {n count : Nat} (h : body.Between (n + 1) (n + 1 + count))
    {s w : Spot} (hw : w ∈ body.outcomes s) :
    s.Passes n (n + 1 + count) (w.remember (n + 1) s) := by
  have hpasses := (passing_of_between h s w hw).mono (Nat.le_succ n) (Nat.le_refl _)
  exact hpasses.remember ⟨Nat.lt_succ_self n, Nat.le_add_right _ _⟩ s

end Pattern

end Phrasebook
