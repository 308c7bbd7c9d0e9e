import Phrasebook.Proofs.Pattern.Passing

/-!
# Patterns with their numbers raised

Within a larger pattern the groups of a pattern get numbers beyond those before them, and what
refers to a group follows it. A pattern that does not look around, and that can go back on whatever
it has taken, then takes from a part of a text what it takes from that part alone.
-/

namespace Phrasebook

/-- What a capture is in a text that has some more in front. -/
def Capture.behind (c : Capture) (lead : Text) : Capture :=
  { c with start := c.start + lead.length }

/-- The second place is the first one in a text that has more on both sides, where the groups have
numbers raised by `k`. -/
structure Spot.Placed (k : Nat) (lead rest : Text) (s t : Spot) : Prop where
  before : t.before = s.before ++ lead
  after : t.after = s.after ++ rest
  captures : ∀ m, 0 < m → t.capture? (m + k) = (s.capture? m).map (·.behind lead)

namespace Spot

variable {k : Nat} {lead rest : Text} {s t w v : Spot}

/-- A text begins within another one where no group beyond `k` has taken part. -/
theorem Unset.placed {u : Text} (h : t.Unset k) (ha : t.after = u ++ rest) :
    Placed k t.before rest (.ofText u) t :=
  ⟨rfl, ha, fun m hm => h (m + k) (by omega)⟩

namespace Placed

variable (h : s.Placed k lead rest t)

include h

theorem length_after : t.after.length = s.after.length + rest.length := by
  rw [h.after, List.length_append]

theorem advance? {set : CharSet} (hs : s.advance? set = some w) :
    ∃ v, t.advance? set = some v ∧ w.Placed k lead rest v := by
  simp only [Spot.advance?] at hs
  split at hs
  · next c u ha =>
    split at hs
    · next hc =>
      cases hs
      refine ⟨{ t with before := c :: t.before, after := u ++ rest }, ?_,
        ⟨congrArg (c :: ·) h.before, rfl, h.captures⟩⟩
      simp only [Spot.advance?, h.after, ha, List.cons_append, if_pos hc]
    · cases hs
  · cases hs

theorem of_advance? {set : CharSet} (ht : t.advance? set = some v)
    (hl : rest.length ≤ v.after.length) :
    ∃ w, s.advance? set = some w ∧ w.Placed k lead rest v := by
  cases ha : s.after with
  | nil =>
    -- The character would be one of the rest.
    obtain ⟨c, -, hg⟩ := Spot.advance?_eq_some_iff.mp ht
    have hlength := hg.length_after
    rw [h.after, ha] at hlength
    simp only [List.nil_append, List.length_singleton] at hlength
    omega
  | cons c u =>
    simp only [Spot.advance?, h.after, ha, List.cons_append] at ht
    split at ht
    · next hc =>
      cases ht
      refine ⟨{ s with before := c :: s.before, after := u }, ?_,
        ⟨congrArg (c :: ·) h.before, rfl, h.captures⟩⟩
      simp only [Spot.advance?, ha, if_pos hc]
    · cases ht

theorem skip {n : Nat} (hn : n ≤ s.after.length) : (s.skip n).Placed k lead rest (t.skip n) := by
  refine ⟨?_, ?_, h.captures⟩
  · simp only [Spot.skip, h.after, h.before, List.take_append_of_le_length hn, List.append_assoc]
  · simp only [Spot.skip, h.after, List.drop_append_of_le_length hn]

/-- A text that can be taken again can be taken again within the other text, and no other. -/
theorem repeated?_eq {ignoreCase : Bool} {u : Text} (hu : u.length ≤ s.after.length) :
    t.repeated? ignoreCase u = (s.repeated? ignoreCase u).map fun _ => t.skip u.length := by
  simp only [Spot.repeated?, h.after, List.take_append_of_le_length hu,
    apply_ite (Option.map fun _ => t.skip u.length), Option.map_some, Option.map_none]

theorem isSome_capture? {m : Nat} (hm : 0 < m) :
    (t.capture? (m + k)).isSome = (s.capture? m).isSome := by
  rw [h.captures m hm, Option.isSome_map]

/-- What a group has taken does not depend on where the text lies. -/
theorem remember {number : Nat} (h' : w.Placed k lead rest v) :
    (w.remember number s).Placed k lead rest (v.remember (number + k) t) := by
  refine ⟨h'.before, h'.after, fun m hm => ?_⟩
  have hstart : t.before.length = s.before.length + lead.length := by
    rw [h.before, List.length_append]
  have htaken : v.before.length - (s.before.length + lead.length) =
      w.before.length - s.before.length := by
    rw [h'.before, List.length_append]
    omega
  have htext : v.before.take (w.before.length - s.before.length) =
      w.before.take (w.before.length - s.before.length) := by
    rw [h'.before, List.take_append_of_le_length (Nat.sub_le _ _)]
  simp only [Spot.capture?, Spot.remember, List.lookup_cons]
  by_cases he : m = number
  · simp [he, hstart, htaken, htext, Capture.behind]
  · have hne : (m == number) = false := by simpa using he
    have hne' : (m + k == number + k) = false := by simpa using he
    rw [hne, hne']
    exact h'.captures m hm

end Placed

theorem length_of_repeated? {ignoreCase : Bool} {u : Text} (h : s.repeated? ignoreCase u = some w) :
    u.length ≤ s.after.length ∧ w = s.skip u.length := by
  simp only [repeated?, Option.ite_none_right_eq_some, Bool.and_eq_true, beq_iff_eq,
    List.length_take] at h
  obtain ⟨⟨hl, -⟩, hw⟩ := h
  exact ⟨by omega, (Option.some.inj hw).symm⟩

end Spot

namespace Pattern

/-- The pattern with all its numbers raised by `k`. -/
def raised (k : Nat) : Pattern → Pattern
  | empty => empty
  | one set => one set
  | anchor place => anchor place
  | seq first second => seq (first.raised k) (second.raised k)
  | alt left right => alt (left.raised k) (right.raised k)
  | loop least most? preference body => loop least most? preference (body.raised k)
  | group number body => group (number + k) (body.raised k)
  | again number ignoreCase => again (number + k) ignoreCase
  | look back? negated body => look back? negated (body.raised k)
  | atomic body => atomic (body.raised k)
  | given number present absent => given (number + k) (present.raised k) (absent.raised k)

/-- The pattern does not look at what lies around it, and can go back on whatever it has taken. -/
def Local : Pattern → Prop
  | empty | one _ | again _ _ => True
  | seq first second => first.Local ∧ second.Local
  | alt left right => left.Local ∧ right.Local
  | loop _ _ _ body => body.Local
  | group _ body => body.Local
  | given _ present absent => present.Local ∧ absent.Local
  | anchor _ | look _ _ _ | atomic _ => False

/-- The groups of the pattern, and those that it refers to, have numbers from one to `l`. -/
def Numbered (l : Nat) : Pattern → Prop
  | empty | one _ | anchor _ => True
  | seq first second => first.Numbered l ∧ second.Numbered l
  | alt left right => left.Numbered l ∧ right.Numbered l
  | loop _ _ _ body | look _ _ body | atomic body => body.Numbered l
  | group number body => (0 < number ∧ number ≤ l) ∧ body.Numbered l
  | again number _ => 0 < number ∧ number ≤ l
  | given number present absent =>
    (0 < number ∧ number ≤ l) ∧ present.Numbered l ∧ absent.Numbered l

theorem Numbered.mono {p : Pattern} {l l' : Nat} (h : p.Numbered l) (hl : l ≤ l') :
    p.Numbered l' := by
  have hnumber : ∀ {number : Nat}, 0 < number ∧ number ≤ l → 0 < number ∧ number ≤ l' :=
    fun hn => ⟨hn.1, Nat.le_trans hn.2 hl⟩
  induction p with
  | empty | one | anchor => trivial
  | seq first second ihf ihs => exact ⟨ihf h.1, ihs h.2⟩
  | alt left right ihl ihr => exact ⟨ihl h.1, ihr h.2⟩
  | loop least most? preference body ih => exact ih h
  | look back? negated body ih => exact ih h
  | atomic body ih => exact ih h
  | group number body ih => exact ⟨hnumber h.1, ih h.2⟩
  | again number ignoreCase => exact hnumber h
  | given number present absent ihp iha => exact ⟨hnumber h.1, ihp h.2.1, iha h.2.2⟩

theorem Numbered.between_raised {p : Pattern} {l : Nat} (h : p.Numbered l) (k : Nat) :
    (p.raised k).Between k (k + l) := by
  induction p with
  | empty | one | anchor | again => trivial
  | seq first second ihf ihs => exact ⟨ihf h.1, ihs h.2⟩
  | alt left right ihl ihr => exact ⟨ihl h.1, ihr h.2⟩
  | loop least most? preference body ih => exact ih h
  | look back? negated body ih => exact ih h
  | atomic body ih => exact ih h
  | group number body ih =>
    obtain ⟨⟨hpos, hle⟩, hbody⟩ := h
    exact ⟨⟨by omega, by omega⟩, ih hbody⟩
  | given number present absent ihp iha => exact ⟨ihp h.2.1, iha h.2.2⟩

/-- From a part of a text, the second reaches the places that the first reaches in that part
alone. -/
structure Replays (k : Nat) (lead rest : Text) (f g : Outcomes) : Prop where
  forth : ∀ {s t s' : Spot}, s.Placed k lead rest t → s' ∈ f s →
    ∃ t' ∈ g t, s'.Placed k lead rest t'
  back : ∀ {s t t' : Spot}, s.Placed k lead rest t → t' ∈ g t → rest.length ≤ t'.after.length →
    ∃ s' ∈ f s, s'.Placed k lead rest t'
  shorter : ∀ {t t' : Spot}, t' ∈ g t → t'.after.length ≤ t.after.length

namespace Replays

variable {k : Nat} {lead rest : Text} {f g f' g' : Outcomes}

theorem flatMap (h : Replays k lead rest f g) (h' : Replays k lead rest f' g') :
    Replays k lead rest (fun s => (f s).flatMap f') fun t => (g t).flatMap g' where
  forth hst hs := by
    obtain ⟨w, hw, hs⟩ := List.mem_flatMap.mp hs
    obtain ⟨v, hv, hwv⟩ := h.forth hst hw
    obtain ⟨t', ht, hst'⟩ := h'.forth hwv hs
    exact ⟨t', List.mem_flatMap.mpr ⟨v, hv, ht⟩, hst'⟩
  back hst ht hl := by
    obtain ⟨v, hv, ht⟩ := List.mem_flatMap.mp ht
    obtain ⟨w, hw, hwv⟩ := h.back hst hv (Nat.le_trans hl (h'.shorter ht))
    obtain ⟨s', hs, hst'⟩ := h'.back hwv ht hl
    exact ⟨s', List.mem_flatMap.mpr ⟨w, hw, hs⟩, hst'⟩
  shorter ht := by
    obtain ⟨v, hv, ht⟩ := List.mem_flatMap.mp ht
    exact Nat.le_trans (h'.shorter ht) (h.shorter hv)

/-- Both may also be listed in another order. -/
theorem congr (h : Replays k lead rest f g) (hf : ∀ s s', s' ∈ f' s ↔ s' ∈ f s)
    (hg : ∀ t t', t' ∈ g' t ↔ t' ∈ g t) : Replays k lead rest f' g' where
  forth hst hs := by
    obtain ⟨t', ht, hst'⟩ := h.forth hst ((hf _ _).mp hs)
    exact ⟨t', (hg _ _).mpr ht, hst'⟩
  back hst ht hl := by
    obtain ⟨s', hs, hst'⟩ := h.back hst ((hg _ _).mp ht) hl
    exact ⟨s', (hf _ _).mpr hs, hst'⟩
  shorter ht := h.shorter ((hg _ _).mp ht)

theorem self : Replays k lead rest (fun s => [s]) fun t => [t] where
  forth hst hs := ⟨_, List.mem_singleton.mpr rfl, List.mem_singleton.mp hs ▸ hst⟩
  back hst ht _ := ⟨_, List.mem_singleton.mpr rfl, List.mem_singleton.mp ht ▸ hst⟩
  shorter ht := List.mem_singleton.mp ht ▸ Nat.le_refl _

theorem times (h : Replays k lead rest f g) (n : Nat) :
    Replays k lead rest (outcomesTimes f n) (outcomesTimes g n) := by
  induction n with
  | zero => exact self
  | succ n ih => exact h.flatMap ih

theorem mem_outcomesAtMost_self (f : Outcomes) (n : Nat) (s : Spot) : s ∈ outcomesAtMost f n s := by
  cases n <;> simp [outcomesAtMost]

theorem shorter_atMost (h : Replays k lead rest f g) {n : Nat} {t t' : Spot}
    (ht : t' ∈ outcomesAtMost g n t) : t'.after.length ≤ t.after.length := by
  induction n generalizing t with
  | zero => exact List.mem_singleton.mp ht ▸ Nat.le_refl _
  | succ n ih =>
    rw [outcomesAtMost, List.mem_append, List.mem_flatMap] at ht
    obtain ⟨v, hv, ht⟩ | ht := ht
    · split at ht
      · exact Nat.le_trans (ih ht) (h.shorter hv)
      · exact List.mem_singleton.mp ht ▸ h.shorter hv
    · exact List.mem_singleton.mp ht ▸ Nat.le_refl _

/-- In the longer text a repetition may go on for longer, so it can do what it does in the part. -/
theorem forth_atMost (h : Replays k lead rest f g) {n n' : Nat} (hn : n ≤ n') {s t s' : Spot}
    (hst : s.Placed k lead rest t) (hs : s' ∈ outcomesAtMost f n s) :
    ∃ t' ∈ outcomesAtMost g n' t, s'.Placed k lead rest t' := by
  induction n generalizing n' s t with
  | zero => exact ⟨t, mem_outcomesAtMost_self g n' t, List.mem_singleton.mp hs ▸ hst⟩
  | succ n ih =>
    obtain ⟨n', rfl⟩ : ∃ more, n' = more + 1 := ⟨n' - 1, by omega⟩
    rw [outcomesAtMost, List.mem_append, List.mem_flatMap] at hs
    obtain ⟨w, hw, hs⟩ | hs := hs
    · obtain ⟨v, hv, hwv⟩ := h.forth hst hw
      have hlengths := hst.length_after
      have hlengths' := hwv.length_after
      have hmem : ∀ t', t' ∈ (if v.after.length < t.after.length then outcomesAtMost g n' v
          else [v]) → t' ∈ outcomesAtMost g (n' + 1) t := fun t' ht =>
        List.mem_append_left _ (List.mem_flatMap.mpr ⟨v, hv, ht⟩)
      split at hs
      · next hless =>
        obtain ⟨t', ht, hst'⟩ := ih (Nat.le_of_succ_le_succ hn) hwv hs
        exact ⟨t', hmem t' (by rwa [if_pos (by omega)]), hst'⟩
      · next hless =>
        refine ⟨v, hmem v ?_, List.mem_singleton.mp hs ▸ hwv⟩
        rw [if_neg (by omega)]
        exact List.mem_singleton.mpr rfl
    · exact ⟨t, mem_outcomesAtMost_self g _ t, List.mem_singleton.mp hs ▸ hst⟩

/-- As each repetition but the last takes a character, one that stays in the part ends there as
soon. -/
theorem back_atMost (h : Replays k lead rest f g) {n n' : Nat} {s t t' : Spot}
    (hst : s.Placed k lead rest t) (hn : n' ≤ n ∨ s.after.length < n)
    (ht : t' ∈ outcomesAtMost g n' t) (hl : rest.length ≤ t'.after.length) :
    ∃ s' ∈ outcomesAtMost f n s, s'.Placed k lead rest t' := by
  induction n' generalizing n s t with
  | zero => exact ⟨s, mem_outcomesAtMost_self f n s, List.mem_singleton.mp ht ▸ hst⟩
  | succ n' ih =>
    obtain ⟨n, rfl⟩ : ∃ less, n = less + 1 := ⟨n - 1, by omega⟩
    rw [outcomesAtMost, List.mem_append, List.mem_flatMap] at ht
    obtain ⟨v, hv, ht⟩ | ht := ht
    · have hlv : rest.length ≤ v.after.length := by
        split at ht
        · exact Nat.le_trans hl (h.shorter_atMost ht)
        · rwa [← List.mem_singleton.mp ht]
      obtain ⟨w, hw, hwv⟩ := h.back hst hv hlv
      have hlengths := hst.length_after
      have hlengths' := hwv.length_after
      have hmem : ∀ s', s' ∈ (if w.after.length < s.after.length then outcomesAtMost f n w
          else [w]) → s' ∈ outcomesAtMost f (n + 1) s := fun s' hs =>
        List.mem_append_left _ (List.mem_flatMap.mpr ⟨w, hw, hs⟩)
      split at ht
      · next hless =>
        obtain ⟨s', hs, hst'⟩ := ih (n := n) hwv (by omega) ht
        exact ⟨s', hmem s' (by rwa [if_pos (by omega)]), hst'⟩
      · next hless =>
        refine ⟨w, hmem w ?_, List.mem_singleton.mp ht ▸ hwv⟩
        rw [if_neg (by omega)]
        exact List.mem_singleton.mpr rfl
    · exact ⟨s, mem_outcomesAtMost_self f _ s, List.mem_singleton.mp ht ▸ hst⟩

theorem spared (h : Replays k lead rest f g) (least : Nat) (most? : Option Nat) :
    Replays k lead rest (fun s => outcomesAtMost f (spare least most? s) s)
      fun t => outcomesAtMost g (spare least most? t) t where
  forth {s t _} hst hs := by
    refine h.forth_atMost ?_ hst hs
    have hlengths := hst.length_after
    cases most? with
    | some most => exact Nat.le_refl _
    | none =>
      simp only [spare]
      omega
  back {s t _} hst ht hl := by
    refine h.back_atMost hst ?_ ht hl
    cases most? with
    | some most => exact .inl (Nat.le_refl _)
    | none => exact .inr (Nat.lt_succ_self _)
  shorter ht := h.shorter_atMost ht

end Replays

variable {k l : Nat} {lead rest : Text}

theorem replays_again {number : Nat} (hn : 0 < number) (ignoreCase : Bool) :
    Replays k lead rest (again number ignoreCase).outcomes
      (again (number + k) ignoreCase).outcomes where
  forth {s t s'} hst hs := by
    obtain ⟨taken, htaken, hs⟩ := Option.bind_eq_some_iff.mp (Option.mem_toList.mp hs)
    obtain ⟨hl, rfl⟩ := Spot.length_of_repeated? hs
    refine ⟨t.skip taken.text.length, Option.mem_toList.mpr ?_, hst.skip hl⟩
    rw [hst.captures number hn, htaken]
    exact (hst.repeated?_eq hl).trans (by rw [hs]; rfl)
  back {s t t'} hst ht hlong := by
    obtain ⟨taken, htaken, ht⟩ := Option.bind_eq_some_iff.mp (Option.mem_toList.mp ht)
    rw [hst.captures number hn] at htaken
    obtain ⟨own, hown, rfl⟩ := Option.map_eq_some_iff.mp htaken
    obtain ⟨hlength, rfl⟩ := Spot.length_of_repeated? ht
    have hl : own.text.length ≤ s.after.length := by
      have hlengths := hst.length_after
      simp only [Spot.skip, List.length_drop, Capture.behind] at hlong hlength
      omega
    obtain ⟨s', hs, -⟩ := Option.map_eq_some_iff.mp ((hst.repeated?_eq hl).symm.trans ht)
    obtain ⟨-, rfl⟩ := Spot.length_of_repeated? hs
    refine ⟨_, Option.mem_toList.mpr ?_, hst.skip hl⟩
    rw [hown]
    exact hs
  shorter ht := by
    obtain ⟨taken, -, hr⟩ := Option.bind_eq_some_iff.mp (Option.mem_toList.mp ht)
    exact (Spot.passes_of_repeated? hr 0 0).length_after

/-- A pattern that is local does within a text what it does in a part of it, with its numbers
raised. -/
theorem replays_raised {p : Pattern} (hp : p.Local) (hn : p.Numbered l) :
    Replays k lead rest p.outcomes (p.raised k).outcomes := by
  induction p with
  | empty => exact .self
  | one set =>
    refine ⟨fun hst hs => ?_, fun hst ht hl => ?_, fun ht => ?_⟩
    · obtain ⟨v, hv, hwv⟩ := hst.advance? (Option.mem_toList.mp hs)
      exact ⟨v, Option.mem_toList.mpr hv, hwv⟩
    · obtain ⟨w, hw, hwv⟩ := hst.of_advance? (Option.mem_toList.mp ht) hl
      exact ⟨w, Option.mem_toList.mpr hw, hwv⟩
    · obtain ⟨c, -, hg⟩ := Spot.advance?_eq_some_iff.mp (Option.mem_toList.mp ht)
      exact (Spot.Passes.of_goes hg 0 0).length_after
  | seq first second ihf ihs => exact (ihf hp.1 hn.1).flatMap (ihs hp.2 hn.2)
  | alt left right ihl ihr =>
    have hleft := ihl hp.1 hn.1
    have hright := ihr hp.2 hn.2
    refine ⟨fun hst hs => ?_, fun hst ht hl => ?_, fun ht => ?_⟩
    · cases List.mem_append.mp hs with
      | inl hs =>
        obtain ⟨t', ht, hst'⟩ := hleft.forth hst hs
        exact ⟨t', List.mem_append_left _ ht, hst'⟩
      | inr hs =>
        obtain ⟨t', ht, hst'⟩ := hright.forth hst hs
        exact ⟨t', List.mem_append_right _ ht, hst'⟩
    · cases List.mem_append.mp ht with
      | inl ht =>
        obtain ⟨s', hs, hst'⟩ := hleft.back hst ht hl
        exact ⟨s', List.mem_append_left _ hs, hst'⟩
      | inr ht =>
        obtain ⟨s', hs, hst'⟩ := hright.back hst ht hl
        exact ⟨s', List.mem_append_right _ hs, hst'⟩
    · cases List.mem_append.mp ht with
      | inl ht => exact hleft.shorter ht
      | inr ht => exact hright.shorter ht
  | loop least most? preference body ih =>
    have hbody := ih hp hn
    have hmost := (hbody.times least).flatMap (hbody.spared least most?)
    cases preference with
    | most => exact hmost
    | fewest =>
      refine hmost.congr (fun s s' => ?_) fun t t' => ?_
      all_goals simp only [raised, outcomes, List.mem_flatMap, mem_outcomesAsFew_iff]
  | group number body ih =>
    have hbody := ih hp hn.2
    refine ⟨fun hst hs => ?_, fun hst ht hl => ?_, fun ht => ?_⟩
    · obtain ⟨w, hw, rfl⟩ := List.mem_map.mp hs
      obtain ⟨v, hv, hwv⟩ := hbody.forth hst hw
      exact ⟨_, List.mem_map_of_mem hv, hst.remember hwv⟩
    · obtain ⟨v, hv, rfl⟩ := List.mem_map.mp ht
      obtain ⟨w, hw, hwv⟩ := hbody.back hst hv hl
      exact ⟨_, List.mem_map_of_mem hw, hst.remember hwv⟩
    · obtain ⟨v, hv, rfl⟩ := List.mem_map.mp ht
      have hshorter := hbody.shorter hv
      exact hshorter
  | again number ignoreCase => exact replays_again hn.1 ignoreCase
  | given number present absent ihp iha =>
    have hpresent := ihp hp.1 hn.2.1
    have habsent := iha hp.2 hn.2.2
    refine ⟨fun {s t s'} hst hs => ?_, fun {s t t'} hst ht hl => ?_, fun {t t'} ht => ?_⟩
    · rw [outcomes] at hs
      rw [raised, outcomes, hst.isSome_capture? hn.1.1]
      split at hs
      · next hset => rw [if_pos hset]; exact hpresent.forth hst hs
      · next hset => rw [if_neg hset]; exact habsent.forth hst hs
    · rw [raised, outcomes, hst.isSome_capture? hn.1.1] at ht
      rw [outcomes]
      split at ht
      · next hset => rw [if_pos hset]; exact hpresent.back hst ht hl
      · next hset => rw [if_neg hset]; exact habsent.back hst ht hl
    · rw [raised, outcomes] at ht
      split at ht
      · exact hpresent.shorter ht
      · exact habsent.shorter ht
  | anchor | look | atomic => exact hp.elim

/-- Where none of its groups has taken part yet, the pattern takes a part of a text if it takes all
of that part alone. -/
theorem exists_mem_outcomes_raised_iff {p : Pattern} (hp : p.Local) (hn : p.Numbered l) {t : Spot}
    {u : Text} (hk : t.Unset k) (ha : t.after = u ++ rest) :
    (∃ t' ∈ (p.raised k).outcomes t, t'.after = rest) ↔ p.takes u = true := by
  have hplaced := hk.placed ha
  have hreplays : Replays k t.before rest p.outcomes (p.raised k).outcomes := replays_raised hp hn
  rw [takes_iff]
  constructor
  · rintro ⟨t', ht, hrest⟩
    obtain ⟨s', hs, hst⟩ := hreplays.back hplaced ht (Nat.le_of_eq (congrArg _ hrest.symm))
    have hafter : s'.after ++ rest = [] ++ rest := hst.after.symm.trans hrest
    exact ⟨s', hs, List.append_cancel_right hafter⟩
  · rintro ⟨s', hs, hafter⟩
    obtain ⟨t', ht, hst⟩ := hreplays.forth hplaced hs
    exact ⟨t', ht, by rw [hst.after, hafter]; rfl⟩

end Pattern

end Phrasebook
