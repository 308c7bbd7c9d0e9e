import Phrasebook.Proofs.Pattern.Generated

/-!
# What a pattern prefers

A pattern takes the first text in its order of preference with which what follows can go on. For any
text this order is by length, the longest first, and for declared texts it is that of declaration.
Whatever follows, it can only make the pattern give up texts that are of no use to it.
-/

namespace Phrasebook.Pattern

/-- A run fails if what follows fails wherever the pattern can go. -/
theorem run_eq_none_iff {p : Pattern} (h : p.Plain) {s : Spot} {k : Follow} :
    p.run s k = none ↔ ∀ u t, p.Spells u → s.Goes u t → k t = none := by
  rw [run_eq_findSome? p, List.findSome?_eq_none_iff]
  constructor
  · exact fun hno u t hu hg => hno t ((mem_outcomes_iff h s t).mpr ⟨u, hu, hg⟩)
  · intro hno t ht
    obtain ⟨u, hu, hg⟩ := (mem_outcomes_iff h s t).mp ht
    exact hno u t hu hg

/-- The answer of a run is that of what follows, at some place that the pattern can go to. -/
theorem exists_of_run_eq_some {p : Pattern} (h : p.Plain) {s r : Spot} {k : Follow}
    (hr : p.run s k = some r) : ∃ u t, p.Spells u ∧ s.Goes u t ∧ k t = some r := by
  rw [run_eq_findSome? p] at hr
  obtain ⟨t, ht, hk⟩ := List.exists_of_findSome?_eq_some hr
  obtain ⟨u, hu, hg⟩ := (mem_outcomes_iff h s t).mp ht
  exact ⟨u, t, hu, hg, hk⟩

/-- Of the texts with which what follows can go on, the pattern takes one that is preferred to all
others. -/
def Favours (prefers : Text → Text → Prop) (p : Pattern) : Prop :=
  ∀ {s r : Spot} {k : Follow}, p.run s k = some r →
    ∃ u t, p.Spells u ∧ s.Goes u t ∧ k t = some r ∧
      ∀ v w, p.Spells v → s.Goes v w → k w ≠ none → v = u ∨ prefers u v

theorem spells_anyItem (u : Text) : anyItem.pattern.Spells u :=
  spells_characters (Nat.zero_le _) fun _ _ => rfl

theorem run_anyItem_nil {s : Spot} (h : s.after = []) (k : Follow) :
    anyItem.pattern.run s k = k s := by
  have hno : s.advance? .all = none := by simp [Spot.advance?, h]
  change atMost (one .all).run (s.after.length + 1) s k = _
  rw [atMost, run, hno]
  rfl

/-- To take any text is to go on for a character, if that leads anywhere, and else to stop. -/
theorem run_anyItem_cons {s t : Spot} {c : Char} (h : s.Goes [c] t) (k : Follow) :
    anyItem.pattern.run s k = (anyItem.pattern.run t k <|> k s) := by
  have hyes : s.advance? .all = some t := Spot.advance?_eq_some_iff.mpr ⟨c, rfl, h⟩
  have hlength : s.after.length = t.after.length + 1 := by
    rw [h.after]
    rfl
  change atMost (one .all).run (s.after.length + 1) s k = _
  rw [atMost, run, hyes, Option.bind_some, if_pos (by omega), hlength]
  rfl

def Longer (u v : Text) : Prop := v.length < u.length

/-- Any text: the longest that leaves what follows a chance. The induction is on the characters that
are left. -/
theorem favours_anyItem : anyItem.pattern.Favours Longer := by
  intro s r k hr
  induction ha : s.after generalizing s with
  | nil =>
    rw [run_anyItem_nil ha] at hr
    refine ⟨[], s, spells_anyItem [], .refl s, hr, fun v w _ hg _ => .inl ?_⟩
    exact (List.append_eq_nil_iff.mp (ha ▸ hg.after).symm).1
  | cons c rest ih =>
    have hg : s.Goes [c] ⟨c :: s.before, rest, s.captures⟩ := .of_after ha
    -- a text that is not empty goes on from the place after the first character
    have hnext : ∀ d v w, s.Goes (d :: v) w → d = c ∧ Spot.Goes ⟨c :: s.before, rest, s.captures⟩ v w := by
      intro d v w hv
      obtain ⟨t, ht, hw⟩ := Spot.Goes.split (u := [d]) hv
      have hd : d = c := (List.cons.inj (ht.after.symm.trans ha)).1
      rw [hd] at ht
      rw [hg.unique ht]
      exact ⟨hd, hw⟩
    rw [run_anyItem_cons hg] at hr
    cases hrun : anyItem.pattern.run ⟨c :: s.before, rest, s.captures⟩ k with
    | some found =>
      rw [hrun] at hr
      obtain rfl : found = r := Option.some.inj hr
      obtain ⟨u, t, hu, ht, hk, hbest⟩ := ih hrun rfl
      refine ⟨c :: u, t, spells_anyItem _, hg.trans ht, hk, fun v w _ hv hw => ?_⟩
      cases v with
      | nil => exact .inr (Nat.succ_pos _)
      | cons d v =>
        obtain ⟨rfl, hv⟩ := hnext d v w hv
        rcases hbest v w (spells_anyItem v) hv hw with rfl | hlt
        · exact .inl rfl
        · exact .inr (Nat.succ_lt_succ hlt)
    | none =>
      rw [hrun] at hr
      refine ⟨[], s, spells_anyItem [], .refl s, hr, fun v w _ hv hw => .inl ?_⟩
      cases v with
      | nil => rfl
      | cons d v =>
        have hno := (run_eq_none_iff plain_anyItem).mp hrun v w (spells_anyItem v) (hnext d v w hv).2
        exact absurd hno hw

def Earlier (values : List Text) (u v : Text) : Prop := values.idxOf u < values.idxOf v

theorem earlier_cons_self {values : List Text} {u v : Text} (h : v ≠ u) : Earlier (u :: values) u v := by
  rw [Earlier, List.idxOf_cons_self, List.idxOf_cons_ne _ h.symm]
  exact Nat.succ_pos _

theorem earlier_cons_iff {values : List Text} {first u v : Text} (hu : first ≠ u) (hv : first ≠ v) :
    Earlier (first :: values) u v ↔ Earlier values u v := by
  rw [Earlier, List.idxOf_cons_ne _ hu, List.idxOf_cons_ne _ hv]
  exact Nat.succ_lt_succ_iff

theorem plain_chars (text : Text) : (row (text.map charItem)).Plain := by
  simp [plain_row_iff, charItem, setItem, Plain]

/-- A single declared text leaves no choice. -/
theorem favours_chars (text : Text) (prefers : Text → Text → Prop) :
    (row (text.map charItem)).Favours prefers := by
  intro s r k hr
  obtain ⟨u, t, hu, hg, hk⟩ := exists_of_run_eq_some (plain_chars text) hr
  refine ⟨u, t, hu, hg, hk, fun v w hv _ _ => .inl ?_⟩
  rw [spells_chars.mp hv, spells_chars.mp hu]

/-- Declared texts: the one that is declared first among those that leave what follows a chance. -/
theorem favours_valuesItem {values : List Text} (h : values ≠ []) :
    (valuesItem values).pattern.Favours (Earlier values) := by
  induction values with
  | nil => exact absurd rfl h
  | cons first rest ih =>
    cases rest with
    | nil => exact favours_chars first _
    | cons second rest =>
      intro s r k hr
      have hne : second :: rest ≠ [] := List.cons_ne_nil _ _
      have hfirst := plain_chars first
      have hsplit : (valuesItem (first :: second :: rest)).pattern.run s k =
          ((row (first.map charItem)).run s k <|> (valuesItem (second :: rest)).pattern.run s k) := rfl
      rw [hsplit] at hr
      cases hrun : (row (first.map charItem)).run s k with
      | some found =>
        rw [hrun] at hr
        obtain rfl : found = r := Option.some.inj hr
        obtain ⟨u, t, hu, hg, hk⟩ := exists_of_run_eq_some hfirst hrun
        obtain rfl : u = first := spells_chars.mp hu
        refine ⟨u, t, (spells_valuesItem h).mpr List.mem_cons_self, hg, hk, fun v w _ _ _ => ?_⟩
        by_cases hv : v = u
        · exact .inl hv
        · exact .inr (earlier_cons_self hv)
      | none =>
        rw [hrun] at hr
        obtain ⟨u, t, hu, hg, hk, hbest⟩ := ih hne hr
        -- what follows cannot go on after the first text
        have hother : ∀ v w, s.Goes v w → k w ≠ none → first ≠ v := by
          rintro v w hv hw rfl
          exact hw ((run_eq_none_iff hfirst).mp hrun first w (spells_chars.mpr rfl) hv)
        have hmore := List.mem_cons_of_mem first ((spells_valuesItem hne).mp hu)
        have hsome : k t ≠ none := by simp [hk]
        refine ⟨u, t, (spells_valuesItem h).mpr hmore, hg, hk, fun v w hv hw hkw => ?_⟩
        have hv' : v ∈ second :: rest :=
          (List.mem_cons.mp ((spells_valuesItem h).mp hv)).resolve_left (hother v w hw hkw).symm
        rcases hbest v w ((spells_valuesItem hne).mpr hv') hw hkw with he | hlt
        · exact .inl he
        · exact .inr ((earlier_cons_iff (hother u t hg hsome) (hother v w hw hkw)).mpr hlt)

end Phrasebook.Pattern
