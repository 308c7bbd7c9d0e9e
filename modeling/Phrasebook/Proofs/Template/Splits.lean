import Phrasebook.Proofs.Template.Groups

/-!
# How a template splits a text

A template splits a text into what stands between the placeholders and what each of them takes. If
the pattern of each placeholder means a language wherever its groups have not taken part yet, the
template can split a text in just the ways in which texts of these languages fill its pieces. It finds
a split if there is one, and every field converts its own part of the text.
-/

namespace Phrasebook

open Phrase (Piece namesIn fill)

namespace Pattern

/-- Where no group beyond `k` has taken part, the pattern takes just the texts of a language. -/
def Means (language : Text → Prop) (k : Nat) (body : Pattern) : Prop :=
  ∀ (s : Spot) (u rest : Text), s.Unset k → s.after = u ++ rest →
    ((∃ t ∈ body.outcomes s, t.after = rest) ↔ language u)

namespace Means

variable {language : Text → Prop} {k : Nat} {p : Pattern}

theorem of_plain (h : p.Plain) (k : Nat) : Means p.Spells k p := by
  intro s u rest _ hs
  constructor
  · rintro ⟨t, ht, hrest⟩
    exact spells_of_mem_outcomes h ht (hs.trans (by rw [hrest]))
  · intro hu
    exact ⟨_, (mem_outcomes_iff h s _).mpr ⟨u, hu, Spot.Goes.of_after hs⟩, rfl⟩

/-- It means the same in a silent group. -/
theorem silent (h : Means language k p) (kind : ItemKind) : Means language k (row [⟨kind, p⟩]) := by
  intro s u rest hk hs
  rw [← h s u rest hk hs]
  simp [outcomes]

theorem congr {language' : Text → Prop} (h : Means language k p)
    (hl : ∀ u, language u ↔ language' u) : Means language' k p :=
  fun s u rest hk hs => (h s u rest hk hs).trans (hl u)

end Means

/-- The groups of the placeholders hold these texts. -/
def Holds (s : Spot) (numbers : List Nat) (texts : List Text) : Prop :=
  List.Forall₂ (fun i u => (s.capture? (i + 1)).map (·.text) = some u) numbers texts

theorem holds_of_captures {s : Spot} {m : Nat} {numbers : List Nat} {cs : List Capture}
    (h : List.Forall₂ (fun i c => s.capture? (i + 1) = some c ∧ i < m) numbers cs) :
    Holds s numbers (cs.map (·.text)) := by
  rw [Holds, List.forall₂_map_right_iff]
  exact h.imp fun i c hc => by rw [hc.1, Option.map_some]

theorem Holds.unique {s : Spot} {numbers : List Nat} {texts texts' : List Text}
    (h : Holds s numbers texts) (h' : Holds s numbers texts') : texts = texts' := by
  induction h generalizing texts' with
  | nil =>
    cases h'
    rfl
  | cons hi _ ih =>
    cases h' with
    | cons hi' hrest => rw [Option.some.inj (hi.symm.trans hi'), ih hrest]

/-- Texts of the languages of the placeholders can be taken by their groups. -/
theorem exists_outcome {language : Text → Text → Prop} {n m : Nat} {ps : List Piece}
    {items : List Item} (h : Laid count (fun name => Means (language name)) n ps items m) {s : Spot}
    (hk : s.Unset n) {rest : Text} {texts : List Text}
    (hl : List.Forall₂ language (namesIn ps) texts) (hs : s.after = fill ps texts ++ rest) :
    ∃ t ∈ (row items).outcomes s, t.after = rest ∧ Holds t (places count n (namesIn ps)) texts := by
  induction h generalizing s texts with
  | nil n =>
    cases hl
    exact ⟨s, by simp [outcomes], hs, .nil⟩
  | @plain n m c ps items _ ih =>
    have hchar : s.after = [c] ++ (fill ps texts ++ rest) := hs
    have hg := Spot.Goes.of_after hchar
    have hunset := (Spot.Passes.of_goes hg n n).unset hk (Nat.le_refl n)
    obtain ⟨t, ht, hrest, hholds⟩ := ih hunset hl rfl
    have hw := (mem_outcomes_iff (plain_charItem c) s _).mpr ⟨[c], spells_charItem.mpr rfl, hg⟩
    exact ⟨t, List.mem_flatMap.mpr ⟨_, hw, ht⟩, hrest, hholds⟩
  | @hole n m name body ps items hb hf hlaid ih =>
    cases hl with
    | @cons _ u _ texts hu hl =>
      have hs' : s.after = u ++ (fill ps texts ++ rest) := by rw [hs, fill, List.append_assoc]
      obtain ⟨w, hw, hafter⟩ := (hf s u _ (hk.mono (Nat.le_succ n)) hs').mpr hu
      have hsnext := passes_remember hb hw
      have hnext := hsnext.unset hk (by omega)
      obtain ⟨t, ht, hrest, hholds⟩ := ih (s := w.remember (n + 1) s) hnext hl hafter
      obtain ⟨hpasses, -⟩ := exists_captures hlaid hnext ht
      refine ⟨t, List.mem_flatMap.mpr ⟨_, List.mem_map_of_mem hw, ht⟩, hrest, .cons ?_ hholds⟩
      rw [hpasses.kept (n + 1) (.inl (by omega))]
      obtain ⟨v, hv, hbefore⟩ := (passing_of_between hb s w hw).forward
      have he : v ++ w.after = u ++ w.after := by rw [← hv, hs', hafter]
      obtain rfl := List.append_cancel_right he
      exact text_of_remember hbefore (n + 1)

/-- The ways in which the whole pattern takes a text are the ways to split it. -/
theorem holds_iff_splits {language : Text → Text → Prop} {m : Nat} {ps : List Piece}
    {items : List Item} (h : Laid count (fun name => Means (language name)) 0 ps items m)
    {text : Text} {texts : List Text} :
    (∃ s ∈ (enclosed items).outcomes (.ofText text), Holds s (places count 0 (namesIn ps)) texts) ↔
      text = fill ps texts ∧ List.Forall₂ language (namesIn ps) texts := by
  have hunset := unset_ofText text 0
  constructor
  · rintro ⟨s, hs, hholds⟩
    obtain ⟨hs, hafter⟩ := mem_outcomes_enclosed.mp hs
    obtain ⟨-, cs, hplaces, htook, hfill, -, -⟩ := exists_captures h hunset hs
    obtain rfl := hholds.unique (holds_of_captures hplaces)
    refine ⟨by rwa [hafter, List.append_nil] at hfill, ?_⟩
    rw [List.forall₂_map_right_iff]
    exact htook.imp fun name c ⟨k, body, hmeans, s, t, hk, ht, hs⟩ =>
      (hmeans s c.text t.after hk hs).mp ⟨t, ht, rfl⟩
  · rintro ⟨hfill, hl⟩
    have hs : (Spot.ofText text).after = fill ps texts ++ [] := by rw [List.append_nil]; exact hfill
    obtain ⟨t, ht, hrest, hholds⟩ := exists_outcome h hunset hl hs
    exact ⟨t, mem_outcomes_enclosed.mpr ⟨ht, hrest⟩, hholds⟩

/-- The pieces with some texts for the placeholders are what the pattern spells. -/
def SplitsAs (itemsOf : Text → List Item) (ps : List Piece) (text : Text) (texts : List Text) : Prop :=
  text = fill ps texts ∧
    List.Forall₂ (fun name c => (row (itemsOf name)).Spells c) (namesIn ps) texts

variable {itemsOf : Text → List Item} {ps : List Piece}

/-- A single placeholder takes all of the text. -/
theorem splitsAs_hole {name text : Text} {texts : List Text} :
    SplitsAs itemsOf [.hole name] text texts ↔
      texts = [text] ∧ (row (itemsOf name)).Spells text := by
  constructor
  · rintro ⟨hfill, hall⟩
    cases hall with
    | @cons _ c _ rest hc hrest =>
      cases hrest
      obtain rfl : text = c := hfill.trans (List.append_nil c)
      exact ⟨rfl, hc⟩
  · rintro ⟨rfl, hs⟩
    exact ⟨(List.append_nil text).symm, .cons hs .nil⟩

end Pattern

namespace Template

open Pattern

variable {α : Type} {typeOf : Text → FieldType α} {ps : List Piece}

/-- What a template reads in a text whose groups lie where its fields look for them: nothing if the
text cannot be split, and else what the groups of the placeholders take, which is a split. -/
theorem read_of_laid {count : Text → Nat} {language : Text → Text → Prop} {t : Template α}
    {items : List Item} {m : Nat}
    (hlaid : Laid count (fun name => Means (language name)) 0 ps items m)
    (hc : t.compiled = .ok (enclosed items, m)) (hf : t.fields = numbered 0 ((namesIn ps).map typeOf))
    (hg : ∀ name ∈ namesIn ps, (typeOf name).groups.getD 0 = count name)
    (inject : Option Text → α) (text : Text) :
    ((¬ ∃ texts, text = fill ps texts ∧ List.Forall₂ language (namesIn ps) texts) →
        t.read inject text = .ok none) ∧
      ((∃ texts, text = fill ps texts ∧ List.Forall₂ language (namesIn ps) texts) →
        ∃ cs : List Capture, (text = fill ps (cs.map (·.text)) ∧
            List.Forall₂ language (namesIn ps) (cs.map (·.text))) ∧
          cs.Pairwise (·.start ≤ ·.start) ∧
          t.read inject text =
            (convertEach ((namesIn ps).map typeOf) (cs.map fun c => inject (some c.text))).map
              fun values => some (List.zipWith readingFrom cs values)) := by
  cases hm : (enclosed items).match? text with
  | none =>
    refine ⟨fun _ => by simp only [read, hc, hm], fun ⟨texts, hsplit⟩ => ?_⟩
    obtain ⟨s, hs, -⟩ := (holds_iff_splits hlaid).mpr hsplit
    rw [match?_eq_head?, List.head?_eq_none_iff] at hm
    rw [hm] at hs
    cases hs
  | some s =>
    obtain ⟨cs, hplaces, -, hpair, -⟩ := exists_captures_of_match? hlaid hm
    have hs : s ∈ (enclosed items).outcomes (.ofText text) := by
      rw [match?_eq_head?] at hm
      exact List.mem_of_mem_head? hm
    have hsplit := (holds_iff_splits hlaid).mp ⟨s, hs, holds_of_captures hplaces⟩
    obtain ⟨hapart, hfields⟩ := fields_of_places hf hg hplaces
    refine ⟨fun hno => absurd ⟨_, hsplit⟩ hno, fun _ => ⟨cs, hsplit, hpair, ?_⟩⟩
    rw [read_of_captures hapart hc hm hfields inject, hf, types_numbered]

/-- What a template reads in a text: nothing if it cannot be split, and else the values of the texts
of a split. What the fields convert with may have been written with something in front. -/
theorem read_of_splits {given : Text → List Text} {count : Text → Nat}
    {language : Text → Text → Prop} {t : Template α} {written : Text → FieldType α}
    (hf : t.fields = numbered 0 ((namesIn ps).map typeOf))
    (hc : t.compiled = compile (expressionFor written ps))
    (h : ∀ name ∈ namesIn ps, (written name).Adds (given name) (count name) (Means (language name)))
    (hnew : ((namesIn ps).flatMap given).Nodup)
    (hg : ∀ name ∈ namesIn ps, (written name).groups = (typeOf name).groups)
    (inject : Option Text → α) (text : Text) :
    ((¬ ∃ texts, text = fill ps texts ∧ List.Forall₂ language (namesIn ps) texts) →
        t.read inject text = .ok none) ∧
      ((∃ texts, text = fill ps texts ∧ List.Forall₂ language (namesIn ps) texts) →
        ∃ texts, (text = fill ps texts ∧ List.Forall₂ language (namesIn ps) texts) ∧
          (t.read inject text).map (·.map (·.map (·.value))) =
            (convertEach ((namesIn ps).map typeOf) (texts.map fun c => inject (some c))).map
              some) := by
  obtain ⟨items, m, hlaid, hcompile⟩ := exists_compiled h hnew
  obtain ⟨hno, hyes⟩ := read_of_laid hlaid (hc.trans hcompile) hf
    (fun name hn => hg name hn ▸ (h name hn).groups) inject text
  refine ⟨hno, fun hsplit => ?_⟩
  obtain ⟨cs, hsplit, -, hread⟩ := hyes hsplit
  have hl : cs.length = (namesIn ps).length := by rw [hsplit.2.length_eq, List.length_map]
  refine ⟨cs.map (·.text), hsplit, ?_⟩
  rw [hread, values_of_readings (by simp [hl]) (by simp [hl]), List.map_map]
  rfl

/-- The same for types that number no groups of their own. -/
theorem read_of_pieces {itemsOf : Text → List Item} {t : Template α} {written : Text → FieldType α}
    (hf : t.fields = numbered 0 ((namesIn ps).map typeOf))
    (hc : t.compiled = compile (expressionFor written ps))
    (h : ∀ name ∈ namesIn ps, (written name).ReadsAs (itemsOf name))
    (hg : ∀ name ∈ namesIn ps, (written name).groups = (typeOf name).groups)
    (inject : Option Text → α) (text : Text) :
    ((¬ ∃ texts, SplitsAs itemsOf ps text texts) → t.read inject text = .ok none) ∧
      ((∃ texts, SplitsAs itemsOf ps text texts) → ∃ texts, SplitsAs itemsOf ps text texts ∧
        (t.read inject text).map (·.map (·.map (·.value))) =
          (convertEach ((namesIn ps).map typeOf) (texts.map fun c => inject (some c))).map some) := by
  have hmeans : ∀ name ∈ namesIn ps, (written name).Adds [] 0 (Means (row (itemsOf name)).Spells) :=
    fun name hn => (h name hn).adds.imp fun k p hp => by
      rw [hp]
      exact .of_plain (h name hn).plain k
  exact read_of_splits hf hc hmeans (nodup_unnamed _) hg inject text

end Template

end Phrasebook
