import Phrasebook.Proofs.Decoder
import Phrasebook.Proofs.Matching
import Phrasebook.Proofs.Pattern.Preference

/-!
# How ambiguous texts are read

A text can be a phrase with texts for its placeholders in several ways. The search for a match goes
from left to right, so it is the first placeholder that gets the text it prefers among those that
can be completed at all, then the second, and so on: of all ways the one is found that is better
than any other at the first placeholder where the two differ.
-/

namespace Phrasebook

open Phrase (Piece namesIn fill)

/-- The first of two ways to fill placeholders is better: at the first placeholder where they differ,
its text is preferred. -/
inductive Better (prefers : Text → Text → Text → Prop) :
    List Text → List Text → List Text → Prop where
  | here {name u v : Text} {names us vs : List Text} (hne : u ≠ v) (h : prefers name u v) :
      Better prefers (name :: names) (u :: us) (v :: vs)
  | later {name u : Text} {names us vs : List Text} (h : Better prefers names us vs) :
      Better prefers (name :: names) (u :: us) (u :: vs)

namespace Pattern

/-- The pattern spells the texts of a language, and takes the one it prefers. -/
structure Picks (language : Text → Prop) (prefers : Text → Text → Prop) (body : Pattern) : Prop where
  plain : body.Plain
  spells : ∀ u, body.Spells u ↔ language u
  favours : body.Favours prefers

namespace Picks

variable {language : Text → Prop} {prefers : Text → Text → Prop} {p : Pattern}

theorem means (h : Picks language prefers p) (k : Nat) : Means language k p :=
  (Means.of_plain h.plain k).congr h.spells

/-- Nothing changes in a silent group. -/
theorem silent (h : Picks language prefers p) (kind : ItemKind) :
    Picks language prefers (row [⟨kind, p⟩]) where
  plain := ⟨h.plain, trivial⟩
  spells u := spells_row_singleton.trans (h.spells u)
  favours hr := by
    obtain ⟨u, t, hu, hg, hk, hbest⟩ := h.favours hr
    refine ⟨u, t, spells_row_singleton.mpr hu, hg, hk, fun v w hv => ?_⟩
    exact hbest v w (spells_row_singleton.mp hv)

end Picks

def atEnd : Follow := fun s => if s.satisfies .finish then some s else none

theorem atEnd_eq_some_iff {s r : Spot} : atEnd s = some r ↔ s.after = [] ∧ s = r := by
  simp [atEnd, Spot.satisfies]

theorem run_row_append (items more : List Item) (s : Spot) (k : Follow) :
    (row (items ++ more)).run s k = (row items).run s fun t => (row more).run t k := by
  induction items generalizing s with
  | nil => rfl
  | cons item items ih =>
    rw [List.cons_append, row_cons, row_cons, run, run]
    congr 1
    funext t
    exact ih t

theorem match?_enclosed (items : List Item) (text : Text) :
    (enclosed items).match? text = (row items).run (.ofText text) atEnd := by
  have hstart : (Spot.ofText text).satisfies (.start false) = true := rfl
  rw [match?, enclosed, List.cons_append, row_cons, run, run, if_pos hstart, run_row_append]
  rfl

variable {count : Text → Nat} {language : Text → Text → Prop} {prefers : Text → Text → Text → Prop}
  {n m : Nat} {ps : List Piece} {items : List Item}

/-- A run succeeds if what is left of the text can be split at all. -/
theorem run_ne_none (h : Laid count (fun name _ => Picks (language name) (prefers name)) n ps items m)
    {s : Spot} (hk : s.Unset n) {texts : List Text} (hl : List.Forall₂ language (namesIn ps) texts)
    (hs : s.after = fill ps texts) : (row items).run s atEnd ≠ none := by
  have hs' : s.after = fill ps texts ++ [] := by rw [List.append_nil, hs]
  obtain ⟨t, ht, hend, -⟩ := exists_outcome (h.imp fun _ k _ hp => hp.means k) hk hl hs'
  intro hno
  rw [run_eq_findSome?, List.findSome?_eq_none_iff] at hno
  have hsome : atEnd t = some t := atEnd_eq_some_iff.mpr ⟨hend, rfl⟩
  rw [hno t ht] at hsome
  cases hsome

/-- The groups of the placeholders take the best of all ways to split what is left of the text. The
induction is along the pieces: of what a placeholder could take, only that counts with which the
rest can be split. -/
theorem exists_best (h : Laid count (fun name _ => Picks (language name) (prefers name)) n ps items m)
    {s r : Spot} (hk : s.Unset n) (hr : (row items).run s atEnd = some r) :
    ∃ texts, (s.after = fill ps texts ∧ List.Forall₂ language (namesIn ps) texts) ∧
      Holds r (places count n (namesIn ps)) texts ∧
      ∀ other, s.after = fill ps other → List.Forall₂ language (namesIn ps) other →
        other = texts ∨ Better prefers (namesIn ps) texts other := by
  induction h generalizing s with
  | nil n =>
    obtain ⟨hend, -⟩ := atEnd_eq_some_iff.mp hr
    refine ⟨[], ⟨hend, .nil⟩, .nil, fun other _ hl => .inl ?_⟩
    cases hl
    rfl
  | @plain n m c ps items hlaid ih =>
    obtain ⟨u, t, hu, hg, hrest⟩ := exists_of_run_eq_some (plain_charItem c) hr
    obtain rfl : u = [c] := spells_charItem.mp hu
    have hunset := (Spot.Passes.of_goes hg n n).unset hk (Nat.le_refl n)
    obtain ⟨texts, ⟨hfill, hl⟩, hholds, hbest⟩ := ih hunset hrest
    refine ⟨texts, ⟨?_, hl⟩, hholds, fun other ho => hbest other ?_⟩
    · rw [hg.after, hfill]
      rfl
    · exact (List.cons.inj (hg.after.symm.trans ho)).2
  | @hole n m name body ps items hb hf hlaid ih =>
    change body.run s (fun t => (row items).run (t.remember (n + 1) s) atEnd) = some r at hr
    obtain ⟨u, t, hu, hg, hrest, hpick⟩ := hf.favours hr
    have hunset : ∀ v w, body.Spells v → s.Goes v w →
        (w.remember (n + 1) s).Unset (n + 1 + count name) := fun v w hv hw =>
      (passes_remember hb ((mem_outcomes_iff hf.plain s w).mpr ⟨v, hv, hw⟩)).unset hk (by omega)
    obtain ⟨texts, ⟨hfill, hl⟩, hholds, hbest⟩ := ih (hunset u t hu hg) hrest
    have hafter : t.after = fill ps texts := hfill
    refine ⟨u :: texts, ⟨?_, .cons ((hf.spells u).mp hu) hl⟩, .cons ?_ hholds, ?_⟩
    · rw [hg.after, hafter]
      rfl
    · -- the group of this placeholder is not overwritten by those after it
      have hmem : r ∈ (row items).outcomes (t.remember (n + 1) s) := by
        rw [run_eq_findSome?] at hrest
        obtain ⟨last, hlast, hend⟩ := List.exists_of_findSome?_eq_some hrest
        rwa [← (atEnd_eq_some_iff.mp hend).2]
      rw [(exists_captures hlaid (hunset u t hu hg) hmem).1.kept (n + 1) (.inl (by omega))]
      exact text_of_remember hg.before (n + 1)
    · intro other ho hother
      cases hother with
      | @cons _ v _ vs hv hvs =>
        have hw : s.Goes v ⟨v.reverse ++ s.before, fill ps vs, s.captures⟩ := .of_after ho
        by_cases he : v = u
        · subst he
          have hrest : t.after = fill ps vs := by rw [hg.unique hw]
          rcases hbest vs hrest hvs with rfl | hbetter
          · exact .inl rfl
          · exact .inr (.later hbetter)
        · have hcan : (row items).run
              (Spot.remember ⟨v.reverse ++ s.before, fill ps vs, s.captures⟩ (n + 1) s) atEnd ≠ none :=
            run_ne_none hlaid (hunset v _ ((hf.spells v).mpr hv) hw) hvs rfl
          have hprefers := (hpick v _ ((hf.spells v).mpr hv) hw hcan).resolve_left he
          exact .inr (.here (Ne.symm he) hprefers)

end Pattern

/-- A text that can be split is read by the best of its splits. -/
theorem Template.read_best {α : Type} {typeOf : Text → FieldType α} {count : Text → Nat}
    {language : Text → Text → Prop} {prefers : Text → Text → Text → Prop} {ps : List Piece}
    {t : Template α} (hf : t.fields = numbered 0 ((namesIn ps).map typeOf))
    (hc : t.compiled = compile (expressionFor typeOf ps))
    (h : ∀ name ∈ namesIn ps,
      (typeOf name).Adds [] (count name) fun _ => Pattern.Picks (language name) (prefers name))
    (inject : Option Text → α) {text : Text} {given : List Text}
    (hs : text = fill ps given ∧ List.Forall₂ language (namesIn ps) given) :
    ∃ texts, (text = fill ps texts ∧ List.Forall₂ language (namesIn ps) texts) ∧
      (∀ other, text = fill ps other → List.Forall₂ language (namesIn ps) other →
        other = texts ∨ Better prefers (namesIn ps) texts other) ∧
      (t.read inject text).map (·.map (·.map (·.value))) =
        (convertEach ((namesIn ps).map typeOf) (texts.map fun c => inject (some c))).map some := by
  obtain ⟨items, m, hlaid, hcompile⟩ := exists_compiled_unnamed h
  rw [hcompile] at hc
  cases hm : (Pattern.enclosed items).match? text with
  | none =>
    rw [Pattern.match?_enclosed] at hm
    exact absurd hm (Pattern.run_ne_none hlaid (Pattern.unset_ofText text 0) hs.2 hs.1)
  | some r =>
    obtain ⟨cs, hplaces, -⟩ := Pattern.exists_captures_of_match? hlaid hm
    have hgroups : ∀ name ∈ namesIn ps, (typeOf name).groups.getD 0 = count name :=
      fun name hn => (h name hn).groups
    obtain ⟨hapart, hfields⟩ := fields_of_places hf hgroups hplaces
    have hrun := hm
    rw [Pattern.match?_enclosed] at hrun
    obtain ⟨texts, hsplit, hholds, hbest⟩ := Pattern.exists_best hlaid (Pattern.unset_ofText text 0) hrun
    obtain rfl := hholds.unique (Pattern.holds_of_captures hplaces)
    refine ⟨_, hsplit, hbest, ?_⟩
    rw [values_of_captures hapart hc hm hfields inject, hf, types_numbered, List.map_map]
    rfl

namespace Definition

/-- A definition for a single text: any text, or one of some declared texts. -/
def Single : Definition → Prop
  | string | sum _ => True
  | list _ _ | raw _ | unknown _ => False

def Allows : Definition → Text → Prop
  | string, _ => True
  | sum choices, t => t ∈ choices.values
  | _, _ => False

/-- Which of two texts such a definition prefers: the longer one, or the one declared earlier. -/
def Prefers : Definition → Text → Text → Prop
  | string => Pattern.Longer
  | sum choices => Pattern.Earlier choices.values
  | _ => fun _ _ => False

variable {definition : Definition}

theorem Single.generated (h : definition.Single) : definition.Generated := by
  cases definition with
  | string | sum => trivial
  | list | raw | unknown => exact h.elim

theorem Single.known (h : definition.Single) (value : Value) : definition ≠ .unknown value := by
  rintro rfl
  exact h

theorem Single.picks (h : definition.Single) :
    Pattern.Picks definition.Allows definition.Prefers (Pattern.row definition.items) := by
  cases definition with
  | string =>
    have hany : Pattern.Picks (string.Allows) Pattern.Longer Pattern.anyItem.pattern :=
      ⟨Pattern.plain_anyItem, fun u => ⟨fun _ => trivial, fun _ => Pattern.spells_anyItem u⟩,
        Pattern.favours_anyItem⟩
    exact hany.silent _
  | sum choices =>
    have hvalues : Pattern.Picks (sum choices).Allows (Pattern.Earlier choices.values)
        (Pattern.valuesItem choices.values).pattern :=
      ⟨Pattern.plain_valuesItem _, fun _ => Pattern.spells_valuesItem choices.values_ne_nil,
        Pattern.favours_valuesItem choices.values_ne_nil⟩
    exact hvalues.silent _
  | list | raw | unknown => exact h.elim

/-- A text that is allowed is handed on as it is. -/
theorem Single.convert (h : definition.Single) {t : Text} (ht : definition.Allows t) :
    definition.fieldType.convert (.text t) = .ok (.text t) := by
  cases definition with
  | string => rfl
  | sum choices => exact Decoder.decode_choice_iff.mpr ⟨Decoder.declares_text.mpr ht, rfl⟩
  | list | raw | unknown => exact h.elim

end Definition

namespace Definitions

def Allow (definitions : Definitions) (name t : Text) : Prop :=
  ∃ definition, definitions.find? name = some definition ∧ definition.Allows t

def Prefer (definitions : Definitions) (name u v : Text) : Prop :=
  ∃ definition, definitions.find? name = some definition ∧ definition.Prefers u v

end Definitions

namespace Request

variable {H : Type}

/-- Each placeholder of the phrase has a definition for single texts. -/
def Single (q : Request H) : Prop :=
  ∀ name ∈ Phrase.names q.phrase, isBuiltIn name = false ∧
    ∃ definition, q.definitions.find? name = some definition ∧ definition.Single

def IsSplit (q : Request H) (text : Text) (texts : List Text) : Prop :=
  text = fill (Phrase.pieces q.phrase) texts ∧
    List.Forall₂ q.definitions.Allow (Phrase.names q.phrase) texts

theorem picks_typeOf {q : Request H} (h : q.Single) {name : Text} (hn : name ∈ Phrase.names q.phrase) :
    (q.definitions.typeOf name).Adds [] 0
      fun _ => Pattern.Picks (q.definitions.Allow name) (q.definitions.Prefer name) := by
  obtain ⟨hb, definition, hd, hsingle⟩ := h name hn
  have hallow : q.definitions.Allow name = definition.Allows := by
    funext t
    simp [Definitions.Allow, hd]
  have hprefer : q.definitions.Prefer name = definition.Prefers := by
    funext u v
    simp [Definitions.Prefer, hd]
  have htype : q.definitions.typeOf name = definition.fieldType := by
    rw [Definitions.typeOf, ofName?_eq_none hb, hd]
  rw [hallow, hprefer, htype]
  exact (Definition.readsAs_fieldType hsingle.generated).adds.imp fun _ p hp =>
    hp ▸ hsingle.picks.silent _

/-- Texts that are allowed are handed on as they are. -/
theorem convertAll_of_isSplit {q : Request H} (h : q.Single) {text : Text} {texts : List Text}
    (hs : q.IsSplit text texts) : q.convertAll texts = .ok (texts.map .text) := by
  have hall : List.Forall₂ (fun name t => (q.definitions.typeOf name).convert (.text t) = .ok (.text t))
      (Phrase.names q.phrase) texts := by
    refine ((List.forall₂_and_left _ _).mpr ⟨fun name hn => hn, hs.2⟩).imp ?_
    rintro name t ⟨hn, definition, hd, ht⟩
    obtain ⟨hb, other, ho, hsingle⟩ := h name hn
    obtain rfl : definition = other := Option.some.inj (hd.symm.trans ho)
    rw [Definitions.typeOf, ofName?_eq_none hb, hd]
    exact hsingle.convert ht
  have hpairs : q.convertAll ((texts.map fun t => (t, Value.text t)).map (·.1)) =
      .ok ((texts.map fun t => (t, Value.text t)).map (·.2)) :=
    convertAll_eq_ok (List.forall₂_map_right_iff.mpr hall)
  simpa only [List.map_map, Function.comp_def, List.map_id'] using hpairs

/-- A step reads a text by the best of its splits. -/
theorem read_best {q : Request H} {step : StandaloneStep H} (h : q.ServedBy step) (hs : q.Single)
    {text : Text} (hsplit : ∃ texts, q.IsSplit text texts) :
    ∃ texts, q.IsSplit text texts ∧
      (∀ other, q.IsSplit text other →
        other = texts ∨ Better q.definitions.Prefer (Phrase.names q.phrase) texts other) ∧
      step.read text = .ok (some (texts.map .text)) := by
  obtain ⟨given, hgiven⟩ := hsplit
  obtain ⟨texts, hbest, hall, hread⟩ := Template.read_best h.fields h.compiled
    (fun name hn => picks_typeOf hs hn) Value.ofCapture hgiven
  refine ⟨texts, hbest, fun other ho => hall other ho.1 ho.2, ?_⟩
  have hvalues : step.read text = (q.convertAll texts).map some := hread
  rw [hvalues, convertAll_of_isSplit hs hbest]
  rfl

end Request

namespace Standalone

variable {H : Type}

/-- A phrase whose placeholders are for single texts can be registered with a new host, and a text
that can be split in some way is split in the best. -/
theorem find_best (q : Request H) (hn : q.Named) (h : q.Single)
    (hu : Registrar.unused q.phrase q.definitions = [] ∨ q.registrar.settings.allowUnused = true) :
    (∃ registration, (q.make (Request.newDesk : Desk (Standalone H))).1 = .ok registration) ∧
      ∀ text, (∃ texts, q.IsSplit text texts) →
        ∃ step texts, (q.make Request.newDesk).2.host.find text = .ok (some (step, texts.map .text)) ∧
          step.handler = q.handler ∧ q.IsSplit text texts ∧
          ∀ other, q.IsSplit text other →
            other = texts ∨ Better q.definitions.Prefer (Phrase.names q.phrase) texts other := by
  have hmade : ∃ registration, (q.make (Request.newDesk : Desk (Standalone H))).1 = .ok registration := by
    refine Request.make_newDesk hn (fun name hname => ?_) hu
    obtain ⟨-, definition, hd, hsingle⟩ := h name (List.mem_of_mem_filter hname)
    exact ⟨definition, hd, hsingle.known⟩
  refine ⟨hmade, fun text hsplit => ?_⟩
  obtain ⟨registration, hr⟩ := hmade
  obtain ⟨step, hsteps, hserved⟩ := Request.serves_make_of_ok hn hr
  obtain ⟨texts, hbest, hall, hread⟩ := Request.read_best hserved h hsplit
  refine ⟨step, texts, ?_, hserved.handler, hbest, hall⟩
  rw [find, hsteps, firstOf, hread]

def adjoining : Request Unit :=
  ⟨⟨{}, fun _ => ['t']⟩, ['{', 'a', '}', '{', 'b', '}'], (),
    [(['a'], .string), (['b'], .sum ⟨['x', 'x'], [['x']]⟩)]⟩

theorem single_adjoining : adjoining.Single := by
  intro name hn
  rcases List.mem_pair.mp (show name ∈ [['a'], ['b']] from hn) with rfl | rfl
  · exact ⟨by decide, _, rfl, trivial⟩
  · exact ⟨by decide, _, rfl, trivial⟩

theorem isSplit_adjoining_iff {text u v : Text} :
    adjoining.IsSplit text [u, v] ↔ text = u ++ v ∧ v ∈ [['x', 'x'], ['x']] := by
  constructor
  · rintro ⟨hfill, hall⟩
    cases hall with
    | cons _ hrest =>
      cases hrest with
      | cons hv _ =>
        obtain ⟨definition, hd, hallows⟩ := hv
        obtain rfl : definition = .sum ⟨['x', 'x'], [['x']]⟩ := (Option.some.inj hd).symm
        exact ⟨hfill.trans (congrArg (u ++ ·) (List.append_nil v)), hallows⟩
  · rintro ⟨rfl, hv⟩
    refine ⟨congrArg (u ++ ·) (List.append_nil v).symm, .cons ?_ (.cons ?_ .nil)⟩
    · exact ⟨.string, rfl, trivial⟩
    · exact ⟨.sum ⟨['x', 'x'], [['x']]⟩, rfl, hv⟩

/-- The first placeholder gets all that it can, although the second prefers the longer text. -/
theorem find_best_adjoining :
    adjoining.Named ∧ adjoining.Single ∧
      Registrar.unused adjoining.phrase adjoining.definitions = [] ∧
      (∃ registration, (adjoining.make (Request.newDesk : Desk (Standalone Unit))).1 = .ok registration) ∧
      adjoining.IsSplit ['x', 'x', 'x'] [['x'], ['x', 'x']] ∧
      ∃ step, (adjoining.make Request.newDesk).2.host.find ['x', 'x', 'x'] =
        .ok (some (step, [.text ['x', 'x'], .text ['x']])) := by
  have hn : adjoining.Named := by
    intro n
    change Phrase.IsName ['t']
    decide
  have hu : Registrar.unused adjoining.phrase adjoining.definitions = [] := by decide
  have hsplit : adjoining.IsSplit ['x', 'x', 'x'] [['x'], ['x', 'x']] :=
    isSplit_adjoining_iff.mpr (by decide)
  obtain ⟨hmade, hfind⟩ := find_best adjoining hn single_adjoining (.inl hu)
  obtain ⟨step, texts, hfound, -, hbest, hall⟩ := hfind _ ⟨_, hsplit⟩
  refine ⟨hn, single_adjoining, hu, hmade, hsplit, step, ?_⟩
  obtain ⟨u, v, rfl⟩ : ∃ u v, texts = [u, v] := List.length_eq_two.mp hbest.2.length_eq.symm
  obtain ⟨hfill, hv⟩ := isSplit_adjoining_iff.mp hbest
  rcases List.mem_pair.mp hv with rfl | rfl
  · have hsame : ['x'] ++ ['x', 'x'] = u ++ ['x', 'x'] := hfill
    obtain rfl := List.append_cancel_right hsame
    have hother : adjoining.IsSplit ['x', 'x', 'x'] [['x', 'x'], ['x']] :=
      isSplit_adjoining_iff.mpr (by decide)
    rcases hall _ hother with he | hbetter
    · cases he
    · cases hbetter with
      | here _ h =>
        obtain ⟨definition, hd, hprefers⟩ := h
        obtain rfl : definition = .string := (Option.some.inj hd).symm
        exact absurd (show 2 < 1 from hprefers) (by decide)
  · have hsame : ['x', 'x'] ++ ['x'] = u ++ ['x'] := hfill
    obtain rfl := List.append_cancel_right hsame
    exact hfound

end Standalone

end Phrasebook
