import Phrasebook.Proofs.Host.Echo

/-!
# Patterns of one's own within phrases

A raw definition brings a pattern of its own, which becomes part of the pattern of each phrase that
uses it, perhaps several times and among groups of other placeholders. If it is portable and its
definition counts its groups rightly, the placeholder can take just what the pattern takes by itself
when it is read as step texts are. That is not always what it was compiled to take: the flags that it
was compiled with are not part of what is written.
-/

namespace Phrasebook

open Phrase (Piece namesIn fill)

namespace Pattern

theorem fits_iff_of_read {written : Text} {p : Pattern} {groups : Nat}
    (h : read .stepText written = .ok (p, groups)) (t : Text) : Fits written t ↔ p.takes t = true := by
  constructor
  · rintro ⟨p', groups', h', ht⟩
    rw [h] at h'
    cases h'
    exact ht
  · exact fun ht => ⟨p, groups, h, ht⟩

/-- A portable pattern means what it takes by itself, wherever its groups lie. -/
theorem Portable.means {written : Text} {p : Pattern} {n : Nat} {given : List Text}
    (h : Portable written p n given) (hn : p.Numbered n) (k : Nat) :
    Means (Fits written) k (p.raised k) := by
  intro s u rest hk hs
  rw [fits_iff_of_read h.read_eq]
  exact exists_mem_outcomes_raised_iff h.stays hn hk hs

theorem Means.of_reads {written : Text} {items : List Item} (h : Reads .stepText written items)
    (hp : (row items).Plain) (k : Nat) : Means (Fits written) k (row items) :=
  (Means.of_plain hp k).congr fun u => (fits_iff_spells h hp u).symm

end Pattern

namespace Definition

/-- A pattern of one's own is portable, its definition says how many groups it has, and it gives
groups the names that are listed. -/
def Portable : Definition → List Text → Prop
  | raw d, given =>
    ∃ (p : Pattern) (n : Nat), Pattern.Portable d.pattern p n given ∧ d.groups.getD 0 = n
  | string, given | sum _, given | list _ _, given => given = []
  | unknown _, _ => False

/-- In a template the field of a portable definition has as many groups as it says, and a pattern
that means what the definition takes. -/
theorem exists_adds {definition : Definition} {given : List Text} (h : definition.Portable given) :
    ∃ n, definition.fieldType.Adds given n (Pattern.Means (Pattern.Fits definition.pattern)) := by
  have hgenerated : definition.Generated →
      definition.fieldType.Adds [] 0 (Pattern.Means (Pattern.Fits definition.pattern)) := by
    intro hg
    refine (readsAs_fieldType hg).adds.imp fun k body hb => ?_
    rw [hb]
    exact (Pattern.Means.of_reads (reads_pattern hg) (plain_items definition) k).silent .ordinary
  cases definition with
  | string | sum | list =>
    obtain rfl : given = [] := h
    exact ⟨0, hgenerated trivial⟩
  | raw d =>
    obtain ⟨p, n, hp, hn⟩ := h
    refine ⟨n, hp.reads.gains.imp fun k body ⟨hnumbered, hb⟩ => ?_,
      fun he => absurd (Option.some.inj he) (by decide), hn⟩
    rw [hb]
    exact (hp.means hnumbered k).silent .ordinary
  | unknown value => exact h.elim

end Definition

namespace Definitions

/-- The definition of the placeholder is portable. The built-in ones give no names. -/
def Portable (definitions : Definitions) (name : Text) (given : List Text) : Prop :=
  match BuiltIn.ofName? name with
  | some _ => given = []
  | none => ∀ definition, definitions.find? name = some definition → definition.Portable given

/-- The field of a placeholder has as many groups as its type says, and a pattern that means what
the placeholder takes. -/
theorem adds_typeOf {definitions : Definitions} {name : Text} {given : List Text}
    (hp : definitions.Portable name given)
    (hd : isBuiltIn name = false → definitions.find? name ≠ none) :
    (definitions.typeOf name).Adds given ((definitions.typeOf name).groups.getD 0).toNat
      (Pattern.Means (Pattern.Fits (definitions.patternOf name))) := by
  have hexists : ∃ n, (definitions.typeOf name).Adds given n
      (Pattern.Means (Pattern.Fits (definitions.patternOf name))) := by
    rw [typeOf, patternOf]
    unfold Portable at hp
    cases hb : BuiltIn.ofName? name with
    | some b =>
      rw [hb] at hp
      obtain rfl : given = [] := hp
      have hreads := Pattern.reads_builtIn b
      have hplain := Pattern.plain_builtInItems b
      exact ⟨0, (Pattern.Gains.of_reads hreads hplain).imp fun k body he =>
        he ▸ Pattern.Means.of_reads hreads hplain k, Pattern.head?_builtIn b, rfl⟩
    | none =>
      rw [hb] at hp
      cases hf : definitions.find? name with
      | none => exact absurd hf (hd (by rw [isBuiltIn, hb]; rfl))
      | some definition => exact Definition.exists_adds (hp definition hf)
  obtain ⟨n, hn⟩ := hexists
  rwa [hn.groups, Int.toNat_natCast]

end Definitions

/-- In some way in which the pattern of the step takes the text, its fields hold these texts. -/
def StandaloneStep.MayTake {H : Type} (step : StandaloneStep H) (text : Text) (texts : List Text) :
    Prop :=
  ∃ pattern groups s, step.template.compiled = .ok (pattern, groups) ∧
    s ∈ pattern.outcomes (.ofText text) ∧
    step.template.fields.map (fun f => (s.capture? (f.index.toNat + 1)).map (·.text)) =
      texts.map some

theorem Pattern.holds_iff_map {s : Spot} {numbers : List Nat} {texts : List Text} :
    Holds s numbers texts ↔
      numbers.map (fun i => (s.capture? (i + 1)).map (·.text)) = texts.map some := by
  rw [← List.forall₂_eq_eq_eq, List.forall₂_map_left_iff, List.forall₂_map_right_iff]
  rfl

namespace Request

variable {H : Type}

/-- The definitions of the placeholders of the phrase are portable, and over all its placeholders no
name is given to two groups. -/
def Portable (q : Request H) : Prop :=
  ∃ given : Text → List Text,
    (∀ name ∈ Phrase.names q.phrase, q.definitions.Portable name (given name)) ∧
      ((Phrase.names q.phrase).flatMap given).Nodup

section Served

variable {q : Request H} {step : StandaloneStep H} (h : q.ServedBy step) (hp : q.Portable)

include h hp

theorem exists_laid_of_servedBy :
    ∃ items m, Pattern.Laid (fun name => ((q.definitions.typeOf name).groups.getD 0).toNat)
        (fun name => Pattern.Means (Pattern.Fits (q.definitions.patternOf name))) 0
        (Phrase.pieces q.phrase) items m ∧
      step.template.compiled = .ok (Pattern.enclosed items, m) := by
  obtain ⟨given, hp, hnew⟩ := hp
  obtain ⟨items, m, hlaid, hcompile⟩ := Template.exists_compiled (fun name hn =>
    Definitions.adds_typeOf (hp name hn) (defined_of_servedBy h hn)) hnew
  exact ⟨items, m, hlaid, h.compiled.trans hcompile⟩

theorem groups_of_servedBy : ∀ name ∈ Phrase.names q.phrase,
    (q.definitions.typeOf name).groups.getD 0 =
      ((q.definitions.typeOf name).groups.getD 0).toNat := by
  obtain ⟨given, hp, -⟩ := hp
  exact fun name hn => (Definitions.adds_typeOf (hp name hn) (defined_of_servedBy h hn)).groups

/-- The fields of a step can hold just the texts of the splits. -/
theorem mayTake_iff (text : Text) (texts : List Text) :
    step.MayTake text texts ↔ q.Splits text texts := by
  obtain ⟨items, m, hlaid, hcompiled⟩ := exists_laid_of_servedBy h hp
  have hindices := Template.indices_numbered (groups_of_servedBy h hp) 0
  have hholds : ∀ s : Spot, step.template.fields.map
      (fun f => (s.capture? (f.index.toNat + 1)).map (·.text)) = texts.map some ↔
        Pattern.Holds s (Pattern.places
          (fun name => ((q.definitions.typeOf name).groups.getD 0).toNat) 0
            (Phrase.names q.phrase)) texts := by
    intro s
    rw [Pattern.holds_iff_map, ← hindices, List.map_map, h.fields]
    rfl
  refine Iff.trans ?_ (Pattern.holds_iff_splits hlaid)
  constructor
  · rintro ⟨pattern, groups, s, hc, hs, hmap⟩
    rw [hcompiled] at hc
    cases hc
    exact ⟨s, hs, (hholds s).mp hmap⟩
  · rintro ⟨s, hs, hh⟩
    exact ⟨_, _, s, hcompiled, hs, (hholds s).mpr hh⟩

/-- A step reads a text if the phrase accepts it, and then converts the texts of a split. -/
theorem read_of_portable (text : Text) :
    (¬ q.Accepts text → step.read text = .ok none) ∧
      (q.Accepts text → ∃ texts, q.Splits text texts ∧
        step.read text = (q.convertAll texts).map some) := by
  obtain ⟨given, hp, hnew⟩ := hp
  obtain ⟨hno, hyes⟩ := Template.read_of_splits h.fields h.compiled
    (fun name hn => Definitions.adds_typeOf (hp name hn) (defined_of_servedBy h hn)) hnew
    (fun _ _ => rfl) Value.ofCapture text
  refine ⟨fun hrefused => ?_, hyes⟩
  rw [StandaloneStep.read, hno hrefused]
  rfl

end Served

/-- For portable definitions, the texts that the placeholders of a step can take are those which their
own patterns take by themselves, read as step texts are: just such texts, between what stands
between the placeholders, make up a text that is found, and the conversions get one split of it. -/
theorem steps_take_splits (requests : List (Request H)) (hn : ∀ q ∈ requests, q.Named) :
    List.Forall₂ (fun q step => q.ServedBy step ∧ (q.Portable → ∀ text,
        (∀ texts, step.MayTake text texts ↔ q.Splits text texts) ∧
        (¬ q.Accepts text → step.read text = .ok none) ∧
        (q.Accepts text → ∃ texts, q.Splits text texts ∧
          step.read text = (q.convertAll texts).map some)))
      (succeeded requests (newDesk : Desk (Standalone H)))
      (after requests (newDesk : Desk (Standalone H))).host.steps := by
  refine (servedBy_steps hn).imp fun q step h => ⟨h, fun hp text => ?_⟩
  obtain ⟨hno, hyes⟩ := read_of_portable h hp text
  exact ⟨mayTake_iff h hp text, hno, hyes⟩

/-- A phrase that uses a pattern with a remark, a switch and a group twice, and one with a named group
and what refers to it once. -/
def twofold : Request Unit :=
  ⟨⟨{}, fun _ => ['t']⟩, "{x}-{x}{y}".toList, (),
    [(['x'], .raw ⟨"(?i:a)(?#or)|(b)".toList, none, ⟨[], .ok⟩, some 1⟩),
      (['y'], .raw ⟨"(?P<n>c)(?P=n)(?(n)d|e)".toList, none, ⟨[], .ok⟩, some 1⟩)]⟩

def eitherLetter : Pattern :=
  .alt (.seq (.seq (.one ⟨[.single 'a'.toNat], false, true, false⟩) .empty) .empty)
    (.seq (.group 1 (.seq (.one (.only 'b')) .empty)) .empty)

def namedLetter : Pattern :=
  .seq (.group 1 (.seq (.one (.only 'c')) .empty)) (.seq (.again 1 false)
    (.seq (.given 1 (.seq (.one (.only 'd')) .empty) (.seq (.one (.only 'e')) .empty)) .empty))

theorem portable_eitherLetter :
    Pattern.Portable "(?i:a)(?#or)|(b)".toList eitherLetter 1 [] := by
  refine ⟨?_, by simp [eitherLetter, Pattern.Local]⟩
  exact .step rfl rfl (by decide) <| .step rfl rfl (by decide) <| .step rfl rfl (by decide) <|
    .step rfl rfl (by decide) <| .step rfl rfl (by decide) <| .step rfl rfl (by decide) <|
    .step rfl rfl (by decide) <| .step rfl rfl (by decide) <| .done rfl

theorem portable_namedLetter :
    Pattern.Portable "(?P<n>c)(?P=n)(?(n)d|e)".toList namedLetter 1 [['n']] := by
  refine ⟨?_, by simp [namedLetter, Pattern.Local]⟩
  exact .named rfl rfl (by decide) <| .step rfl rfl (by decide) <| .step rfl rfl (by decide) <|
    .step rfl rfl (by decide) <| .step rfl rfl (by decide) <| .step rfl rfl (by decide) <|
    .step rfl rfl (by decide) <| .step rfl rfl (by decide) <| .step rfl rfl (by decide) <| .done rfl

theorem portable_twofold : twofold.Portable := by
  refine ⟨fun name => if name = ['y'] then [['n']] else [], fun name hn => ?_, by decide⟩
  have hall : Phrase.names twofold.phrase = [['x'], ['x'], ['y']] := rfl
  have hnames : name = ['x'] ∨ name = ['y'] := by simpa [hall] using hn
  rcases hnames with rfl | rfl
  all_goals
    intro definition hd
    cases hd
  · exact ⟨eitherLetter, 1, portable_eitherLetter, rfl⟩
  · exact ⟨namedLetter, 1, portable_namedLetter, rfl⟩

theorem fits_eitherLetter (t : Text) :
    Pattern.Fits "(?i:a)(?#or)|(b)".toList t ↔ eitherLetter.takes t = true :=
  Pattern.fits_iff_of_read portable_eitherLetter.read_eq t

/-- The first placeholder takes its first letter in either case, and the second one as it is
written. -/
theorem steps_take_twofold :
    twofold.Named ∧ twofold.Portable ∧
      ∃ step, (after [twofold] (newDesk : Desk (Standalone Unit))).host.steps = [step] ∧
        step.MayTake "A-bccd".toList ["A".toList, "b".toList, "ccd".toList] ∧
        (∃ texts, twofold.Splits "A-bccd".toList texts ∧
          step.read "A-bccd".toList = (twofold.convertAll texts).map some) ∧
        ¬ step.MayTake "A-Bccd".toList ["A".toList, "B".toList, "ccd".toList] := by
  have hn : twofold.Named := by
    intro n
    change Phrase.IsName ['t']
    decide
  have hall := steps_take_splits [twofold] (by simpa using hn)
  have hone : succeeded [twofold] (newDesk : Desk (Standalone Unit)) = [twofold] := rfl
  rw [hone] at hall
  generalize (after [twofold] (newDesk : Desk (Standalone Unit))).host.steps = steps at hall ⊢
  cases hall with
  | @cons _ step _ _ hstep hrest =>
    cases hrest
    have hsplit : twofold.Splits "A-bccd".toList ["A".toList, "b".toList, "ccd".toList] := by
      refine ⟨rfl, .cons ?_ (.cons ?_ (.cons ?_ .nil))⟩
      · exact (fits_eitherLetter _).mpr (by decide +kernel)
      · exact (fits_eitherLetter _).mpr (by decide +kernel)
      · exact (Pattern.fits_iff_of_read portable_namedLetter.read_eq _).mpr (by decide +kernel)
    obtain ⟨htakes, -, hread⟩ := hstep.2 portable_twofold "A-bccd".toList
    obtain ⟨htakes', -⟩ := hstep.2 portable_twofold "A-Bccd".toList
    refine ⟨hn, portable_twofold, step, rfl, (htakes _).mpr hsplit, hread ⟨_, hsplit⟩, fun htake => ?_⟩
    cases ((htakes' _).mp htake).2 with
    | cons _ hlast =>
      cases hlast with
      | cons hletter _ =>
        have hno : eitherLetter.takes "B".toList = false := by decide +kernel
        rw [(fits_eitherLetter _).mp hletter] at hno
        cases hno

end Request

namespace RawDefinition

/-- What the pattern is read as on its own, with the flags that it was compiled with. -/
def own? (d : RawDefinition) : Except PatternFault (Pattern × Nat) :=
  Pattern.read (.standalone (d.compiled?.getD false)) d.pattern

/-- On its own it is a pattern, with as many groups as its definition says. -/
def Counted (d : RawDefinition) : Prop :=
  d.own?.map (fun own => (own.2 : Int)) = .ok (d.groups.getD 0)

/-- On its own it takes all of a text. -/
def OwnFits (d : RawDefinition) (t : Text) : Prop := d.own?.map (fun own => own.1.takes t) = .ok true

instance (d : RawDefinition) : Decidable d.Counted := inferInstanceAs (Decidable (_ = _))

instance (d : RawDefinition) (t : Text) : Decidable (d.OwnFits t) :=
  inferInstanceAs (Decidable (_ = _))

/-- A host at which a phrase has been registered that uses the definition for its placeholder. -/
def registered (d : RawDefinition) (phrase : Text) :
    Outcome (Desk (Standalone Unit)) Registration :=
  (⟨⟨{}, fun _ => ['t']⟩, phrase, (), [(['x'], .raw d)]⟩ : Request Unit).make Request.newDesk

def taken (d : RawDefinition) (phrase text : Text) : List (Option (List Text)) :=
  (d.registered phrase).2.host.steps.map fun step => (step.taken? text).map (·.map (·.2))

/-- The step does not take the phrase with some texts for its placeholders, although the pattern
takes each of them on its own. -/
def Misses (d : RawDefinition) (phrase : Text) (texts : List Text) : Prop :=
  d.Counted ∧ (∀ t ∈ texts, d.OwnFits t) ∧
    d.taken phrase (fill (Phrase.pieces phrase) texts) = [none]

/-- The placeholders take some texts that the pattern does not take on its own. -/
def Oversteps (d : RawDefinition) (phrase : Text) (texts : List Text) : Prop :=
  d.Counted ∧ (¬ ∀ t ∈ texts, d.OwnFits t) ∧
    d.taken phrase (fill (Phrase.pieces phrase) texts) = [some texts]

instance (d : RawDefinition) (phrase : Text) (texts : List Text) : Decidable (d.Misses phrase texts) :=
  inferInstanceAs (Decidable (_ ∧ _ ∧ _))

instance (d : RawDefinition) (phrase : Text) (texts : List Text) :
    Decidable (d.Oversteps phrase texts) := inferInstanceAs (Decidable (_ ∧ _ ∧ _))

def keeping (pattern : String) (compiled? : Option Bool) (groups : Option Int) : RawDefinition :=
  ⟨pattern.toList, compiled?, ⟨[], .ok⟩, groups⟩

/-- A phrase leaves the flags behind that a pattern was compiled with, lets the dot take line ends and
numbers groups anew. It refuses flags for the whole of a pattern, and names for groups that come
twice. What looks around sees the phrase, and what a repetition keeps is lost to the phrase. -/
theorem own_patterns_stray :
    (keeping "a" (some true) none).Misses "{x}".toList ["A".toList] ∧
      (keeping "." none none).Oversteps "{x}".toList ["\n".toList] ∧
      (keeping "(a)\\1" none (some 1)).Misses "{x}".toList ["aa".toList] ∧
      (keeping "(?i)a" none none).Misses "{x}".toList ["A".toList] ∧
      (keeping "(?P<n>a)" none (some 1)).Misses "{x}{x}".toList ["a".toList, "a".toList] ∧
      (keeping "^a" none none).Misses "b{x}".toList ["a".toList] ∧
      (keeping "a(?= b)" none none).Oversteps "{x} b".toList ["a".toList] ∧
      (keeping "a*+" none none).Misses "{x}a".toList ["a".toList] := by
  refine ⟨?_, ?_, ?_, ?_, ?_, ?_, ?_, ?_⟩
  all_goals decide +kernel

end RawDefinition

end Phrasebook
