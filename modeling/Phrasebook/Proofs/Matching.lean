import Phrasebook.Proofs.Requests
import Phrasebook.Proofs.Template.Splits

/-!
# Matching is what the phrases say

For phrases whose definitions bring no pattern of their own, a text finds the earliest phrase that
accepts it as it is written: the text between the placeholders literally, and for each placeholder a
text that its pattern takes. The conversions get the texts of one such split.
-/

namespace Phrasebook

/-- The whole text is taken by the pattern, as it is read for step texts. -/
def Pattern.Fits (written t : Text) : Prop :=
  ∃ p groups, Pattern.read .stepText written = .ok (p, groups) ∧ p.takes t = true

theorem Pattern.fits_iff_spells {written : Text} {items : List Item} (h : Reads .stepText written items)
    (hp : (row items).Plain) (t : Text) : Fits written t ↔ (row items).Spells t := by
  rw [← takes_iff_spells hp]
  constructor
  · rintro ⟨p, groups, hr, ht⟩
    rw [h.read_eq] at hr
    cases hr
    exact ht
  · intro ht
    exact ⟨row items, 0, h.read_eq, ht⟩

namespace Definition

/-- A definition whose pattern is written by this library. -/
def Generated : Definition → Prop
  | string | sum _ | list _ _ => True
  | raw _ | unknown _ => False

def pattern (definition : Definition) : Text :=
  match definition.compile [] with
  | .ok (type, _) => type.pattern
  | .error _ => []

def items : Definition → List Pattern.Item
  | string => [Pattern.anyItem]
  | sum choices => [Pattern.valuesItem choices.values]
  | list choices nonEmpty => Pattern.listItems choices.values nonEmpty
  | raw _ | unknown _ => []

theorem reads_pattern {definition : Definition} (h : definition.Generated) :
    Pattern.Reads .stepText definition.pattern definition.items := by
  cases definition with
  | string => exact Pattern.reads_anyText
  | sum choices => exact (Pattern.Firm.alternation choices.values_ne_nil).reads
  | list choices nonEmpty => exact Pattern.reads_listOf choices.values_ne_nil nonEmpty
  | raw | unknown => exact h.elim

theorem plain_items (definition : Definition) : (Pattern.row definition.items).Plain := by
  cases definition with
  | string => exact ⟨Pattern.plain_anyItem, trivial⟩
  | sum choices => exact ⟨Pattern.plain_valuesItem choices.values, trivial⟩
  | list choices nonEmpty => exact Pattern.plain_listItems choices.values nonEmpty
  | raw | unknown => trivial

/-- In a template the pattern stands in a silent group. -/
theorem readsAs_fieldType {definition : Definition} (h : definition.Generated) :
    definition.fieldType.ReadsAs [⟨.ordinary, Pattern.row definition.items⟩] := by
  have hpattern : definition.fieldType.pattern = "(?:".toList ++ definition.pattern ++ [')'] := by
    cases definition with
    | string | sum | list => rfl
    | raw | unknown => exact h.elim
  refine ⟨?_, ?_, ⟨plain_items definition, trivial⟩, ?_⟩
  · rw [hpattern]
    exact (Pattern.Firm.silent_one (reads_pattern h)).reads
  · rw [hpattern]
    exact fun he => absurd (Option.some.inj he) (by decide)
  · cases definition with
    | string | sum | list => rfl
    | raw | unknown => exact h.elim

end Definition

namespace Definitions

def patternOf (definitions : Definitions) (name : Text) : Text :=
  match BuiltIn.ofName? name with
  | some b => b.pattern
  | none =>
    match definitions.find? name with
    | some definition => definition.pattern
    | none => []

def itemsOf (definitions : Definitions) (name : Text) : List Pattern.Item :=
  match BuiltIn.ofName? name with
  | some b => Pattern.builtInItems b
  | none =>
    match definitions.find? name with
    | some definition => [⟨.ordinary, Pattern.row definition.items⟩]
    | none => []

variable {definitions : Definitions} {name : Text}

theorem readsAs_typeOf
    (hg : ∀ definition, definitions.find? name = some definition → definition.Generated)
    (hd : isBuiltIn name = false → definitions.find? name ≠ none) :
    (definitions.typeOf name).ReadsAs (definitions.itemsOf name) := by
  rw [typeOf, itemsOf]
  cases hb : BuiltIn.ofName? name with
  | some b =>
    exact ⟨Pattern.reads_builtIn b, Pattern.head?_builtIn b, Pattern.plain_builtInItems b, rfl⟩
  | none =>
    cases hf : definitions.find? name with
    | none => exact absurd hf (hd (by rw [isBuiltIn, hb]; rfl))
    | some definition => exact Definition.readsAs_fieldType (hg definition hf)

theorem fits_iff
    (hg : ∀ definition, definitions.find? name = some definition → definition.Generated)
    (hd : isBuiltIn name = false → definitions.find? name ≠ none) (t : Text) :
    Pattern.Fits (definitions.patternOf name) t ↔ (Pattern.row (definitions.itemsOf name)).Spells t := by
  rw [patternOf, itemsOf]
  cases hb : BuiltIn.ofName? name with
  | some b => exact Pattern.fits_iff_spells (Pattern.reads_builtIn b) (Pattern.plain_builtInItems b) t
  | none =>
    cases hf : definitions.find? name with
    | none => exact absurd hf (hd (by rw [isBuiltIn, hb]; rfl))
    | some definition =>
      rw [Pattern.spells_row_singleton]
      exact Pattern.fits_iff_spells (Definition.reads_pattern (hg definition hf))
        (Definition.plain_items definition) t

end Definitions

namespace Request

variable {H : Type}

/-- The text is the phrase with some texts for its placeholders, each of which the placeholder's
pattern takes. -/
def Splits (q : Request H) (text : Text) (texts : List Text) : Prop :=
  text = Phrase.fill (Phrase.pieces q.phrase) texts ∧
    List.Forall₂ (fun name t => Pattern.Fits (q.definitions.patternOf name) t)
      (Phrase.names q.phrase) texts

/-- No placeholder of the phrase has a definition that brings a pattern of its own. -/
def Generated (q : Request H) : Prop :=
  ∀ name ∈ Phrase.names q.phrase, ∀ definition, q.definitions.find? name = some definition →
    definition.Generated

def Accepts (q : Request H) (text : Text) : Prop := ∃ texts, q.Splits text texts

/-- The values of the texts of the placeholders: each is converted as its placeholder says, from
left to right, up to the first that fails. -/
def convertAll (q : Request H) (texts : List Text) : Except Failure (List Value) :=
  Template.convertEach ((Phrase.names q.phrase).map q.definitions.typeOf) (texts.map .text)

/-- Where each text has a value, these are the values. -/
theorem convertAll_eq_ok {q : Request H} {written : List (Text × Value)}
    (h : List.Forall₂ (fun name w => (q.definitions.typeOf name).convert (.text w.1) = .ok w.2)
      (Phrase.names q.phrase) written) :
    q.convertAll (written.map (·.1)) = .ok (written.map (·.2)) := Template.convertEach_eq_ok h

theorem defined_of_servedBy {q : Request H} {step : StandaloneStep H} (h : q.ServedBy step)
    {name : Text} (hn : name ∈ Phrase.names q.phrase) (hb : isBuiltIn name = false) :
    q.definitions.find? name ≠ none :=
  h.defined name (List.mem_filter.mpr ⟨hn, by simp [hb]⟩)

theorem splits_iff {q : Request H} {step : StandaloneStep H} (h : q.ServedBy step)
    (hg : q.Generated) (text : Text) (texts : List Text) :
    q.Splits text texts ↔
      Pattern.SplitsAs q.definitions.itemsOf (Phrase.pieces q.phrase) text texts := by
  refine and_congr Iff.rfl (forall₂_congr fun name hn t => ?_)
  exact Definitions.fits_iff (hg name hn) (defined_of_servedBy h hn) t

/-- A step reads a text if its phrase accepts it, and then converts the texts of a split. -/
theorem read_of_servedBy {q : Request H} {step : StandaloneStep H} (h : q.ServedBy step)
    (hg : q.Generated) (text : Text) :
    (¬ q.Accepts text → step.read text = .ok none) ∧
      (q.Accepts text → ∃ texts, q.Splits text texts ∧
        step.read text = (q.convertAll texts).map some) := by
  have hread := Template.read_of_pieces h.fields h.compiled
    (fun name hn => Definitions.readsAs_typeOf (hg name hn) (defined_of_servedBy h hn)) (fun _ _ => rfl)
    Value.ofCapture text
  have haccepts : q.Accepts text ↔ ∃ texts,
      Pattern.SplitsAs q.definitions.itemsOf (Phrase.pieces q.phrase) text texts :=
    exists_congr fun texts => splits_iff h hg text texts
  constructor
  · intro hno
    rw [StandaloneStep.read, hread.1 fun hyes => hno (haccepts.mpr hyes)]
    rfl
  · intro hyes
    obtain ⟨texts, hsplit, hvalues⟩ := hread.2 (haccepts.mp hyes)
    exact ⟨texts, (splits_iff h hg text texts).mpr hsplit, hvalues⟩

end Request

namespace Standalone

variable {H : Type}

theorem firstOf_cons_none {text : Text} {step : StandaloneStep H} (h : step.read text = .ok none)
    (rest : List (StandaloneStep H)) : firstOf text (step :: rest) = firstOf text rest := by
  rw [firstOf, h]

theorem firstOf_cons_some {text : Text} {step : StandaloneStep H}
    {values : Except Failure (List Value)} (h : step.read text = values.map some)
    (rest : List (StandaloneStep H)) :
    firstOf text (step :: rest) = values.map fun found => some (step, found) := by
  rw [firstOf, h]
  cases values with
  | error failure => rfl
  | ok found => rfl

/-- A search passes over the steps whose phrases do not accept the text. -/
theorem firstOf_eq_none {text : Text} {requests : List (Request H)} {steps : List (StandaloneStep H)}
    (h : List.Forall₂ Request.ServedBy requests steps)
    (hg : ∀ q ∈ requests, q.Generated) (hno : ∀ q ∈ requests, ¬ q.Accepts text) :
    firstOf text steps = .ok none := by
  induction h with
  | nil => rfl
  | @cons q step requests steps hq _ ih =>
    have hnone := (Request.read_of_servedBy hq (hg q (by simp)) text).1 (hno q (by simp))
    rw [firstOf_cons_none hnone]
    exact ih (fun p hp => hg p (List.mem_cons_of_mem _ hp))
      fun p hp => hno p (List.mem_cons_of_mem _ hp)

/-- A search ends at the first step whose phrase accepts the text. -/
theorem firstOf_earliest {text : Text} {earlier later : List (Request H)} {q : Request H}
    {steps : List (StandaloneStep H)}
    (h : List.Forall₂ Request.ServedBy (earlier ++ q :: later) steps)
    (hg : ∀ p ∈ earlier ++ q :: later, p.Generated)
    (hno : ∀ p ∈ earlier, ¬ p.Accepts text) (hyes : q.Accepts text) :
    ∃ step texts, steps[earlier.length]? = some step ∧ step.handler = q.handler ∧
      q.Splits text texts ∧
      firstOf text steps = (q.convertAll texts).map fun values => some (step, values) := by
  induction earlier generalizing steps with
  | nil =>
    cases h with
    | @cons _ step _ steps hq _ =>
      obtain ⟨texts, hsplit, hread⟩ := (Request.read_of_servedBy hq (hg q (by simp)) text).2 hyes
      exact ⟨step, texts, rfl, hq.handler, hsplit, firstOf_cons_some hread steps⟩
  | cons p earlier ih =>
    cases h with
    | @cons _ first _ steps hp hrest =>
      have hnone := (Request.read_of_servedBy hp (hg p (by simp)) text).1 (hno p (by simp))
      obtain ⟨step, texts, hstep, hhandler, hsplit, hfirst⟩ :=
        ih hrest (fun r hr => hg r (List.mem_cons_of_mem _ hr))
          fun r hr => hno r (List.mem_cons_of_mem _ hr)
      refine ⟨step, texts, hstep, hhandler, hsplit, ?_⟩
      rw [firstOf_cons_none hnone, hfirst]

/-- Matching is sound and complete: no step is found for a text exactly if no registered phrase
accepts it, and otherwise the earliest that does is tried on one of its splits. -/
theorem find_eq_earliest (requests : List (Request H)) (hn : ∀ q ∈ requests, q.Named)
    (hg : ∀ q ∈ requests, q.Generated) (text : Text) :
    ((Request.after requests Request.newDesk).host.find text = .ok none ↔
        ∀ q ∈ Request.succeeded requests Request.newDesk, ¬ q.Accepts text) ∧
      ∀ earlier q later, Request.succeeded requests Request.newDesk = earlier ++ q :: later →
        (∀ p ∈ earlier, ¬ p.Accepts text) → q.Accepts text →
        ∃ step texts,
          (Request.after requests Request.newDesk).host.steps[earlier.length]? = some step ∧
            step.handler = q.handler ∧ q.Splits text texts ∧
            (Request.after requests Request.newDesk).host.find text =
              (q.convertAll texts).map fun values => some (step, values) := by
  have hserved := Request.servedBy_steps hn
  have hmade : ∀ q ∈ Request.succeeded requests Request.newDesk, q.Generated :=
    fun q hq => hg q (Request.mem_of_mem_succeeded hq)
  have hearliest : ∀ earlier q later,
      Request.succeeded requests Request.newDesk = earlier ++ q :: later →
        (∀ p ∈ earlier, ¬ p.Accepts text) → q.Accepts text →
        ∃ step texts,
          (Request.after requests Request.newDesk).host.steps[earlier.length]? = some step ∧
            step.handler = q.handler ∧ q.Splits text texts ∧
            (Request.after requests Request.newDesk).host.find text =
              (q.convertAll texts).map fun values => some (step, values) := by
    intro earlier q later he hno hyes
    rw [he] at hserved hmade
    exact firstOf_earliest hserved hmade hno hyes
  refine ⟨⟨fun hnone => ?_, fun hno => firstOf_eq_none hserved hmade hno⟩, hearliest⟩
  by_contra hsome
  push Not at hsome
  obtain ⟨earlier, q, later, he, hyes, hno⟩ := exists_earliest hsome
  obtain ⟨step, texts, -, -, -, hfind⟩ := hearliest earlier q later he hno hyes
  rw [hfind] at hnone
  cases hc : q.convertAll texts with
  | error failure =>
    rw [hc] at hnone
    cases hnone
  | ok values =>
    rw [hc] at hnone
    cases hnone

def order : Request Unit :=
  ⟨⟨{}, fun _ => ['t']⟩, ['a', ' ', '{', 'x', '}'], (),
    [(['x'], .sum ⟨['t', 'e', 'a'], [['m', 'i', 'l', 'k']]⟩)]⟩

theorem generated_order : order.Generated := by
  intro name _ definition h
  cases List.mem_singleton.mp (Table.mem_of_find? h)
  trivial

theorem order_accepts : order.Accepts ['a', ' ', 'm', 'i', 'l', 'k'] := by
  refine ⟨[['m', 'i', 'l', 'k']], rfl, .cons ?_ .nil⟩
  refine (Definitions.fits_iff (generated_order _ (by decide)) (fun _ he => by cases he) _).mpr ?_
  have hitems : order.definitions.itemsOf ['x'] =
      [⟨.ordinary, Pattern.row [Pattern.valuesItem [['t', 'e', 'a'], ['m', 'i', 'l', 'k']]]⟩] := rfl
  rw [hitems, Pattern.spells_row_singleton, Pattern.spells_row_singleton,
    Pattern.spells_valuesItem (by simp)]
  simp

/-- The text that orders milk finds the step for orders. -/
theorem find_order :
    order.Named ∧ order.Generated ∧ order.Accepts ['a', ' ', 'm', 'i', 'l', 'k'] ∧
      ∃ step texts, (Request.after [order] Request.newDesk).host.steps[0]? = some step ∧
        step.handler = () ∧ order.Splits ['a', ' ', 'm', 'i', 'l', 'k'] texts ∧
        (Request.after [order] Request.newDesk).host.find ['a', ' ', 'm', 'i', 'l', 'k'] =
          (order.convertAll texts).map fun values => some (step, values) := by
  have hn : order.Named := by
    intro n
    change Phrase.IsName ['t']
    decide
  refine ⟨hn, generated_order, order_accepts, ?_⟩
  exact (find_eq_earliest [order] (by simpa using hn) (by simpa using generated_order) _).2
    [] order [] rfl (by simp) order_accepts

end Standalone

end Phrasebook
