import Phrasebook.Proofs.Decoder
import Phrasebook.Proofs.Requests

/-!
# Handlers get declared values only

Whatever phrases were registered with a host, and whatever patterns of their own some definitions
bring, a handler is called with one value for each placeholder of its phrase, and the values of sum
and list placeholders are declared ones. The reason is not that such a placeholder is handed a text
that its pattern has taken, which need not be so, but that its value is an output of its decoder.
-/

namespace Phrasebook

/-- The value is one that the definition declares, if it declares any. -/
def Definition.Declares : Definition → Value → Prop
  | sum choices, value => ∃ t, t ∈ choices.values ∧ value = .text t
  | list choices nonEmpty, value =>
    ∃ ts : List Text, value = .list (ts.map .text) ∧ (∀ t ∈ ts, t ∈ choices.values) ∧
      (nonEmpty = true → ts ≠ [])
  | string, _ | raw _, _ | unknown _, _ => True

/-- The number of groups is not negative, if the definition says it. -/
def Definition.Countable : Definition → Prop
  | raw definition => ∀ n ∈ definition.groups, 0 ≤ n
  | string | sum _ | list _ _ | unknown _ => True

theorem Definition.declares_of_convert {definition : Definition} {old new : Value}
    (h : definition.fieldType.convert old = .ok new) : definition.Declares new := by
  cases definition with
  | sum choices => exact Decoder.declared_of_choice h
  | list choices nonEmpty => exact Decoder.declared_of_list h
  | string | raw | unknown => trivial

theorem Definition.countable_fieldType {definition : Definition} (h : definition.Countable) :
    Template.Countable definition.fieldType := by
  cases definition with
  | raw definition => exact h
  | string | sum | list | unknown => exact fun n hn => by cases hn

namespace Definitions

def Declare (definitions : Definitions) (name : Text) (value : Value) : Prop :=
  isBuiltIn name = false → ∀ definition, definitions.find? name = some definition →
    definition.Declares value

variable {definitions : Definitions} {name : Text}

theorem countable_typeOf
    (h : ∀ definition, definitions.find? name = some definition → definition.Countable) :
    Template.Countable (definitions.typeOf name) := by
  rw [typeOf]
  cases BuiltIn.ofName? name with
  | some b => exact fun n hn => by cases hn
  | none =>
    cases hf : definitions.find? name with
    | none => exact fun n hn => by cases hn
    | some definition => exact Definition.countable_fieldType (h definition hf)

theorem declare_of_convert {old new : Value} (h : (definitions.typeOf name).convert old = .ok new) :
    definitions.Declare name new := by
  intro hb definition hd
  rw [typeOf, ofName?_eq_none hb, hd] at h
  exact Definition.declares_of_convert h

end Definitions

/-- No placeholder of the phrase has a definition that says that the number of its groups is
negative. -/
def Request.Countable {H : Type} (q : Request H) : Prop :=
  ∀ name ∈ Phrase.names q.phrase, ∀ definition, q.definitions.find? name = some definition →
    definition.Countable

namespace Standalone

variable {H : Type}

theorem read_of_firstOf {text : Text} {steps : List (StandaloneStep H)} {step : StandaloneStep H}
    {values : List Value} (h : firstOf text steps = .ok (some (step, values))) :
    step ∈ steps ∧ step.read text = .ok (some values) := by
  induction steps with
  | nil => cases h
  | cons first rest ih =>
    rw [firstOf] at h
    split at h
    · cases h
    · next found hread =>
      cases h
      exact ⟨List.mem_cons_self, hread⟩
    · obtain ⟨hm, hread⟩ := ih h
      exact ⟨List.mem_cons_of_mem _ hm, hread⟩

theorem find_of_call {h : Standalone H} {text : Text} {handler : H} {values : List Value}
    (hcall : h.call text = .ok (handler, values)) :
    ∃ step, h.find text = .ok (some (step, values)) ∧ step.handler = handler := by
  rw [call] at hcall
  cases hf : h.find text with
  | error failure =>
    rw [hf] at hcall
    cases hcall
  | ok found =>
    rw [hf] at hcall
    cases found with
    | none => cases hcall
    | some found =>
      cases hcall
      exact ⟨found.1, rfl, rfl⟩

/-- The values that a step reads are outputs of the conversions of its placeholders. -/
theorem outputs_of_read {q : Request H} {step : StandaloneStep H} (h : q.ServedBy step)
    (hc : q.Countable) {text : Text} {values : List Value}
    (hr : step.read text = .ok (some values)) :
    List.Forall₂ (fun name value => ∃ old, (q.definitions.typeOf name).convert old = .ok value)
      (Phrase.names q.phrase) values := by
  have hcountable : ∀ type ∈ (Phrase.names q.phrase).map q.definitions.typeOf,
      Template.Countable type := by
    intro type ht
    obtain ⟨name, hn, rfl⟩ := List.mem_map.mp ht
    exact Definitions.countable_typeOf (hc name hn)
  have hapart : Template.Apart step.template.fields := by
    rw [h.fields]
    exact Template.apart_numbered (Int.le_refl 0) hcountable
  rw [StandaloneStep.read] at hr
  cases ht : step.template.read Value.ofCapture text with
  | error failure =>
    rw [ht] at hr
    cases hr
  | ok found =>
    rw [ht] at hr
    cases found with
    | none => cases hr
    | some readings =>
      have hv : readings.map (·.value) = values := Option.some.inj (Except.ok.inj hr)
      have hall := Template.read_outputs hapart ht
      have htypes : List.Forall₂ (fun type value => ∃ old, type.convert old = .ok value)
          (step.template.fields.map (·.type)) (readings.map (·.value)) := by
        rw [List.forall₂_map_left_iff, List.forall₂_map_right_iff]
        exact hall
      rw [hv, h.fields, Template.types_numbered, List.forall₂_map_left_iff] at htypes
      exact htypes

/-- A handler is called with one value for each placeholder of its phrase, and the values of sum and
list placeholders are declared ones. -/
theorem call_declared (requests : List (Request H)) (hn : ∀ q ∈ requests, q.Named)
    (hc : ∀ q ∈ requests, q.Countable) {text : Text} {handler : H} {values : List Value}
    (hcall : (Request.after requests Request.newDesk).host.call text = .ok (handler, values)) :
    ∃ q, q ∈ Request.succeeded requests (Request.newDesk : Desk (Standalone H)) ∧
      q.handler = handler ∧
      List.Forall₂ q.definitions.Declare (Phrase.names q.phrase) values := by
  obtain ⟨step, hfind, hhandler⟩ := find_of_call hcall
  obtain ⟨hstep, hread⟩ := read_of_firstOf hfind
  obtain ⟨q, hq, hserved⟩ := exists_left (Request.servedBy_steps hn) hstep
  have houtputs := outputs_of_read hserved (hc q (Request.mem_of_mem_succeeded hq)) hread
  refine ⟨q, hq, hserved.handler.symm.trans hhandler, houtputs.imp ?_⟩
  rintro name value ⟨old, ho⟩
  exact Definitions.declare_of_convert ho

/-- A phrase whose first placeholder has groups of its own that it does not mention, so that the
second reads one of these. -/
def shifted : Request Unit :=
  ⟨⟨{}, fun _ => ['t']⟩, ['{', 'r', '}', ' ', '{', 's', '}'], (),
    [(['r'], .raw ⟨['(', 'x', ')', '(', 'y', ')', '?'], none, ⟨[], .ok⟩, none⟩),
      (['s'], .sum ⟨['x'], [['z']]⟩)]⟩

theorem countable_shifted : shifted.Countable := by
  intro name _ definition h
  rcases List.mem_pair.mp (Table.mem_of_find? h) with he | he
  · cases he
    exact fun n hn => by cases hn
  · cases he
    trivial

theorem call_shifted_isOk :
    ((Request.after [shifted] Request.newDesk).host.call ['x', 'y', ' ', 'z']).isOk = true := by
  decide +kernel

/-- The handler gets a declared value, although it is not the one that stands in the text. -/
theorem call_declared_shifted :
    shifted.Named ∧ shifted.Countable ∧ ∃ handler values,
      (Request.after [shifted] Request.newDesk).host.call ['x', 'y', ' ', 'z'] =
        .ok (handler, values) ∧
      ∃ q, q ∈ Request.succeeded [shifted] (Request.newDesk : Desk (Standalone Unit)) ∧
        q.handler = handler ∧
        List.Forall₂ q.definitions.Declare (Phrase.names q.phrase) values := by
  have hn : shifted.Named := by
    intro n
    change Phrase.IsName ['t']
    decide
  refine ⟨hn, countable_shifted, ?_⟩
  cases hcall : (Request.after [shifted] Request.newDesk).host.call ['x', 'y', ' ', 'z'] with
  | error failure =>
    have hok := call_shifted_isOk
    rw [hcall] at hok
    cases hok
  | ok found =>
    refine ⟨found.1, found.2, rfl, ?_⟩
    exact call_declared [shifted] (by simpa using hn) (by simpa using countable_shifted) hcall

end Standalone

end Phrasebook
