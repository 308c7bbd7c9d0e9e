import Phrasebook.Proofs.Host.Resolved
import Phrasebook.Proofs.Phrase.Filling

/-!
# What a step of a shared registry is called with

A text finds the first step that takes it. If the text can be split for the pattern of a step in one
way only, the step is called with what the conversions make of the parts.
-/

namespace Phrasebook

open Phrase (Piece namesIn fill)

variable {H : Type}

/-- Steps that do not take a text are passed over. -/
theorem StepRegistry.firstOf_of_none {text : Text} {steps : List (SharedStep H)}
    (h : ∀ step ∈ steps, step.read text = .ok none) (more : List (SharedStep H)) :
    firstOf text (steps ++ more) = firstOf text more := by
  induction steps with
  | nil => rfl
  | cons step steps ih =>
    rw [List.cons_append, firstOf, h step List.mem_cons_self]
    exact ih fun other ho => h other (List.mem_cons_of_mem _ ho)

namespace SharedHost

variable {h : SharedHost H} {text : Text} {before after : List (SharedStep H)} {step : SharedStep H}
  (hs : h.registry.steps = before ++ step :: after) (hno : ∀ step ∈ before, step.read text = .ok none)

include hs hno

/-- The first step that takes a text is called. -/
theorem call_of_read {readings : List (Reading Argument)} (hread : step.read text = .ok (some readings)) :
    h.call text =
      (Argument.values ((StepRegistry.inOrder readings).map (·.value))).map fun values =>
        some (step.handler, values) := by
  rw [call, StepRegistry.find, hs, StepRegistry.firstOf_of_none hno, StepRegistry.firstOf, hread]

/-- If it fails to read the text, the call fails. -/
theorem call_of_read_error {failure : Failure} (hread : step.read text = .error failure) :
    h.call text = .error (.stepUnreadable failure.message) := by
  rw [call, StepRegistry.find, hs, StepRegistry.firstOf_of_none hno, StepRegistry.firstOf, hread]

end SharedHost

section Split

variable {typeOf : Text → FieldType Argument} {count : Text → Nat} {language : Text → Text → Prop}
  {ps : List Piece} {items : List Pattern.Item} {m : Nat} {step : SharedStep H}
  (hlaid : Pattern.Laid count (fun name => Pattern.Means (language name)) 0 ps items m)
  (hc : step.template.compiled = .ok (Pattern.enclosed items, m))
  (hf : step.template.fields = Template.numbered 0 ((namesIn ps).map typeOf))
  (hg : ∀ name ∈ namesIn ps, (typeOf name).groups.getD 0 = count name)

include hlaid hc hf hg

/-- A text that can be split in one way only is read by its parts. -/
theorem SharedStep.read_of_split {text : Text} {texts : List Text}
    (hs : text = fill ps texts ∧ List.Forall₂ language (namesIn ps) texts)
    (hu : ∀ others, others.length = (namesIn ps).length → fill ps others = text → others = texts) :
    (∀ failure,
        Template.convertEach ((namesIn ps).map typeOf) (texts.map fun t => Argument.ofCapture (some t)) =
          .error failure → step.read text = .error failure) ∧
      ∀ arguments,
        Template.convertEach ((namesIn ps).map typeOf) (texts.map fun t => Argument.ofCapture (some t)) =
          .ok arguments →
        ∃ readings, step.read text = .ok (some readings) ∧
          (StepRegistry.inOrder readings).map (·.value) = arguments := by
  obtain ⟨cs, hsplit, hpair, hread⟩ :=
    (Template.read_of_laid hlaid hc hf hg Argument.ofCapture text).2 ⟨texts, hs⟩
  have htexts : cs.map (·.text) = texts := hu _ hsplit.2.length_eq.symm hsplit.1.symm
  have hconverted : (texts.map fun t => Argument.ofCapture (some t)) =
      cs.map fun c => Argument.ofCapture (some c.text) := by
    rw [← htexts, List.map_map]
    rfl
  rw [hconverted]
  constructor
  · intro failure hfailure
    rw [SharedStep.read, hread, hfailure]
    rfl
  · intro arguments ha
    have hlength : cs.length = arguments.length := by
      have hl : cs.length = (namesIn ps).length := by rw [hsplit.2.length_eq, List.length_map]
      rw [Template.length_of_convertEach (by simp [hl]) ha, List.length_map, hl]
    refine ⟨List.zipWith Template.readingFrom cs arguments, ?_, ?_⟩
    · rw [SharedStep.read, hread, ha]
      rfl
    · rw [StepRegistry.inOrder_readings hpair, Template.values_readings hlength]

end Split

namespace Request

variable {q : Request H} {r : StepRegistry H} {typeOf : Text → FieldType Value} {step : SharedStep H}
  {itemsOf : Text → List Pattern.Item} (hr : q.Resolves r typeOf)
  (he : q.Equips (handed r typeOf) step)
  (hreads : ∀ name ∈ Phrase.names q.phrase, (typeOf name).ReadsAs (itemsOf name))

include hr hreads in
theorem Resolves.readsAs_handed {name : Text} (hn : name ∈ Phrase.names q.phrase) :
    (handed r typeOf name).ReadsAs (itemsOf name) := by
  obtain ⟨deferred, hhanded⟩ := hr.handed_eq hn
  have h := hreads name hn
  rw [hhanded]
  exact ⟨h.reads, h.head, h.plain, h.groups⟩

include hr he hreads

/-- A text that cannot be split is not taken. -/
theorem Resolves.read_none {text : Text}
    (hno : ¬ ∃ texts, Pattern.SplitsAs itemsOf (Phrase.pieces q.phrase) text texts) :
    step.read text = .ok none :=
  (Template.read_of_pieces he.fields he.compiled (fun _ hn => hr.readsAs_handed hreads hn)
    (fun _ _ => rfl) Argument.ofCapture text).1 hno

/-- What is written is read as the values that it was written for, if the placeholders are kept apart
by characters that none of the parts holds. -/
theorem Resolves.read_written {written : List (Text × Value)}
    (hw : List.Forall₂ (fun name w => (Pattern.row (itemsOf name)).Spells w.1 ∧
      (typeOf name).settled.convert (.text w.1) = .ok w.2) (Phrase.names q.phrase) written)
    (hsep : Phrase.Separated (fun c => ∀ t ∈ written.map (·.1), c ∉ t) (Phrase.pieces q.phrase)) :
    ∃ readings, step.read (fill (Phrase.pieces q.phrase) (written.map (·.1))) = .ok (some readings) ∧
      Argument.values ((StepRegistry.inOrder readings).map (·.value)) = .ok (written.map (·.2)) := by
  have hl : (Phrase.names q.phrase).length = (written.map (·.1)).length := by
    rw [hw.length_eq, List.length_map]
  have hadds : ∀ name ∈ Phrase.names q.phrase, (handed r typeOf name).Adds [] 0
      (Pattern.Means (Pattern.row (itemsOf name)).Spells) := by
    intro name hn
    refine (hr.readsAs_handed hreads hn).adds.imp fun k p hp => ?_
    rw [hp]
    exact .of_plain (hreads name hn).plain k
  obtain ⟨items, m, hlaid, hcompile⟩ := Template.exists_compiled_unnamed hadds
  have hdefers : List.Forall₂ (fun name t => Argument.Defers t (typeOf name) (handed r typeOf name))
      (Phrase.names q.phrase) (written.map (·.1)) := by
    rw [List.forall₂_map_right_iff]
    refine ((List.forall₂_and_left _ _).mpr ⟨fun name hn => hn, hw⟩).imp ?_
    rintro name w ⟨hn, -, hv⟩
    obtain ⟨deferred, he⟩ := hr.handed_eq hn
    cases deferred with
    | true => exact .inl he
    | false => exact .inr ⟨he, w.2, FieldType.convert_of_settled hv⟩
  obtain ⟨arguments, hall, hvalues⟩ := Argument.exists_values hdefers
  have hsplit : List.Forall₂ (fun name t => (Pattern.row (itemsOf name)).Spells t)
      (Phrase.names q.phrase) (written.map (·.1)) :=
    List.forall₂_map_right_iff.mpr (hw.imp fun name w h => h.1)
  obtain ⟨-, hok⟩ := SharedStep.read_of_split hlaid (he.compiled.trans hcompile) he.fields
    (fun name hn => (hadds name hn).groups) ⟨rfl, hsplit⟩
    fun others ho hfill => Phrase.fill_unique hsep hl.symm ho hfill
  obtain ⟨readings, hread, hinOrder⟩ := hok arguments hall
  have hconvert := Template.convertEach_eq_ok (hw.imp fun name w h => h.2)
  exact ⟨readings, hread, by rw [hinOrder, hvalues]; exact hconvert⟩

end Request

end Phrasebook
