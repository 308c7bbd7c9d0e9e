import Phrasebook.Proofs.Host.Shared
import Phrasebook.Proofs.Matching
import Phrasebook.Proofs.Numeral
import Phrasebook.Proofs.Template.Groups

/-!
# One step on both kinds of hosts

A standalone host and a shared registry keep a step with the same pattern, and with types that
differ in the wrapping of their conversions only. If every type numbers as many groups as it says,
each field reads the group of its own placeholder on both, whatever the patterns are, and the two
steps do the same with every text.
-/

namespace Phrasebook

open Phrase (Piece namesIn)

/-- The pattern of the type numbers as many groups as the type says. -/
def ParameterType.Regular (t : ParameterType) : Prop := ∃ n, t.fieldType.Adds [] n fun _ _ => True

/-- A pattern of one's own is regular, and says how many groups it has. -/
def Definition.Regular : Definition → Prop
  | raw d => ∃ n : Nat, Pattern.Regular d.pattern n ∧ d.groups.getD 0 = n
  | string | sum _ | list _ _ | unknown _ => True

theorem Definition.Generated.regular {definition : Definition} (h : definition.Generated) :
    definition.Regular := by
  cases definition with
  | string | sum | list => trivial
  | raw | unknown => exact h.elim

theorem Definition.regular_of_generated {definition : Definition} (h : definition.Generated)
    {name : Text} {type : ParameterType} {decoder : Decoder}
    (hc : definition.compile name = .ok (type, decoder)) : type.Regular := by
  refine ⟨0, ?_⟩
  rw [fieldType_of_compile hc]
  exact (readsAs_fieldType h).adds.imp fun _ _ _ => trivial

theorem Definition.regular_of_compile {definition : Definition} (h : definition.Regular) {name : Text}
    {type : ParameterType} {decoder : Decoder} (hc : definition.compile name = .ok (type, decoder)) :
    type.Regular := by
  cases definition with
  | string | sum | list => exact regular_of_generated (by trivial) hc
  | raw d =>
    obtain ⟨n, hr, hg⟩ := h
    cases hc
    exact ⟨n, hr.gains, fun he => absurd (Option.some.inj he) (by decide), hg⟩
  | unknown value => cases hc

def ReadsBuiltIn (name : Text) (_ : Nat) (p : Pattern) : Prop :=
  ∀ b, BuiltIn.ofName? name = some b → p = Pattern.row (Pattern.builtInItems b)

/-- On both hosts a placeholder has the type of a built-in placeholder, or of the same parameter
type. -/
inductive Relays (name : Text) (type : FieldType Value) (other : FieldType Argument) : Prop
  | builtIn {b : BuiltIn} (hb : BuiltIn.ofName? name = some b) (ht : type = b.fieldType)
      (ho : other = b.fieldType.handedOn Argument.raising)
  | defined {t : ParameterType} (hn : BuiltIn.ofName? name = none) (hr : t.Regular)
      (ht : type = t.fieldType) (ho : other = t.fieldType.handedOn Argument.deferring)

namespace Relays

variable {name : Text} {type : FieldType Value} {other : FieldType Argument}

theorem pattern_eq (h : Relays name type other) : other.pattern = type.pattern := by
  cases h with
  | builtIn _ ht ho => rw [ht, ho]; rfl
  | defined _ _ ht ho => rw [ht, ho]; rfl

theorem groups_eq (h : Relays name type other) : other.groups = type.groups := by
  cases h with
  | builtIn _ ht ho => rw [ht, ho]; rfl
  | defined _ _ ht ho => rw [ht, ho]; rfl

theorem adds (h : Relays name type other) :
    type.Adds [] (type.groups.getD 0).toNat (ReadsBuiltIn name) := by
  cases h with
  | @builtIn b hb ht _ =>
    have hreads : type.ReadsAs (Pattern.builtInItems b) := by
      rw [ht]
      exact ⟨Pattern.reads_builtIn b, Pattern.head?_builtIn b, Pattern.plain_builtInItems b, rfl⟩
    have hzero : (type.groups.getD 0).toNat = 0 := by rw [hreads.groups]; rfl
    rw [hzero]
    refine hreads.adds.imp fun k p hp b' hb' => ?_
    rw [hb] at hb'
    cases hb'
    exact hp
  | defined hn hr ht _ =>
    obtain ⟨n, hadds⟩ := hr
    rw [← ht] at hadds
    rw [hadds.groups, Int.toNat_natCast]
    refine hadds.imp fun k p _ b hb => ?_
    rw [hn] at hb
    cases hb

/-- The other type puts the failures of a text off that a group has taken. -/
theorem defers (h : Relays name type other) {c : Capture}
    (ht : Pattern.Took (ReadsBuiltIn name) c)
    (hl : name = BuiltIn.int.name → (c.text.filter Text.isDigit).length ≤ Numeral.digitLimit) :
    Argument.Defers c.text type other := by
  cases h with
  | @builtIn b hb htype hother =>
    refine .inr ⟨by rw [hother, htype], ?_⟩
    obtain ⟨k, body, hbody, s, t, -, ht, hs⟩ := ht
    have hrow := hbody b hb
    subst hrow
    have hname : b.name = name := by
      have hfound := List.find?_some hb
      simpa using hfound
    have hspells := Pattern.spells_of_mem_outcomes (Pattern.plain_builtInItems b) ht hs
    rw [htype]
    exact BuiltIn.exists_convert hspells fun he => hl (by rw [← hname, he])
  | defined _ _ htype hother => exact .inl (by rw [hother, htype])

end Relays

/-- No text that the placeholders for integers have taken has too many digits. -/
def IntegersFit (taken : List (Text × Text)) : Prop :=
  ∀ entry ∈ taken, entry.1 = BuiltIn.int.name →
    (entry.2.filter Text.isDigit).length ≤ Numeral.digitLimit

instance (taken : List (Text × Text)) : Decidable (IntegersFit taken) := List.decidableBAll _ taken

variable {H : Type}

/-- The texts that the placeholders of a step take by their names, if its pattern takes a text. -/
def StandaloneStep.taken? (step : StandaloneStep H) (text : Text) : Option (List (Text × Text)) :=
  match step.template.compiled with
  | .error _ => none
  | .ok (pattern, _) =>
    (pattern.match? text).map fun s =>
      (Phrase.names step.expression).zip
        (step.template.fields.map fun f => ((s.capture? (f.index.toNat + 1)).map (·.text)).getD [])

/-- The values that the conversions of a step give of what its placeholders take, up to the first
conversion that fails. -/
def StandaloneStep.returned? (step : StandaloneStep H) (text : Text) : Option (List Value) :=
  (step.taken? text).map fun taken =>
    Template.returned (step.template.fields.map (·.type)) (taken.map fun entry => .text entry.2)

/-- A step of a standalone host and one of a shared registry do the same with a text, but for the
failures that conversions give as values: the shared registry raises them, before anything else. -/
inductive Echoes (step : StandaloneStep H) (other : SharedStep H) (text : Text) : Prop
  | passed (ht : step.taken? text = none) (hr : step.read text = .ok none)
      (ho : other.read text = .ok none)
  | took {taken : List (Text × Text)} (ht : step.taken? text = some taken)
      (hl : ∀ entry ∈ taken, entry.2.length ≤ text.length)
      {returned : List Value} (hg : step.returned? text = some returned)
      (hr : IntegersFit taken → ∃ readings outcome, other.read text = .ok (some readings) ∧
        StepRegistry.inOrder readings = readings ∧ step.read text = outcome.map some ∧
        (∀ values, outcome = .ok values → returned = values) ∧
        Argument.values (readings.map (·.value)) = (returned.mapM Value.settle).bind fun _ => outcome)

theorem map_text_zip {names texts : List Text} (h : names.length = texts.length) :
    (names.zip texts).map (fun entry => Value.text entry.2) = texts.map .text := by
  have hsnd : (names.zip texts).map Prod.snd = texts := List.map_snd_zip (Nat.le_of_eq h.symm)
  conv_rhs => rw [← hsnd, List.map_map]
  rfl

theorem texts_of_captures {fields : List (Field Value)} {s : Spot} {cs : List Capture}
    (h : List.Forall₂ (fun f c => s.capture? (f.index.toNat + 1) = some c) fields cs) :
    fields.map (fun f => ((s.capture? (f.index.toNat + 1)).map (·.text)).getD []) =
      cs.map (·.text) := by
  induction h with
  | nil => rfl
  | cons hc _ ih => rw [List.map_cons, List.map_cons, ih, hc]; rfl

section Steps

variable {ps : List Piece} {typeOf : Text → FieldType Value} {otherOf : Text → FieldType Argument}
  (h : ∀ name ∈ namesIn ps, Relays name (typeOf name) (otherOf name))

include h

theorem defers_of_took {cs : List Capture}
    (ht : List.Forall₂ (fun name c => Pattern.Took (ReadsBuiltIn name) c) (namesIn ps) cs)
    (hl : IntegersFit ((namesIn ps).zip (cs.map (·.text)))) :
    List.Forall₂ (fun name t => Argument.Defers t (typeOf name) (otherOf name)) (namesIn ps)
      (cs.map (·.text)) := by
  rw [List.forall₂_map_right_iff, List.forall₂_iff_zip]
  refine ⟨ht.length_eq, fun {name c} hzip => ?_⟩
  refine (h name (List.of_mem_zip hzip).1).defers ((List.forall₂_iff_zip.mp ht).2 hzip) ?_
  refine hl (name, c.text) ?_
  rw [List.zip_map_right]
  exact List.mem_map_of_mem hzip

/-- Steps with the types and the pattern of the same pieces do the same with every text. -/
theorem echoes_of_pieces {step : StandaloneStep H} {other : SharedStep H}
    (he : Phrase.names step.expression = namesIn ps)
    (hf : step.template.fields = Template.numbered 0 ((namesIn ps).map typeOf))
    (hc : step.template.compiled = Template.compile (Template.expressionFor typeOf ps))
    (hf' : other.template.fields = Template.numbered 0 ((namesIn ps).map otherOf))
    (hc' : other.template.compiled = Template.compile (Template.expressionFor otherOf ps))
    (text : Text) : Echoes step other text := by
  obtain ⟨items, m, hlaid, hcompile⟩ := Template.exists_compiled_unnamed fun name hn => (h name hn).adds
  rw [Template.expressionFor_congr fun name hn => (h name hn).pattern_eq] at hc'
  rw [hcompile] at hc hc'
  cases hm : (Pattern.enclosed items).match? text with
  | none =>
    refine .passed ?_ ?_ ?_
    · simp only [StandaloneStep.taken?, hc, hm, Option.map_none]
    · simp only [StandaloneStep.read, Template.read, hc, hm]
      rfl
    · simp only [SharedStep.read, Template.read, hc', hm]
  | some s =>
    obtain ⟨cs, hplaces, htook, hpair, hlength⟩ := Pattern.exists_captures_of_match? hlaid hm
    obtain ⟨hapart, hall⟩ :=
      Template.fields_of_places hf (fun name hn => (h name hn).adds.groups) hplaces
    obtain ⟨hapart', hall'⟩ := Template.fields_of_places hf' (fun name hn => by
      rw [(h name hn).groups_eq]
      exact (h name hn).adds.groups) hplaces
    have htexts := texts_of_captures (hall.imp fun _ _ hfc => hfc.1)
    have htaken : step.taken? text = some ((namesIn ps).zip (cs.map (·.text))) := by
      simp only [StandaloneStep.taken?, hc, hm, Option.map_some, he, htexts]
    have hreturned : step.returned? text = some (Template.returned ((namesIn ps).map typeOf)
        (cs.map fun c => Value.ofCapture (some c.text))) := by
      rw [StandaloneStep.returned?, htaken, hf, Template.types_numbered, Option.map_some,
        map_text_zip (by rw [List.length_map, htook.length_eq]), List.map_map]
      rfl
    refine .took htaken (fun entry hentry => ?_) hreturned fun hlimit => ?_
    · obtain ⟨c, hcs, hct⟩ := List.mem_map.mp (List.of_mem_zip hentry).2
      rw [← hct]
      exact hlength c hcs
    · obtain ⟨arguments, harguments, hvalues⟩ := Argument.exists_values (defers_of_took h htook hlimit)
      have hread := Template.values_of_captures hapart hc hm hall Value.ofCapture
      have hread' := Template.read_of_captures hapart' hc' hm hall' Argument.ofCapture
      rw [hf, Template.types_numbered] at hread
      rw [hf', Template.types_numbered] at hread'
      rw [List.map_map] at harguments hvalues
      have hlength' : cs.length = arguments.length := by
        rw [Template.length_of_convertEach (by simp [htook.length_eq]) harguments, List.length_map,
          htook.length_eq]
      have hplain : Template.convertEach ((namesIn ps).map otherOf)
          (cs.map fun c => Argument.ofCapture (some c.text)) = .ok arguments := harguments
      refine ⟨List.zipWith Template.readingFrom cs arguments, _, ?_,
        StepRegistry.inOrder_readings hpair arguments, hread, ?_, ?_⟩
      · rw [SharedStep.read, hread', hplain]
        rfl
      · exact fun values hok => Template.returned_of_ok hok
      · rw [Template.values_readings hlength', hvalues, ← Template.convertEach_settled, List.map_map]
        rfl

end Steps

end Phrasebook
