import Phrasebook.Proofs.Host.Echo

/-!
# Hosts that have been told the same

A standalone host and a host of a shared registry are told the same types and steps. The standalone
host keeps every step; the shared registry drops one whose format it has, which an earlier step
always wins over. So a search among the steps of both finds the same, and neither a new type nor a
new step changes that.
-/

namespace Phrasebook

open Phrase (Piece namesIn)

variable {H : Type}

namespace Standalone

def taken? (text : Text) (steps : List (StandaloneStep H)) : Option (List (Text × Text)) :=
  steps.findSome? (·.taken? text)

def returned? (text : Text) (steps : List (StandaloneStep H)) : Option (List Value) :=
  steps.findSome? (·.returned? text)

/-- The values that the conversions of the host give of a text, up to the first that fails. -/
def returned (h : Standalone H) (text : Text) : List Value := (returned? text h.steps).getD []

def IntegersFit (h : Standalone H) (text : Text) : Prop :=
  ∀ taken ∈ taken? text h.steps, Phrasebook.IntegersFit taken

instance (h : Standalone H) (text : Text) : Decidable (h.IntegersFit text) :=
  inferInstanceAs (Decidable (∀ taken ∈ taken? text h.steps, Phrasebook.IntegersFit taken))

end Standalone

/-- What a search among the steps of a shared registry finds goes with what one among those of a
standalone host does, and with the values that the conversions give there. -/
inductive Agrees : Except Failure (Option (StandaloneStep H × List Value)) → Option (List Value) →
    StepRegistry.Found H → Prop
  | nothing : Agrees (.ok none) none .nothing
  | step {step : StandaloneStep H} {other : SharedStep H} {readings : List (Reading Argument)}
      {values : List Value} (hh : other.handler = step.handler)
      (hv : Argument.values (readings.map (·.value)) = values.mapM Value.settle) :
      Agrees (.ok (some (step, values))) (some values) (.step other readings)
  | failure {other : SharedStep H} {readings : List (Reading Argument)} {failure : Failure}
      {returned : List Value}
      (hv : Argument.values (readings.map (·.value)) =
        (returned.mapM Value.settle).bind fun _ => .error failure) :
      Agrees (.error failure) (some returned) (.step other readings)

/-- The searches of both go with each other, for every text within the limit. -/
def StepsAgree (steps : List (StandaloneStep H)) (others : List (SharedStep H)) : Prop :=
  ∀ text, (∀ taken ∈ Standalone.taken? text steps, IntegersFit taken) →
    Agrees (Standalone.firstOf text steps) (Standalone.returned? text steps)
      (StepRegistry.firstOf text others)

theorem StandaloneStep.taken?_eq_none {step : StandaloneStep H} {text : Text}
    (h : step.read text = .ok none) : step.taken? text = none := by
  cases hc : step.template.compiled with
  | error failure => rw [taken?, hc]
  | ok found =>
    obtain ⟨pattern, groups⟩ := found
    cases hm : pattern.match? text with
    | none => simp only [taken?, hc, hm, Option.map_none]
    | some s =>
      simp only [read, Template.read, hc, hm] at h
      split at h
      · cases h
      · next slots _ =>
        generalize step.template.fields.mapM (Template.readingOf s text slots) = outcome at h
        cases outcome with
        | error failure => cases h
        | ok readings => cases h

theorem Standalone.taken?_eq_none {text : Text} {steps : List (StandaloneStep H)}
    (h : firstOf text steps = .ok none) : taken? text steps = none :=
  List.findSome?_eq_none_iff.mpr fun step hs =>
    StandaloneStep.taken?_eq_none (read_of_firstOf_none h step hs)

theorem Standalone.returned?_append (text : Text) (steps more : List (StandaloneStep H)) :
    returned? text (steps ++ more) = (returned? text steps).or (returned? text more) :=
  List.findSome?_append

namespace StepsAgree

variable {steps : List (StandaloneStep H)} {others : List (SharedStep H)}

theorem agrees_one {step : StandaloneStep H} {other : SharedStep H}
    (hh : other.handler = step.handler) {text : Text} (h : Echoes step other text)
    (hl : ∀ taken ∈ step.taken? text, IntegersFit taken) :
    Agrees (Standalone.firstOf text [step]) (step.returned? text)
      (StepRegistry.firstOf text [other]) := by
  cases h with
  | passed ht hr ho =>
    simp only [Standalone.firstOf, StepRegistry.firstOf, hr, ho, StandaloneStep.returned?, ht]
    exact .nothing
  | took ht _ hg hr =>
    obtain ⟨readings, outcome, hread, horder, hstep, hall, hvalues⟩ := hr (hl _ ht)
    simp only [Standalone.firstOf, StepRegistry.firstOf, hread, horder, hstep, hg]
    cases outcome with
    | ok values =>
      obtain rfl := hall values rfl
      exact .step hh (hvalues.trans (Value.settled_bind _))
    | error failure => exact .failure hvalues

theorem empty : StepsAgree ([] : List (StandaloneStep H)) [] := fun _ _ => .nothing

theorem within_of_append {text : Text} {step : StandaloneStep H}
    (h : ∀ taken ∈ Standalone.taken? text (steps ++ [step]), IntegersFit taken) :
    ∀ taken ∈ Standalone.taken? text steps, IntegersFit taken := by
  intro taken ht
  refine h taken ?_
  rw [Standalone.taken?] at ht ⊢
  rw [List.findSome?_append, Option.mem_def.mp ht]
  rfl

/-- Both hosts may add a step that does the same on both. -/
theorem add (h : StepsAgree steps others) {step : StandaloneStep H} {other : SharedStep H}
    (hh : other.handler = step.handler) (he : ∀ text, Echoes step other text) :
    StepsAgree (steps ++ [step]) (others ++ [other]) := by
  intro text hl
  have hagrees := h text (within_of_append hl)
  rw [Standalone.firstOf_append, StepRegistry.firstOf_append, Standalone.returned?_append]
  generalize hfound : Standalone.firstOf text steps = found at hagrees ⊢
  generalize StepRegistry.firstOf text others = found' at hagrees ⊢
  generalize Standalone.returned? text steps = returned at hagrees ⊢
  cases hagrees with
  | nothing =>
    have hone : Standalone.returned? text [step] = step.returned? text := by
      rw [Standalone.returned?, List.findSome?_singleton]
    rw [Option.none_or, hone]
    refine agrees_one hh (he text) fun taken ht => hl taken ?_
    rw [Standalone.taken?, List.findSome?_append, ← Standalone.taken?,
      Standalone.taken?_eq_none hfound]
    simpa using ht
  | step hh hv => exact .step hh hv
  | failure hv => exact .failure hv

/-- The shared registry may drop a step that reads like an earlier one. -/
theorem drop (h : StepsAgree steps others) {step earlier : StandaloneStep H} (hm : earlier ∈ steps)
    (hr : ∀ text, step.read text = earlier.read text) : StepsAgree (steps ++ [step]) others := by
  intro text hl
  have hagrees := h text (within_of_append hl)
  rw [Standalone.firstOf_append, Standalone.returned?_append]
  generalize hfound : Standalone.firstOf text steps = found at hagrees ⊢
  generalize Standalone.returned? text steps = returned at hagrees ⊢
  generalize StepRegistry.firstOf text others = found' at hagrees ⊢
  cases hagrees with
  | nothing =>
    have hread : step.read text = .ok none :=
      (hr text).trans (Standalone.read_of_firstOf_none hfound earlier hm)
    have hnone : step.returned? text = none := by
      rw [StandaloneStep.returned?, StandaloneStep.taken?_eq_none hread, Option.map_none]
    simp only [Standalone.firstOf, hread, Standalone.returned?, List.findSome?_singleton, hnone]
    exact .nothing
  | step hh hv => exact .step hh hv
  | failure hv => exact .failure hv

end StepsAgree

def Standalone.Keeps (h : Standalone H) (step : StandaloneStep H) : Prop :=
  ∃ ps, (∀ name ∈ namesIn ps, h.converters.has (TypeName.ofName name) = true) ∧
    step.template = .ofFormat h.fieldType (ps.flatMap Format.written)

/-- The format of such a step says what its template is. -/
theorem Standalone.Keeps.template_eq {h : Standalone H} {step : StandaloneStep H} (hk : h.Keeps step) :
    step.template = .ofFormat h.fieldType step.template.format := by
  obtain ⟨ps, -, ht⟩ := hk
  rw [ht]
  rfl

/-- The shared registry has what its host has handed on, and that is what the standalone host has
been told. -/
structure Mirrors (h : Standalone H) (h' : SharedHost H) : Prop where
  coherent : h.Coherent
  told : ∀ entry ∈ h.types, '_' ∈ entry.1 ∧ entry.2.Regular
  known : ∀ name, h'.known.contains (TypeName.ofName name) =
    h.converters.has (TypeName.ofName name)
  types : ∀ name, h'.registry.types.find? (TypeName.ofName name) =
    ((BuiltIn.ofName? name).map (·.fieldType.handedOn Argument.raising)).or
      ((h.types.find? name).map (·.fieldType.handedOn Argument.deferring))
  keeps : ∀ step ∈ h.steps, h.Keeps step
  formats : ∀ other ∈ h'.registry.steps,
    ∃ step, step ∈ h.steps ∧ step.template.format = other.template.format
  agree : StepsAgree h.steps h'.registry.steps

namespace Mirrors

variable {h next : Standalone H} {h' : SharedHost H}

/-- What the hosts have under a known type name. -/
theorem relays (hm : Mirrors h h') {name : Text}
    (hk : h.converters.has (TypeName.ofName name) = true) :
    Relays name (h.fieldType (TypeName.ofName name))
      (h'.registry.fieldType (TypeName.ofName name)) ∧ (isBuiltIn name = true ∨ '_' ∈ name) := by
  have hfind := hm.coherent.find?_converters name
  have hfind' := hm.types name
  rw [Standalone.fieldType, StepRegistry.fieldType, hfind']
  rw [Table.has] at hk
  rw [hfind] at hk ⊢
  cases hb : BuiltIn.ofName? name with
  | some b => exact ⟨.builtIn hb rfl rfl, .inl (by rw [isBuiltIn, hb]; rfl)⟩
  | none =>
    cases ht : h.types.find? name with
    | none =>
      rw [hb, ht] at hk
      cases hk
    | some t =>
      obtain ⟨hu, hr⟩ := hm.told _ (Table.mem_of_find? ht)
      exact ⟨.defined hb hr rfl rfl, .inr hu⟩

theorem new : Mirrors (Standalone.empty : Standalone H) (SharedHost.on .empty) where
  coherent := Standalone.coherent_empty
  told := by simp [Standalone.empty]
  known name := (Table.has_eq_contains builtInTypes (TypeName.ofName name)).symm
  types name := by
    rw [SharedHost.on, StepRegistry.find?_putBuiltIns]
    exact (Option.or_none ..).symm
  keeps := by simp [Standalone.empty]
  formats _ ho := absurd ho List.not_mem_nil
  agree := .empty

/-- Both hosts may be told of a new regular type. -/
theorem defineType (hm : Mirrors h h') {t : ParameterType} (hd : h.defineType t = .ok next)
    (hu : '_' ∈ t.name) (hr : t.Regular) : Mirrors next (h'.defineType t) := by
  have hcoherent := hm.coherent.defineType hd
  obtain ⟨hb, hnone, rfl⟩ := Standalone.defineType_eq_ok hd
  have hbuiltIn := ofName?_eq_none hb
  have hfresh : h.converters.find? (TypeName.ofName t.name) = none := by
    rw [hm.coherent.find?_converters, hbuiltIn, hnone]
    rfl
  have hother : ∀ name, h.converters.has (TypeName.ofName name) = true →
      TypeName.ofName t.name ≠ TypeName.ofName name := by
    intro name hk he
    rw [Table.has, ← he, hfresh] at hk
    cases hk
  refine ⟨hcoherent, ?_, fun name => ?_, fun name => ?_, fun step hs => ?_, hm.formats, hm.agree⟩
  · intro entry he
    cases List.mem_append.mp he with
    | inl hold => exact hm.told entry hold
    | inr hnew => exact List.mem_singleton.mp hnew ▸ ⟨hu, hr⟩
  · have hold := hm.known name
    rw [Table.has, Table.find?_put]
    simp only [SharedHost.defineType]
    rw [Table.has] at hold
    by_cases he : TypeName.ofName t.name = TypeName.ofName name
    · rw [if_pos he, ← he]
      split
      · next hk => simpa using hk
      · simp
    · rw [if_neg he, ← hold]
      split
      · rfl
      · simp [Ne.symm he]
  · have hold := hm.types name
    simp only [SharedHost.defineType, StepRegistry.putType, Table.find?_put, Table.find?_append, hold]
    by_cases he : t.name = name
    · subst he
      rw [if_pos rfl, hbuiltIn, hnone]
      simp [Table.find?, FieldType.handedOn, ParameterType.fieldType]
    · have hne : TypeName.ofName t.name ≠ TypeName.ofName name :=
        fun hn => he (TypeName.ofName_injective hn)
      rw [if_neg hne]
      simp [Table.find?, he]
  · obtain ⟨ps, hk, ht⟩ := hm.keeps step hs
    have hsame : ∀ name ∈ namesIn ps,
        Table.find? (h.converters.put (TypeName.ofName t.name) t.fieldType) (TypeName.ofName name) =
          h.converters.find? (TypeName.ofName name) := by
      intro name hn
      rw [Table.find?_put, if_neg (hother name (hk name hn))]
    refine ⟨ps, fun name hn => ?_, ?_⟩
    · have hold := hk name hn
      rw [Table.has] at hold ⊢
      rw [hsame name hn, hold]
    · rw [ht]
      refine Template.ofFormat_congr fun field type hf => ?_
      obtain ⟨-, name, hn, rfl⟩ := Format.field_mem_parts_written.mp hf
      rw [Standalone.fieldType, Standalone.fieldType, hsame name hn]

theorem defineTypes {types : List ParameterType} (hm : Mirrors h h')
    (hd : Registrar.defineTypes types h = .ok next)
    (hr : ∀ t ∈ types, '_' ∈ t.name ∧ t.Regular) : Mirrors next (h'.withTypes types) := by
  induction types generalizing h h' with
  | nil =>
    cases hd
    exact hm
  | cons t types ih =>
    obtain ⟨after, ht, hd⟩ := Registrar.exists_of_defineTypes_cons hd
    obtain ⟨hu, hregular⟩ := hr t (by simp)
    exact ih (hm.defineType ht hu hregular) hd fun t ht => hr t (by simp [ht])

/-- The step of an expression on both hosts has the format of the same pieces. -/
theorem format_eq (hm : Mirrors h h') {expression format : Text}
    (hf : Format.ofExpression h.converters.has expression = .ok format) :
    (∀ name ∈ Phrase.names expression, h.converters.has (TypeName.ofName name) = true) ∧
      format = (Phrase.pieces expression).flatMap Format.written ∧
      Format.ofExpression h'.known.contains expression = .ok format := by
  have hk := Format.known_of_ofPieces hf
  rw [Format.ofExpression, Format.ofPieces_eq hk] at hf
  cases hf
  refine ⟨hk, rfl, Format.ofPieces_eq fun name hn => ?_⟩
  rw [hm.known, hk name hn]

/-- A step that the shared registry is told of can read the empty text, so it is not set aside. -/
theorem exists_read_nil {step : StandaloneStep H} {other : SharedStep H}
    (h : Echoes step other []) : ∃ found, other.read [] = .ok found := by
  cases h with
  | passed _ _ ho => exact ⟨none, ho⟩
  | took _ hl _ hr =>
    obtain ⟨readings, _, hread, -⟩ := hr fun entry he _ => by
      rw [List.eq_nil_of_length_eq_zero (Nat.le_zero.mp (hl entry he))]
      exact Nat.zero_le _
    exact ⟨some readings, hread⟩

theorem withStep (hm : Mirrors h h') {step : StandaloneStep H} {registry : StepRegistry H}
    (hk : h.Keeps step) (ht : registry.types = h'.registry.types)
    (hf : ∀ other ∈ registry.steps,
      ∃ s, s ∈ h.steps ++ [step] ∧ s.template.format = other.template.format)
    (ha : StepsAgree (h.steps ++ [step]) registry.steps) :
    Mirrors { h with steps := h.steps ++ [step] } { h' with registry } := by
  refine ⟨⟨hm.coherent.converters, hm.coherent.plain⟩, hm.told, hm.known, ?_, ?_, hf, ha⟩
  · rw [ht]
    exact hm.types
  · intro s hs
    cases List.mem_append.mp hs with
    | inl hold => exact hm.keeps s hold
    | inr hnew => exact List.mem_singleton.mp hnew ▸ hk

/-- Both hosts may add a step, or the shared registry may find that it has the format. -/
theorem addStep (hm : Mirrors h h') {step : StandaloneStep H} {other : SharedStep H}
    {registry : StepRegistry H} (hk : h.Keeps step) (hh : other.handler = step.handler)
    (hf : step.template.format = other.template.format) (he : ∀ text, Echoes step other text)
    (ha : h'.registry.addStep other = .ok registry) :
    Mirrors { h with steps := h.steps ++ [step] } { h' with registry } := by
  obtain ⟨found, hread⟩ := exists_read_nil (he [])
  have hold : ∀ s ∈ h'.registry.steps,
      ∃ s', s' ∈ h.steps ++ [step] ∧ s'.template.format = s.template.format := by
    intro s hs
    obtain ⟨s', hs', hformat⟩ := hm.formats s hs
    exact ⟨s', List.mem_append_left _ hs', hformat⟩
  rcases StepRegistry.addStep_cases hread ha with rfl | ⟨rfl, earlier, hearlier, hformat⟩
  · refine hm.withStep hk rfl (fun s hs => ?_) (hm.agree.add hh he)
    cases List.mem_append.mp hs with
    | inl hs => exact hold s hs
    | inr hs => exact ⟨step, by simp, List.mem_singleton.mp hs ▸ hf⟩
  · obtain ⟨s, hs, hsame⟩ := hm.formats earlier hearlier
    have htemplate : step.template = s.template := by
      rw [hk.template_eq, (hm.keeps s hs).template_eq, hf, hsame, hformat]
    refine hm.withStep hk rfl hold (hm.agree.drop hs fun text => ?_)
    rw [StandaloneStep.read, StandaloneStep.read, htemplate]

/-- Both hosts may be told of a step, if neither refuses it. -/
theorem defineStep (hm : Mirrors h h') {expression : Text} {handler : H} {events events' : List Event}
    {after' : SharedHost H} (hs : StepHost.defineStep expression handler h = .ok (next, events))
    (hs' : StepHost.defineStep expression handler h' = .ok (after', events')) :
    Mirrors next after' := by
  change (h.stepOf expression handler).map _ = _ at hs
  change SharedHost.defineStep expression handler h' = _ at hs'
  rw [Standalone.stepOf] at hs
  cases hf : Format.ofExpression h.converters.has expression with
  | error failure =>
    rw [hf] at hs
    cases hs
  | ok format =>
    rw [hf] at hs
    cases hs
    obtain ⟨hk, rfl, hf'⟩ := hm.format_eq hf
    simp only [SharedHost.defineStep, hf'] at hs'
    obtain ⟨registry, hadd, he⟩ := exists_of_map_eq_ok hs'
    cases he
    have hplain := fun name hn => (hm.relays (hk name hn)).2
    have htemplate := Template.ofFormat_written h.fieldType hplain
    have htemplate' := Template.ofFormat_written h'.registry.fieldType hplain
    refine hm.addStep ⟨_, hk, rfl⟩ rfl rfl (fun text => ?_) hadd
    refine echoes_of_pieces (fun name hn => (hm.relays (hk name hn)).1) rfl ?_ ?_ ?_ ?_ text
    · exact congrArg Template.fields htemplate
    · exact congrArg Template.compiled htemplate
    · exact congrArg Template.fields htemplate'
    · exact congrArg Template.compiled htemplate'

end Mirrors

end Phrasebook
