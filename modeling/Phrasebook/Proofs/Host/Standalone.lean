import Phrasebook.Host.Standalone
import Phrasebook.Proofs.Registration
import Phrasebook.Proofs.Table
import Phrasebook.Proofs.Template.Pieces

/-!
# What a standalone host keeps

A standalone host keeps a field type for each parameter type, under a type name of its own. So the
step of a registered phrase has, for each placeholder, the field type of that placeholder's own
definition, whatever has been registered before and however other placeholders are named.
-/

namespace Phrasebook

/-- The field type that a definition has under any name. -/
def Definition.fieldType (definition : Definition) : FieldType Value :=
  match definition.compile [] with
  | .ok (type, _) => type.fieldType
  | .error _ => .anything

theorem Definition.fieldType_of_compile {definition : Definition} {name : Text}
    {type : ParameterType} {decoder : Decoder} (h : definition.compile name = .ok (type, decoder)) :
    type.fieldType = definition.fieldType := by
  cases definition with
  | unknown value => cases h
  | string | raw | sum | list =>
    cases h
    rfl

def Definitions.typeOf (definitions : Definitions) (name : Text) : FieldType Value :=
  match BuiltIn.ofName? name with
  | some b => b.fieldType
  | none =>
    match definitions.find? name with
    | some definition => definition.fieldType
    | none => .anything

theorem ofName?_eq_none {name : Text} (h : isBuiltIn name = false) : BuiltIn.ofName? name = none := by
  cases hb : BuiltIn.ofName? name with
  | none => rfl
  | some b => simp [isBuiltIn, hb] at h

namespace Standalone

variable {H : Type}

/-- The field types are the built-in ones and those of the parameter types, and no parameter type
has a built-in name. -/
structure Coherent (h : Standalone H) : Prop where
  converters : h.converters =
    builtInTypes ++ h.types.map fun entry => (TypeName.ofName entry.1, entry.2.fieldType)
  plain : ∀ name ∈ h.types.names, isBuiltIn name = false

theorem coherent_empty : Coherent (empty : Standalone H) := ⟨rfl, by simp [empty, Table.names]⟩

theorem find?_builtInTypes (name : Text) :
    builtInTypes.find? (TypeName.ofName name) = (BuiltIn.ofName? name).map (·.fieldType) := by
  have hmap : builtInTypes = (BuiltIn.all.map fun b => (b.name, b)).map
      fun entry => (TypeName.ofName entry.1, entry.2.fieldType) := by
    simp only [builtInTypes, List.map_map, Function.comp_def, TypeName.ofName_builtIn]
  have hfind : Table.find? (BuiltIn.all.map fun b => (b.name, b)) name = BuiltIn.ofName? name := by
    rw [BuiltIn.ofName?]
    induction BuiltIn.all with
    | nil => rfl
    | cons b rest ih =>
      rw [List.map_cons, Table.find?, List.find?_cons, ih]
      by_cases h : b.name = name
      · simp [h]
      · simp [h]
  rw [hmap, Table.find?_map (fun _ _ => TypeName.ofName_injective) BuiltIn.fieldType, hfind]

/-- What a coherent host has under the type name of a placeholder. -/
theorem Coherent.find?_converters {h : Standalone H} (hc : Coherent h) (name : Text) :
    h.converters.find? (TypeName.ofName name) =
      ((BuiltIn.ofName? name).map (·.fieldType)).or ((h.types.find? name).map (·.fieldType)) := by
  rw [hc.converters, Table.find?_append, find?_builtInTypes,
    Table.find?_map (fun _ _ => TypeName.ofName_injective) ParameterType.fieldType]

theorem defineType_eq_ok {t : ParameterType} {h after : Standalone H}
    (hd : h.defineType t = .ok after) :
    isBuiltIn t.name = false ∧ h.types.find? t.name = none ∧
      after = { h with
        types := h.types ++ [(t.name, t)]
        converters := h.converters.put (TypeName.ofName t.name) t.fieldType } := by
  rw [defineType] at hd
  split at hd
  · cases hd
  · next hn =>
    cases hd
    rw [Bool.or_eq_true, not_or, Bool.not_eq_true, Bool.not_eq_true, Table.has,
      Option.isSome_eq_false_iff, Option.isNone_iff_eq_none] at hn
    exact ⟨hn.1, hn.2, rfl⟩

def withTypes (types : List ParameterType) (h : Standalone H) : Standalone H :=
  { h with
    types := h.types ++ types.map fun t => (t.name, t)
    converters :=
      types.foldl (fun table t => table.put (TypeName.ofName t.name) t.fieldType) h.converters }

theorem eq_withTypes {types : List ParameterType} {h after : Standalone H}
    (hd : Registrar.defineTypes types h = .ok after) : after = h.withTypes types := by
  induction types generalizing h with
  | nil =>
    cases hd
    simp [withTypes]
  | cons t types ih =>
    obtain ⟨next, ht, hd⟩ := Registrar.exists_of_defineTypes_cons hd
    have hnext : next = h.withTypes [t] := (defineType_eq_ok ht).2.2
    rw [ih hd, hnext]
    simp [withTypes]

theorem steps_of_defineTypes {types : List ParameterType} {h after : Standalone H}
    (hd : Registrar.defineTypes types h = .ok after) : after.steps = h.steps := by
  rw [eq_withTypes hd]
  rfl

theorem Coherent.defineType {t : ParameterType} {h after : Standalone H} (hc : Coherent h)
    (hd : h.defineType t = .ok after) : Coherent after := by
  obtain ⟨hb, hn, rfl⟩ := defineType_eq_ok hd
  have hnone : h.converters.find? (TypeName.ofName t.name) = none := by
    rw [hc.find?_converters, ofName?_eq_none hb, hn]
    rfl
  constructor
  · simp only
    rw [Table.put_of_not_mem (Table.find?_eq_none_iff.mp hnone), hc.converters]
    simp
  · intro name hname
    simp only [Table.names, List.map_append, List.mem_append] at hname
    cases hname with
    | inl hold => exact hc.plain name hold
    | inr hnew =>
      have he : name = t.name := by simpa using hnew
      rw [he, hb]

/-- Types that were defined before stay, and the new ones are there under their names. -/
theorem find?_of_defineTypes {types : List ParameterType} {h after : Standalone H}
    (hd : Registrar.defineTypes types h = .ok after) :
    (∀ name t, h.types.find? name = some t → after.types.find? name = some t) ∧
      ∀ t ∈ types, after.types.find? t.name = some t := by
  induction types generalizing h with
  | nil =>
    cases hd
    exact ⟨fun _ _ hf => hf, fun t ht => absurd ht List.not_mem_nil⟩
  | cons t types ih =>
    obtain ⟨next, ht, hd⟩ := Registrar.exists_of_defineTypes_cons hd
    obtain ⟨hkept, hnew⟩ := ih hd
    obtain ⟨-, hnone, hnext⟩ := defineType_eq_ok ht
    have hself : next.types.find? t.name = some t := by
      rw [hnext]
      simp [Table.find?_append, hnone, Table.find?]
    refine ⟨fun name u hu => hkept name u ?_, fun u hu => ?_⟩
    · rw [hnext]
      simp [Table.find?_append, hu]
    · cases List.mem_cons.mp hu with
      | inl he => exact he ▸ hkept t.name t hself
      | inr hr => exact hnew u hr

theorem Coherent.defineTypes {types : List ParameterType} {h after : Standalone H}
    (hc : Coherent h) (hd : Registrar.defineTypes types h = .ok after) : Coherent after :=
  Registrar.of_defineTypes (P := fun _ => True) (fun _ _ _ _ hc ht => hc.defineType ht)
    (fun _ _ => trivial) hc hd

/-- A type is refused only if its name is built in or taken. -/
theorem mem_names_of_refused {t : ParameterType} {h : Standalone H} {failure : Failure}
    (hd : StepHost.defineType t h = .error failure) (hb : isBuiltIn t.name = false) :
    t.name ∈ h.types.names := by
  by_contra hn
  rw [← Table.find?_eq_none_iff] at hn
  change h.defineType t = .error failure at hd
  simp [Standalone.defineType, hb, Table.has, hn] at hd

/-- A placeholder can be registered if its definition has a type and its unique name is new. -/
theorem not_obstacle {r : Registrar} {phrase : Text} {definitions : Definitions}
    {d : Desk (Standalone H)} {left right : List Placeholder} {p : Placeholder}
    {types : List ParameterType} {after : Standalone H}
    (h : r.holders phrase d = left ++ p :: right)
    (ht : List.Forall₂ (Registrar.Gives definitions) left types)
    (hh : Registrar.defineTypes types d.host = .ok after)
    (hd : ∃ definition, definitions.find? p.name = some definition ∧
      ∀ value, definition ≠ .unknown value)
    (hnew : p.uniqueName ∉ d.host.types.names) (failure : Failure) :
    ¬ Registrar.Obstacle definitions p after failure := by
  obtain ⟨definition, hfind, hknown⟩ := hd
  intro ho
  cases ho with
  | undefined hnone _ =>
    rw [hfind] at hnone
    cases hnone
  | unsupported other hother he =>
    obtain ⟨found, hc⟩ := Registrar.exists_compile hknown p.uniqueName
    rw [hfind] at hother
    cases hother
    rw [hc] at he
    cases he
  | refused t hg he =>
    have hname := Registrar.name_of_gives hg
    have hplain : isBuiltIn t.name = false := by
      have hp : p ∈ r.holders phrase d := by simp [h]
      obtain ⟨-, -, index, hu⟩ := Phrase.mem_placeholders hp
      rw [hname, hu]
      exact Phrase.isBuiltIn_uniqueName _ _ _ index
    have htaken := mem_names_of_refused he hplain
    rw [hname, eq_withTypes hh] at htaken
    simp only [withTypes, Table.names, List.map_append, List.map_map, List.mem_append] at htaken
    cases htaken with
    | inl hold => exact hnew hold
    | inr hleft => exact Registrar.uniqueName_not_mem_left h ht hleft

/-- The step has for each placeholder of the phrase the field type of its own definition. -/
structure Serves (step : StandaloneStep H) (phrase : Text) (handler : H)
    (definitions : Definitions) : Prop where
  handler : step.handler = handler
  defined : ∀ name ∈ Phrase.definedNames phrase, definitions.find? name ≠ none
  fields : step.template.fields =
    Template.numbered 0 ((Phrase.names phrase).map definitions.typeOf)
  compiled : step.template.compiled =
    Template.compile (Template.expressionFor definitions.typeOf (Phrase.pieces phrase))

theorem fieldType_builtIn {h : Standalone H} (hc : Coherent h) (definitions : Definitions)
    {name : Text} (hb : isBuiltIn name = true) :
    h.converters.has (TypeName.ofName name) = true ∧
      h.fieldType (TypeName.ofName name) = definitions.typeOf name := by
  obtain ⟨b, hb⟩ := Option.isSome_iff_exists.mp hb
  have hfind : h.converters.find? (TypeName.ofName name) = some b.fieldType := by
    rw [hc.find?_converters, hb]
    rfl
  simp [Table.has, fieldType, hfind, Definitions.typeOf, hb]

theorem fieldType_of_gives {h : Standalone H} (hc : Coherent h) {definitions : Definitions}
    {p : Placeholder} {t : ParameterType} (hg : Registrar.Gives definitions p t)
    (ht : h.types.find? t.name = some t) (hb : isBuiltIn p.name = false) :
    h.converters.has (TypeName.ofName p.uniqueName) = true ∧
      h.fieldType (TypeName.ofName p.uniqueName) = definitions.typeOf p.name := by
  obtain ⟨definition, decoder, hd, hcompile⟩ := hg
  rw [Registrar.compile_name hcompile] at ht
  have hplain : isBuiltIn p.uniqueName = false := by
    refine hc.plain _ ?_
    by_contra hn
    rw [← Table.find?_eq_none_iff, ht] at hn
    cases hn
  have hfind : h.converters.find? (TypeName.ofName p.uniqueName) = some definition.fieldType := by
    rw [hc.find?_converters, ofName?_eq_none hplain, ht]
    exact congrArg some (Definition.fieldType_of_compile hcompile)
  simp [Table.has, fieldType, hfind, Definitions.typeOf, ofName?_eq_none hb, hd]

section Registered

variable {r : Registrar} {phrase : Text} {definitions : Definitions} {d : Desk (Standalone H)}
  {host : Standalone H} {types : List ParameterType}

/-- All types of the expression are known, and each is that of the placeholder it stands for. -/
theorem known_of_defineTypes (hc : Coherent d.host) (htoken : Phrase.IsName (r.tokens d.drawn))
    (ht : List.Forall₂ (Registrar.Gives definitions) (r.holders phrase d) types)
    (hh : Registrar.defineTypes types d.host = .ok host) :
    (∀ name ∈ Phrase.namesIn (Phrase.pieces (r.expression phrase d)),
        host.converters.has (TypeName.ofName name) = true) ∧
      (Phrase.namesIn (Phrase.pieces (r.expression phrase d))).map
          (fun name => host.fieldType (TypeName.ofName name)) =
        (Phrase.names phrase).map definitions.typeOf := by
  have hcoherent := hc.defineTypes hh
  have hheld : ∀ p ∈ r.holders phrase d,
      host.converters.has (TypeName.ofName p.uniqueName) = true ∧
        host.fieldType (TypeName.ofName p.uniqueName) = definitions.typeOf p.name := by
    intro p hp
    obtain ⟨t, htm, hg⟩ := exists_right ht hp
    exact fieldType_of_gives hcoherent hg ((find?_of_defineTypes hh).2 t htm)
      (Registrar.mem_holders htoken hp).1
  rw [Registrar.pieces_expression htoken]
  constructor
  · intro name hn
    rcases Phrase.isBuiltIn_or_unique (Registrar.holders_names r phrase d) hn with hb | ⟨p, hp, rfl⟩
    · exact (fieldType_builtIn hcoherent definitions hb).1
    · exact (hheld p hp).1
  · exact Phrase.map_relabel (Registrar.holders_names r phrase d)
      (fun name _ hb => (fieldType_builtIn hcoherent definitions hb).2) fun p hp => (hheld p hp).2

/-- A step is always accepted, and serves the phrase. -/
theorem defineStep_serves (hc : Coherent d.host) (htoken : Phrase.IsName (r.tokens d.drawn))
    (ht : List.Forall₂ (Registrar.Gives definitions) (r.holders phrase d) types)
    (hh : Registrar.defineTypes types d.host = .ok host) (handler : H) :
    ∃ step events, StepHost.defineStep (r.expression phrase d) handler host =
        .ok ({ host with steps := host.steps ++ [step] }, events) ∧
      Serves step phrase handler definitions := by
  obtain ⟨hknown, htypes⟩ := known_of_defineTypes hc htoken ht hh
  have hplain := Registrar.underscore_mem_names htoken phrase
  have htemplate := Template.ofFormat_written host.fieldType hplain
  have hstep : host.stepOf (r.expression phrase d) handler = .ok ⟨r.expression phrase d,
      .ofFormat host.fieldType ((Phrase.pieces (r.expression phrase d)).flatMap Format.written),
      handler⟩ := by
    rw [stepOf, Format.ofExpression, Format.ofPieces_eq hknown]
    rfl
  refine ⟨_, _, congrArg (Except.map _) hstep, rfl, ?_, ?_, ?_⟩
  · intro name hn
    have hmem : name ∈ (r.holders phrase d).map Placeholder.name := by
      rw [Registrar.holders_names]
      exact hn
    obtain ⟨p, hp, rfl⟩ := List.mem_map.mp hmem
    obtain ⟨t, -, definition, decoder, hd, -⟩ := exists_right ht hp
    rw [hd]
    exact Option.some_ne_none definition
  · rw [htemplate]
    exact congrArg (Template.numbered 0) htypes
  · rw [htemplate]
    refine congrArg Template.compile ?_
    rw [Registrar.pieces_expression htoken] at htypes ⊢
    exact Template.expressionFor_relabel htypes

end Registered

theorem firstOf_append (text : Text) (steps more : List (StandaloneStep H)) :
    firstOf text (steps ++ more) =
      match firstOf text steps with
      | .ok none => firstOf text more
      | found => found := by
  induction steps with
  | nil => rfl
  | cons step rest ih =>
    rw [List.cons_append, firstOf, firstOf, ih]
    split
    · rfl
    · rfl
    · rfl

theorem read_of_firstOf_none {text : Text} {steps : List (StandaloneStep H)}
    (h : firstOf text steps = .ok none) : ∀ step ∈ steps, step.read text = .ok none := by
  induction steps with
  | nil => simp
  | cons step rest ih =>
    rw [firstOf] at h
    split at h
    · cases h
    · cases h
    · next hread =>
      intro other ho
      cases List.mem_cons.mp ho with
      | inl he => exact he ▸ hread
      | inr hr => exact ih h other hr

end Standalone

end Phrasebook
