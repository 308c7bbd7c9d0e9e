import Phrasebook.Proofs.Calls

/-!
# The state of a standalone host

A standalone host keeps its parameter types in one table and their field types in another, under
other names, and each step resolved its fields when it was defined. The two tables stay in step
through all calls, be they direct ones or registrations, whether they succeed or fail; no entry is
ever replaced, and steps are only ever added at the end. So what a step is has not changed since it
was defined, and a text that some step has settled stays settled.
-/

namespace Phrasebook

variable {H : Type}

namespace Standalone

/-- The tables go with each other, and so do the steps with the tables. -/
structure Sound (h : Standalone H) : Prop extends Coherent h where
  /-- Parameter types stand under their own names. -/
  keyed : ∀ entry ∈ h.types, entry.1 = entry.2.name
  /-- No two types share an entry, the built-in ones included. -/
  apart : h.converters.names.Nodup
  /-- The fields of a step have a type in the table, and nothing else. -/
  fields : ∀ step ∈ h.steps, ∀ name type, .field name type ∈ Format.parts step.template.format →
    name = [] ∧ h.converters.has type = true
  /-- The fields of a step are as the table has them now. -/
  templates : ∀ step ∈ h.steps, step.template = .ofFormat h.fieldType step.template.format

theorem sound_empty : Sound (empty : Standalone H) where
  toCoherent := coherent_empty
  keyed _ he := absurd he List.not_mem_nil
  apart := (by decide : builtInTypes.names.Nodup)
  fields _ hs := absurd hs List.not_mem_nil
  templates _ hs := absurd hs List.not_mem_nil

/-- A new type stands at the end of both tables. -/
theorem Coherent.of_defineType {t : ParameterType} {h next : Standalone H} (hc : Coherent h)
    (hd : h.defineType t = .ok next) :
    TypeName.ofName t.name ∉ h.converters.names ∧ next.types = h.types ++ [(t.name, t)] ∧
      next.converters = h.converters ++ [(TypeName.ofName t.name, t.fieldType)] ∧
      next.steps = h.steps := by
  obtain ⟨hb, hn, rfl⟩ := defineType_eq_ok hd
  have hfresh : TypeName.ofName t.name ∉ h.converters.names := by
    rw [← Table.find?_eq_none_iff, hc.find?_converters, ofName?_eq_none hb, hn]
    rfl
  exact ⟨hfresh, rfl, Table.put_of_not_mem hfresh _, rfl⟩

/-- More types leave those that are there as they are. -/
theorem fieldType_append {h next : Standalone H} {more : Table (FieldType Value)} {type : Text}
    (hn : next.converters = h.converters ++ more) (hk : h.converters.has type = true) :
    next.converters.has type = true ∧ next.fieldType type = h.fieldType type := by
  obtain ⟨found, hf⟩ := Option.isSome_iff_exists.mp hk
  have hfind : next.converters.find? type = some found := by
    rw [hn, Table.find?_append, hf]
    rfl
  simp [Table.has, fieldType, hfind, hf]

theorem Sound.defineType {t : ParameterType} {h next : Standalone H} (hs : Sound h)
    (hd : h.defineType t = .ok next) : Sound next := by
  obtain ⟨hfresh, htypes, hconverters, hsteps⟩ := hs.toCoherent.of_defineType hd
  refine ⟨hs.toCoherent.defineType hd, fun entry he => ?_, ?_, fun step hm name type hf => ?_,
    fun step hm => ?_⟩
  · rw [htypes] at he
    cases List.mem_append.mp he with
    | inl hold => exact hs.keyed entry hold
    | inr hnew => rw [List.mem_singleton.mp hnew]
  · rw [hconverters]
    exact Table.nodup_names_append hs.apart hfresh _
  · rw [hsteps] at hm
    obtain ⟨hnone, hk⟩ := hs.fields step hm name type hf
    exact ⟨hnone, (fieldType_append hconverters hk).1⟩
  · rw [hsteps] at hm
    refine (hs.templates step hm).trans (Template.ofFormat_congr fun name type hf => ?_)
    exact (fieldType_append hconverters (hs.fields step hm name type hf).2).2.symm

/-- A new step stands after all others, and is resolved from the table. -/
theorem exists_of_defineStep {expression : Text} {handler : H} {h next : Standalone H}
    {events : List Event} (hd : StepHost.defineStep expression handler h = .ok (next, events)) :
    ∃ format, Format.ofExpression h.converters.has expression = .ok format ∧
      next = { h with
        steps := h.steps ++ [⟨expression, .ofFormat h.fieldType format, handler⟩] } := by
  change (h.stepOf expression handler).map _ = _ at hd
  obtain ⟨step, hstep, he⟩ := exists_of_map_eq_ok hd
  obtain ⟨format, hf, rfl⟩ := exists_of_map_eq_ok hstep
  exact ⟨format, hf, (Prod.mk.inj he).1.symm⟩

/-- The fields of an expression have known types. -/
theorem field_of_ofExpression {known : Text → Bool} {expression format : Text}
    (hf : Format.ofExpression known expression = .ok format) {name type : Text}
    (hm : .field name type ∈ Format.parts format) : name = [] ∧ known type = true := by
  have hk := Format.known_of_ofPieces hf
  rw [Format.ofExpression, Format.ofPieces_eq hk] at hf
  cases hf
  obtain ⟨rfl, other, ho, rfl⟩ := Format.field_mem_parts_written.mp hm
  exact ⟨rfl, hk other ho⟩

theorem Sound.defineStep {expression : Text} {handler : H} {h next : Standalone H}
    {events : List Event} (hs : Sound h)
    (hd : StepHost.defineStep expression handler h = .ok (next, events)) : Sound next := by
  obtain ⟨format, hf, rfl⟩ := exists_of_defineStep hd
  refine ⟨⟨hs.converters, hs.plain⟩, hs.keyed, hs.apart, fun step hm name type ht => ?_,
    fun step hm => ?_⟩
  · cases List.mem_append.mp hm with
    | inl hold => exact hs.fields step hold name type ht
    | inr hnew =>
      rw [List.mem_singleton.mp hnew] at ht
      exact field_of_ofExpression hf ht
  · cases List.mem_append.mp hm with
    | inl hold => exact hs.templates step hold
    | inr hnew =>
      rw [List.mem_singleton.mp hnew]
      rfl

/-- All calls keep the state of a host, whether they succeed or fail. -/
theorem Sound.after {d : Desk (Standalone H)} (hs : d.host.Sound) (calls : List (Call H)) :
    (Call.after calls d).host.Sound :=
  Call.of_after (P := fun _ => True) (Q := Sound) (fun _ _ _ _ hs ht => hs.defineType ht)
    (fun _ _ _ _ _ hs hd => hs.defineStep hd) (fun call _ => call.tells_true) hs

/-- In every state that a new host can reach, it keeps the four built-in types and one field type
for each parameter type, no two of them in one place, and steps whose types it has. A type that is
defined comes to stand at the end of both tables. A direct call that fails leaves everything as it
was. -/
theorem sound_reached (calls : List (Call H)) :
    (Call.reached calls).host.Sound ∧
      (∀ (t : ParameterType) (next : Standalone H),
        (Call.reached calls).host.defineType t = .ok next →
        TypeName.ofName t.name ∉ (Call.reached calls).host.converters.names ∧
          next.types = (Call.reached calls).host.types ++ [(t.name, t)] ∧
          next.converters =
            (Call.reached calls).host.converters ++ [(TypeName.ofName t.name, t.fieldType)] ∧
          next.steps = (Call.reached calls).host.steps) ∧
      ∀ (call : Call H) (failure : Failure), call.Direct →
        (call.make (Call.reached calls)).1 = .error failure →
        (call.make (Call.reached calls)).2 = Call.reached calls := by
  have hsound : (Call.reached calls).host.Sound :=
    Sound.after (d := Request.newDesk) sound_empty calls
  exact ⟨hsound, fun t next ht => hsound.toCoherent.of_defineType ht,
    fun _ _ hd hf => Call.desk_of_failed hd hf⟩

def reservedType : ParameterType := ⟨TypeName.ofBuiltIn .int, ['x'], none, .ok⟩

def spelledType : ParameterType := ⟨TypeName.ofName reservedType.name, ['y'], none, .ok⟩

/-- Types may be named like type names, but not like a built-in placeholder. -/
theorem sound_reached_reserved :
    (Call.reached [.defineType reservedType, .defineType spelledType] :
        Desk (Standalone Unit)).host.Sound ∧
      Call.Direct (.defineType ⟨BuiltIn.int.name, ['z'], none, .ok⟩ : Call Unit) ∧
      (Call.make (.defineType ⟨BuiltIn.int.name, ['z'], none, .ok⟩)
          (Call.reached [.defineType reservedType, .defineType spelledType] :
            Desk (Standalone Unit))).1 = .error (.typeTaken BuiltIn.int.name) ∧
      (Call.make (.defineType ⟨BuiltIn.int.name, ['z'], none, .ok⟩)
          (Call.reached [.defineType reservedType, .defineType spelledType] :
            Desk (Standalone Unit))).2 =
        Call.reached [.defineType reservedType, .defineType spelledType] := by
  obtain ⟨hsound, -, hkept⟩ := sound_reached
    ([.defineType reservedType, .defineType spelledType] : List (Call Unit))
  have hfail : (Call.make (.defineType ⟨BuiltIn.int.name, ['z'], none, .ok⟩)
      (Call.reached [.defineType reservedType, .defineType spelledType] :
        Desk (Standalone Unit))).1 = .error (.typeTaken BuiltIn.int.name) := rfl
  exact ⟨hsound, trivial, hfail, hkept _ _ trivial hfail⟩

theorem steps_after (calls : List (Call H)) (d : Desk (Standalone H)) :
    d.host.steps <+: (Call.after calls d).host.steps := by
  refine Call.of_after (P := fun _ => True) (Q := fun host : Standalone H => d.host.steps <+: host.steps)
    ?_ ?_ (fun call _ => call.tells_true) (List.prefix_refl _)
  · intro type host next _ hp ht
    obtain ⟨-, -, rfl⟩ := defineType_eq_ok ht
    exact hp
  · intro expression handler host next events hp hd
    obtain ⟨format, -, rfl⟩ := exists_of_defineStep hd
    exact hp.trans (List.prefix_append _ _)

/-- What the first steps have found, more steps do not change. -/
theorem firstOf_extended {text : Text} {steps more : List (StandaloneStep H)} (hp : steps <+: more)
    (h : firstOf text steps ≠ .ok none) : firstOf text more = firstOf text steps := by
  obtain ⟨added, rfl⟩ := hp
  rw [firstOf_append]
  split
  · next hnone => exact absurd hnone h
  · rfl

def settles (h : Standalone H) (text : Text) : Bool :=
  match h.find text with
  | .ok none => false
  | _ => true

/-- A settled text keeps its step with the same values, or fails alike, whatever calls come later.
The steps stay where they are, and are what the table makes of their formats at any time. -/
theorem find_settled (calls later : List (Call H)) {text : Text}
    (h : (Call.reached calls).host.settles text = true) :
    (Call.reached (calls ++ later)).host.find text = (Call.reached calls).host.find text ∧
      (Call.reached calls).host.steps <+: (Call.reached (calls ++ later)).host.steps ∧
      ∀ step ∈ (Call.reached calls).host.steps,
        step.template = .ofFormat (Call.reached (calls ++ later)).host.fieldType step.template.format := by
  have hne : (Call.reached calls).host.find text ≠ .ok none := by
    intro hnone
    rw [settles, hnone] at h
    cases h
  have happend : Call.reached (calls ++ later) = Call.after later (Call.reached calls) :=
    Call.after_append calls later _
  have hsteps := steps_after later (Call.reached calls)
  have hsound : (Call.reached (calls ++ later)).host.Sound :=
    Sound.after (d := Request.newDesk) sound_empty (calls ++ later)
  rw [happend] at hsound ⊢
  exact ⟨firstOf_extended hsteps hne, hsteps,
    fun step hm => hsound.templates step (hsteps.subset hm)⟩

def counted : List (Call Unit) := [.defineStep ['{', 'i', 'n', 't', '}'] ()]

/-- A type and a registration that are refused, and a step that takes any text with a type named
like that of integers. -/
def intruding : List (Call Unit) :=
  [.defineType ⟨BuiltIn.int.name, ['.', '+'], none, .ok⟩,
    .defineType ⟨TypeName.ofBuiltIn .int, ['.', '+'], none, fun value => .error (.rejected value)⟩,
    .register ⟨⟨{}, fun _ => ['t']⟩, ['{', 'a', '}'], (), []⟩,
    .defineStep ('{' :: TypeName.ofBuiltIn .int ++ ['}']) ()]

/-- The text of an integer stays one. -/
theorem find_settled_counted :
    (Call.reached counted).host.settles ['4', '2'] = true ∧
      (Call.reached (counted ++ intruding)).host.find ['4', '2'] =
          (Call.reached counted).host.find ['4', '2'] ∧
      (Call.reached counted).host.steps <+: (Call.reached (counted ++ intruding)).host.steps ∧
      ∀ step ∈ (Call.reached counted).host.steps,
        step.template = .ofFormat (Call.reached (counted ++ intruding)).host.fieldType
          step.template.format := by
  have hsettles : (Call.reached counted).host.settles ['4', '2'] = true := by decide +kernel
  exact ⟨hsettles, find_settled counted intruding hsettles⟩

end Standalone

end Phrasebook
