import Phrasebook.Host.Shared
import Phrasebook.Proofs.Host.Standalone

/-!
# What hosts of a shared registry hand on

A host hands on each type with its pattern and with its conversion in a wrapping. The conversion of
a parameter type never fails then: a failure takes the place of the value, and comes to light again
when the arguments are asked for their values. So does a failure that a conversion has given as its
value. What the arguments of a step give, be it values or the first failure, is therefore what the
conversions themselves would have given if they raised such failures.
-/

namespace Phrasebook

def FieldType.handedOn (wrap : Convert → Argument → Except Failure Argument)
    (type : FieldType Value) : FieldType Argument :=
  ⟨type.pattern, type.groups, wrap type.convert⟩

/-- The field type with a conversion that raises the failures that it gives as values. -/
def FieldType.settled (type : FieldType Value) : FieldType Value :=
  { type with convert := fun v => (type.convert v).bind Value.settle }

theorem FieldType.settled_convert (type : FieldType Value) (v : Value) :
    type.settled.convert v = (type.convert v).bind Value.settle := rfl

theorem FieldType.settled_of_ok {type : FieldType Value} {v new : Value}
    (h : type.convert v = .ok new) : type.settled.convert v = new.settle := by
  rw [settled_convert, h]
  rfl

theorem FieldType.settled_of_error {type : FieldType Value} {v : Value} {failure : Failure}
    (h : type.convert v = .error failure) : type.settled.convert v = .error failure := by
  rw [settled_convert, h]
  rfl

theorem Value.settle_eq_ok {v new : Value} (h : v.settle = .ok new) : new = v := by
  cases v <;> cases h <;> rfl

theorem FieldType.convert_of_settled {type : FieldType Value} {v new : Value}
    (h : type.settled.convert v = .ok new) : type.convert v = .ok new := by
  cases hc : type.convert v with
  | error failure =>
    rw [settled_of_error hc] at h
    cases h
  | ok value =>
    rw [settled_of_ok hc] at h
    rw [Value.settle_eq_ok h]

/-- The value stands for a failure. -/
def Value.isHeld : Value → Bool
  | deferred _ _ _ => true
  | _ => false

/-- Values that stand for no failure stay as they are. -/
theorem Value.settled_bind (values : List Value) :
    ((values.mapM settle).bind fun _ => .ok values) = values.mapM settle := by
  cases h : values.mapM settle with
  | error failure => rfl
  | ok same =>
    have hsame : List.Forall₂ (· = ·) values same :=
      (forall₂_of_mapM h).imp fun _ _ hs => (settle_eq_ok hs).symm
    rw [List.forall₂_eq_eq_eq] at hsame
    exact congrArg Except.ok hsame

/-- The values that conversions give one after another, up to the first that fails. -/
def Template.returned : List (FieldType Value) → List Value → List Value
  | type :: types, old :: olds =>
    match type.convert old with
    | .error _ => []
    | .ok new => new :: returned types olds
  | _, _ => []

theorem Template.returned_of_ok {types : List (FieldType Value)} {olds news : List Value}
    (h : convertEach types olds = .ok news) : returned types olds = news := by
  induction types generalizing olds news with
  | nil =>
    cases h
    rfl
  | cons type types ih =>
    cases olds with
    | nil =>
      cases h
      rfl
    | cons old olds =>
      rw [convertEach] at h
      rw [returned]
      cases hc : type.convert old with
      | error failure => simp [hc] at h
      | ok new =>
        simp only [hc] at h ⊢
        obtain ⟨rest, hrest, rfl⟩ := exists_of_map_eq_ok h
        rw [ih hrest]

/-- Conversions that raise what they give fail where a value is a failure, before the others do. -/
theorem Template.convertEach_settled (types : List (FieldType Value)) (olds : List Value) :
    convertEach (types.map FieldType.settled) olds =
      ((returned types olds).mapM Value.settle).bind fun _ => convertEach types olds := by
  induction types generalizing olds with
  | nil => rfl
  | cons type types ih =>
    cases olds with
    | nil => rfl
    | cons old olds =>
      rw [List.map_cons, convertEach, convertEach, returned]
      cases hc : type.convert old with
      | error failure =>
        rw [FieldType.settled_of_error hc]
        rfl
      | ok new =>
        rw [FieldType.settled_of_ok hc, ih]
        simp only [Except.bind, List.mapM_cons]
        cases hn : new.settle with
        | error failure => rfl
        | ok same =>
          rw [Value.settle_eq_ok hn]
          cases (returned types olds).mapM Value.settle with
          | error failure => rfl
          | ok values => rfl

namespace Argument

theorem raising_of_ok {convert : Convert} {v new : Value} (h : convert v = .ok new) :
    raising convert (.value v) = .ok (.value new) := by
  simp [raising, seen, h, Except.map]

theorem deferring_of_ok {convert : Convert} {v new : Value} (h : convert v = .ok new) :
    deferring convert (.value v) = .ok (.value new) := by
  simp [deferring, seen, h]

theorem deferring_of_error {convert : Convert} {v : Value} {failure : Failure}
    (h : convert v = .error failure) : deferring convert (.value v) = .ok (.failed failure) := by
  simp [deferring, seen, h]

theorem deferring_ne_error (convert : Convert) (old : Argument) (failure : Failure) :
    deferring convert old ≠ .error failure := by
  rw [deferring]
  split
  · exact fun h => by cases h
  · exact fun h => by cases h

/-- The other type is the type as it is handed on. Its conversion may raise if it does not fail on a
text. -/
def Defers (t : Text) (type : FieldType Value) (other : FieldType Argument) : Prop :=
  other = type.handedOn deferring ∨
    other = type.handedOn raising ∧ ∃ value, type.convert (.text t) = .ok value

theorem exists_of_settle_eq_ok {argument : Argument} {v : Value} (h : argument.settle = .ok v) :
    argument = value v ∧ v.isHeld = false := by
  cases argument with
  | failed failure => cases h
  | value old => cases old <;> cases h <;> exact ⟨rfl, rfl⟩

theorem values_value (v : Value) (rest : List Argument) :
    values (value v :: rest) = v.settle.bind fun v => (values rest).map (v :: ·) := by
  rw [values, settle]
  cases v.settle with
  | error failure => rfl
  | ok new => rfl

/-- Nothing fails until the values are asked for, and then what comes first. -/
theorem exists_values {typeOf : Text → FieldType Value} {other : Text → FieldType Argument}
    {names ts : List Text} (h : List.Forall₂ (fun name t => Defers t (typeOf name) (other name)) names ts) :
    ∃ arguments,
      Template.convertEach (names.map other) (ts.map fun t => ofCapture (some t)) = .ok arguments ∧
        values arguments = Template.convertEach (names.map fun name => (typeOf name).settled)
          (ts.map fun t => Value.ofCapture (some t)) := by
  induction h with
  | nil => exact ⟨[], rfl, rfl⟩
  | @cons name t names ts hd _ ih =>
    obtain ⟨arguments, hall, hvalues⟩ := ih
    have hgo : ∀ argument, (other name).convert (.value (.text t)) = .ok argument →
        Template.convertEach ((name :: names).map other)
          ((t :: ts).map fun t => ofCapture (some t)) = .ok (argument :: arguments) := by
      intro argument ha
      rw [List.map_cons, List.map_cons, Template.convertEach, ofCapture, ha, hall]
      rfl
    cases hc : (typeOf name).convert (.text t) with
    | ok value =>
      have hother : (other name).convert (.value (.text t)) = .ok (.value value) := by
        rcases hd with he | ⟨he, -⟩
        · rw [he]
          exact deferring_of_ok hc
        · rw [he]
          exact raising_of_ok hc
      refine ⟨_, hgo _ hother, ?_⟩
      rw [values_value, List.map_cons, List.map_cons, Template.convertEach, Value.ofCapture,
        FieldType.settled_of_ok hc, ← hvalues]
      cases value.settle with
      | error failure => rfl
      | ok new => rfl
    | error failure =>
      rcases hd with he | ⟨-, value, hv⟩
      · have hother : (other name).convert (.value (.text t)) = .ok (.failed failure) := by
          rw [he]
          exact deferring_of_error hc
        refine ⟨_, hgo _ hother, ?_⟩
        rw [List.map_cons, List.map_cons, Template.convertEach, Value.ofCapture,
          FieldType.settled_of_error hc]
        rfl
      · rw [hc] at hv
        cases hv

end Argument

/-- The readings of groups that lie in order stay as they are. -/
theorem StepRegistry.inOrder_readings {cs : List Capture} (h : cs.Pairwise (·.start ≤ ·.start))
    (arguments : List Argument) :
    inOrder (List.zipWith Template.readingFrom cs arguments) =
      List.zipWith Template.readingFrom cs arguments := by
  refine Sorting.sort_eq_self ?_
  induction h generalizing arguments with
  | nil => exact .nil
  | @cons c cs hc _ ih =>
    cases arguments with
    | nil => exact .nil
    | cons argument arguments =>
      refine .cons (fun reading hr => ?_) (ih arguments)
      obtain ⟨i, hi, rfl⟩ := List.mem_iff_getElem.mp hr
      rw [List.getElem_zipWith]
      exact decide_eq_true (Int.ofNat_le.mpr (hc _ (List.getElem_mem _)))

namespace StepRegistry

variable {H : Type}

theorem exists_of_verdict_known {format : Text} {steps : List (SharedStep H)}
    (h : verdict format steps = .known) : ∃ step, step ∈ steps ∧ step.template.format = format := by
  induction steps with
  | nil => cases h
  | cons step rest ih =>
    rw [verdict] at h
    split at h
    · next he => exact ⟨step, List.mem_cons_self, he⟩
    · split at h
      · cases h
      · obtain ⟨other, hm, he⟩ := ih h
        exact ⟨other, List.mem_cons_of_mem _ hm, he⟩

/-- A step that can read the empty text is added, or dropped for an earlier one with its format,
unless it is refused. -/
theorem addStep_cases {r after : StepRegistry H} {step : SharedStep H}
    {found : Option (List (Reading Argument))} (hr : step.read [] = .ok found)
    (h : r.addStep step = .ok after) :
    after = { r with steps := r.steps ++ [step] } ∨
      after = r ∧ ∃ earlier, earlier ∈ r.steps ∧ earlier.template.format = step.template.format := by
  rw [addStep, hr] at h
  simp only at h
  cases hv : verdict step.template.format r.steps with
  | fresh =>
    rw [hv] at h
    cases h
    exact .inl rfl
  | known =>
    rw [hv] at h
    cases h
    exact .inr ⟨rfl, exists_of_verdict_known hv⟩
  | ambiguous =>
    rw [hv] at h
    cases h

/-- More steps are tried if none of the first ones takes the text or fails on it. -/
theorem firstOf_append (text : Text) (steps more : List (SharedStep H)) :
    firstOf text (steps ++ more) =
      match firstOf text steps with
      | .nothing => firstOf text more
      | found => found := by
  induction steps with
  | nil => rfl
  | cons step rest ih =>
    rw [List.cons_append, firstOf, firstOf, ih]
    split
    · rfl
    · rfl
    · rfl

/-- The field types of the built-in placeholders, as a new host hands them on. -/
theorem find?_putBuiltIns (name : Text) :
    (empty : StepRegistry H).putBuiltIns.types.find? (TypeName.ofName name) =
      (BuiltIn.ofName? name).map (·.fieldType.handedOn Argument.raising) := by
  have htypes : (empty : StepRegistry H).putBuiltIns.types =
      builtInTypes.map fun entry => (entry.1, entry.2.handedOn Argument.raising) := rfl
  have hfind := Table.find?_map (fun _ _ h => h) (FieldType.handedOn Argument.raising) builtInTypes
    (TypeName.ofName name)
  rw [htypes]
  rw [Standalone.find?_builtInTypes, Option.map_map] at hfind
  exact hfind

end StepRegistry

namespace SharedHost

variable {H : Type}

/-- The host with more parameter types, and the registry with what has been handed on. -/
def withTypes (types : List ParameterType) (h : SharedHost H) : SharedHost H :=
  { registry := { h.registry with
      types := types.foldl (fun table t => table.put (TypeName.ofName t.name)
        ⟨t.grouped, t.groups, Argument.deferring t.transform⟩) h.registry.types }
    known := types.foldl (fun known t =>
      if known.contains (TypeName.ofName t.name) then known
      else known ++ [TypeName.ofName t.name]) h.known }

theorem defineTypes_eq (types : List ParameterType) (h : SharedHost H) :
    Registrar.defineTypes types h = .ok (h.withTypes types) := by
  induction types generalizing h with
  | nil => rfl
  | cons t types ih =>
    have ht : StepHost.defineType t h = .ok (h.defineType t) := rfl
    rw [Registrar.defineTypes, ht]
    simp only [ih]
    rfl

theorem mem_known_withTypes {types : List ParameterType} {type : Text} {h : SharedHost H}
    (hm : type ∈ h.known ∨ ∃ t, t ∈ types ∧ TypeName.ofName t.name = type) :
    type ∈ (h.withTypes types).known := by
  induction types generalizing h with
  | nil =>
    rcases hm with hk | ⟨t, ht, -⟩
    · exact hk
    · cases ht
  | cons u types ih =>
    have hnext : TypeName.ofName u.name ∈ (h.defineType u).known ∧ h.known ⊆ (h.defineType u).known := by
      rw [defineType]
      split
      · next hc => exact ⟨List.contains_iff_mem.mp hc, fun _ hk => hk⟩
      · exact ⟨by simp, List.subset_append_left _ _⟩
    refine ih (h := h.defineType u) ?_
    rcases hm with hk | ⟨t, ht, rfl⟩
    · exact .inl (hnext.2 hk)
    · cases List.mem_cons.mp ht with
      | inl he => exact .inl (he ▸ hnext.1)
      | inr hr => exact .inr ⟨t, hr, rfl⟩

/-- A step is only defined if its format can be written, and then the registry decides. -/
theorem exists_of_defineStep {expression : Text} {handler : H} {h next : SharedHost H}
    {events : List Event} (hd : StepHost.defineStep expression handler h = .ok (next, events)) :
    ∃ format registry, Format.ofExpression h.known.contains expression = .ok format ∧
      h.registry.addStep ⟨.ofFormat h.registry.fieldType format, handler⟩ = .ok registry ∧
      next = { h with registry } := by
  change SharedHost.defineStep expression handler h = _ at hd
  rw [SharedHost.defineStep] at hd
  split at hd
  · cases hd
  · next format hf =>
    obtain ⟨registry, hadd, he⟩ := exists_of_map_eq_ok hd
    cases he
    exact ⟨format, registry, hf, hadd, rfl⟩

end SharedHost

end Phrasebook
