import Phrasebook.Proofs.Registration
import Phrasebook.Proofs.Table
import Phrasebook.Proofs.WrittenFormat
import Phrasebook.Session

/-!
# Checking definitions

A registration first compares its definitions with the names that stand in the phrase. If they do
not go together it ends there, before it draws a token, warns or turns to the host. If they do, it
warns of each definition that it leaves aside, and whatever happens later, no placeholder lacks a
definition and nothing else is warned of.
-/

namespace Phrasebook

namespace Phrase

/-- A name stands in a phrase and needs a definition. -/
def Needs (phrase name : Text) : Prop :=
  isBuiltIn name = false ∧ ∃ start, StandsAt phrase start name

theorem mem_requiredNames_iff_needs {phrase name : Text} :
    name ∈ requiredNames phrase ↔ Needs phrase name := mem_requiredNames

instance (phrase name : Text) : Decidable (Needs phrase name) :=
  decidable_of_iff ((requiredNames phrase).contains name = true)
    (List.contains_iff_mem.trans mem_requiredNames)

end Phrase

def Failure.isMismatch : Failure → Bool
  | definitionMismatch _ _ _ => true
  | _ => false

def Desk.warnings {σ : Type} (d : Desk σ) : List Event := d.events.filter (·.severity = .warning)

@[simp] theorem Desk.warnings_report {σ : Type} (d : Desk σ) (events : List Event) :
    (d.report events).warnings = d.warnings ++ events.filter (·.severity = .warning) := by
  simp [warnings, report]

/-- A host that has no say in whether definitions go with a phrase: it neither fails for that reason
nor warns. -/
class Impartial (σ : Type) {H : Type} [StepHost σ H] : Prop where
  of_defineType {type : ParameterType} {host : σ} {failure : Failure}
    (h : StepHost.defineType type host = .error failure) : failure.isMismatch = false
  of_defineStep {expression : Text} {handler : H} {host : σ} {failure : Failure}
    (h : StepHost.defineStep expression handler host = .error failure) : failure.isMismatch = false
  severity {expression : Text} {handler : H} {host after : σ} {events : List Event}
    (h : StepHost.defineStep expression handler host = .ok (after, events)) :
    ∀ event ∈ events, event.severity = .debug

/-- All that a format can lack is a type. -/
theorem Format.isMismatch_of_ofExpression {known : Text → Bool} {expression : Text}
    {failure : Failure} (h : ofExpression known expression = .error failure) :
    failure.isMismatch = false := by
  rw [ofExpression, ofPieces_find?] at h
  split at h
  · cases h
    rfl
  · cases h

instance {H : Type} : Impartial (Standalone H) where
  of_defineType {type host failure} h := by
    change host.defineType type = .error failure at h
    rw [Standalone.defineType] at h
    split at h
    · cases h
      rfl
    · cases h
  of_defineStep {_ _ _ _} h := by
    exact Format.isMismatch_of_ofExpression (eq_error_of_map (eq_error_of_map h))
  severity {_ _ _ _ _} h := by
    obtain ⟨step, -, he⟩ := exists_of_map_eq_ok h
    cases he
    simp [Event.severity]

instance {H : Type} : Impartial (Recorder H) where
  of_defineType h := by cases h
  of_defineStep h := by cases h
  severity h := by
    cases h
    simp

theorem StepRegistry.isMismatch_of_addStep {H : Type} {r : StepRegistry H} {step : SharedStep H}
    {failure : Failure} (h : r.addStep step = .error failure) : failure.isMismatch = false := by
  rw [addStep] at h
  split at h
  · cases h
  · split at h
    · cases h
    · cases h
    · cases h
      rfl

instance {H : Type} : Impartial (SharedHost H) where
  of_defineType h := by cases h
  of_defineStep {expression handler host failure} h := by
    change host.defineStep expression handler = .error failure at h
    rw [SharedHost.defineStep] at h
    split at h
    · next hf =>
      cases h
      exact Format.isMismatch_of_ofExpression hf
    · exact StepRegistry.isMismatch_of_addStep (eq_error_of_map h)
  severity {expression handler host after events} h := by
    change host.defineStep expression handler = .ok (after, events) at h
    rw [SharedHost.defineStep] at h
    split at h
    · cases h
    · obtain ⟨registry, -, he⟩ := exists_of_map_eq_ok h
      cases he
      simp [Event.severity]

instance : Impartial SessionHost where
  of_defineType {type host failure} h := by
    cases host with
    | standalone host => exact Impartial.of_defineType (eq_error_of_map h)
    | recorder host => cases h
    | shared host => cases h
  of_defineStep {expression handler host failure} h := by
    cases host with
    | standalone host => exact Impartial.of_defineStep (eq_error_of_map h)
    | recorder host => cases h
    | shared host => exact Impartial.of_defineStep (eq_error_of_map h)
  severity {expression handler host after events} h := by
    cases host with
    | standalone host =>
      obtain ⟨found, hs, he⟩ := exists_of_map_eq_ok h
      cases he
      exact Impartial.severity hs
    | recorder host =>
      cases h
      simp
    | shared host =>
      obtain ⟨found, hs, he⟩ := exists_of_map_eq_ok h
      cases he
      exact Impartial.severity hs

namespace Registrar

variable {σ H : Type}

/-- A name that stands in the phrase has no definition, or a definition has no such name and that is
not let pass. -/
def Mismatched (settings : Settings) (phrase : Text) (definitions : Definitions) : Prop :=
  (∃ name, Phrase.Needs phrase name ∧ name ∉ definitions.names) ∨
    settings.allowUnused = false ∧ ∃ name ∈ definitions.names, ¬ Phrase.Needs phrase name

section

variable {settings : Settings} {phrase : Text} {definitions : Definitions}

theorem mem_missing {name : Text} :
    name ∈ missing phrase definitions ↔ Phrase.Needs phrase name ∧ name ∉ definitions.names := by
  rw [missing, List.mem_filter, Phrase.mem_requiredNames_iff_needs, Table.has_eq_contains]
  simp

theorem unused_eq (phrase : Text) (definitions : Definitions) :
    unused phrase definitions = definitions.names.filter (¬ Phrase.Needs phrase ·) := by
  refine List.filter_congr fun name _ => ?_
  simp [← Phrase.mem_requiredNames_iff_needs]

theorem mismatched_iff : Mismatched settings phrase definitions ↔
    missing phrase definitions ≠ [] ∨
      settings.allowUnused = false ∧ unused phrase definitions ≠ [] := by
  have hne : ∀ l : List Text, l ≠ [] ↔ ∃ name, name ∈ l := by
    intro l
    rw [ne_eq, List.eq_nil_iff_forall_not_mem, not_forall_not]
  rw [Mismatched, hne, hne, unused_eq]
  simp [mem_missing]

theorem check_of_mismatched (h : Mismatched settings phrase definitions) :
    check settings phrase definitions = .error (.definitionMismatch phrase
      (missing phrase definitions) (unused phrase definitions)) := by
  rcases mismatched_iff.mp h with hm | ⟨ha, hu⟩
  · simp [check, hm]
  · simp [check, ha, hu]

theorem check_of_not_mismatched (h : ¬ Mismatched settings phrase definitions) :
    check settings phrase definitions =
      .ok ((unused phrase definitions).map (.definitionIgnored · phrase)) := by
  rw [mismatched_iff, not_or] at h
  obtain ⟨hm, hu⟩ := h
  have hmissing : missing phrase definitions = [] := by simpa using hm
  cases ha : settings.allowUnused with
  | true => simp [check, hmissing, ha]
  | false =>
    have hunused : unused phrase definitions = [] := by simpa [ha] using hu
    simp [check, hmissing, hunused]

end

variable [StepHost σ H]

theorem isMismatch_of_obstacle [Impartial σ] {definitions : Definitions} {p : Placeholder} {host : σ}
    {failure : Failure} (h : Obstacle definitions p host failure) : failure.isMismatch = false := by
  cases h with
  | undefined _ hf =>
    rw [hf]
    rfl
  | unsupported definition _ hf =>
    cases definition with
    | unknown value =>
      cases hf
      rfl
    | string | raw | sum | list => cases hf
  | refused _ _ hf => exact Impartial.of_defineType hf

/-- Types are registered without a warning. -/
theorem warnings_registerTypes (definitions : Definitions) (ps : List Placeholder) (d : Desk σ) :
    (registerTypes definitions ps d).2.warnings = d.warnings := by
  induction ps generalizing d with
  | nil => rfl
  | cons p ps ih =>
    cases obstacle_or_not definitions p d.host with
    | inl h =>
      obtain ⟨failure, h⟩ := h
      rw [registerTypes_stop h]
    | inr h =>
      obtain ⟨definition, type, decoder, host, hd, hc, hh⟩ := h
      have hafter : (afterType d host type).warnings = d.warnings := by
        rw [afterType, Desk.warnings_report]
        simp [Desk.warnings, Event.severity]
      rw [registerTypes_cons hd hc hh]
      exact (ih (afterType d host type)).trans hafter

theorem warnings_started (d : Desk σ) (phrase : Text) (names : List Text) :
    (started d (names.map (.definitionIgnored · phrase))).warnings =
      d.warnings ++ names.map (.definitionIgnored · phrase) := by
  rw [started, Desk.warnings_report, List.filter_eq_self.mpr]
  · rfl
  · simp [Event.severity]

variable [Impartial σ] {r : Registrar} {phrase : Text} {handler : H} {definitions : Definitions}
  {d : Desk σ}

/-- Once the definitions have been checked, a token is drawn, nothing more is warned of, and nothing
fails for the sake of the definitions. -/
theorem define_of_check {ignored : List Event}
    (hcheck : check r.settings phrase definitions = .ok ignored) :
    (r.define phrase handler definitions d).2.drawn = d.drawn + 1 ∧
      (r.define phrase handler definitions d).2.warnings = (started d ignored).warnings ∧
      ∀ failure, (r.define phrase handler definitions d).1 = .error failure →
        failure.isMismatch = false := by
  have htypes := registerTypes_cases definitions (r.holders phrase d) (started d ignored)
  have hdrawn := drawn_registerTypes definitions (r.holders phrase d) (started d ignored)
  have hwarned := warnings_registerTypes definitions (r.holders phrase d) (started d ignored)
  cases ht : registerTypes definitions (r.holders phrase d) (started d ignored) with
  | mk result after =>
    rw [ht] at htypes hdrawn hwarned
    cases result with
    | error failure =>
      rw [define_of_stop hcheck ht]
      refine ⟨hdrawn, hwarned, ?_⟩
      intro other he
      cases he
      rcases htypes with ⟨_, _, hok, -⟩ | ⟨_, _, _, _, _, herr, -, -, -, hwhy⟩
      · cases hok
      · cases herr
        exact isMismatch_of_obstacle hwhy
    | ok pairs =>
      rw [define_of_types hcheck ht]
      cases hs : StepHost.defineStep (r.expression phrase d) handler after.host with
      | error failure =>
        refine ⟨hdrawn, hwarned, ?_⟩
        rintro other he
        cases he
        exact Impartial.of_defineStep hs
      | ok found =>
        obtain ⟨host, events⟩ := found
        have hquiet : events.filter (·.severity = .warning) = [] := by
          refine List.filter_eq_nil_iff.mpr fun event he => ?_
          simp [Impartial.severity hs event he]
        refine ⟨hdrawn, ?_, fun failure he => by cases he⟩
        have hend : ([Event.phraseRegistered phrase (r.expression phrase d)]).filter
            (·.severity = .warning) = [] := by simp [Event.severity]
        rw [Desk.warnings_report, Desk.warnings_report, hquiet, hend, List.append_nil,
          List.append_nil]
        exact hwarned

/-- A registration fails for the sake of its definitions if a name of the phrase has none or if,
unless that is let pass, a definition has no name of the phrase. It names what is missing in the
order of the phrase and what is unused in the order of the definitions, and leaves everything as it
was. Otherwise it warns of the unused definitions, and no placeholder lacks one. -/
theorem define_mismatch (r : Registrar) (phrase : Text) (handler : H) (definitions : Definitions)
    (d : Desk σ) :
    ((∃ failure, (r.define phrase handler definitions d).1 = .error failure ∧
        failure.isMismatch = true) ↔ Mismatched r.settings phrase definitions) ∧
      (∃ missing unused,
        (missing.Nodup ∧ missing.Pairwise (Phrase.Precedes phrase) ∧
          ∀ name, name ∈ missing ↔ Phrase.Needs phrase name ∧ name ∉ definitions.names) ∧
        unused = definitions.names.filter (¬ Phrase.Needs phrase ·) ∧
        (Mismatched r.settings phrase definitions →
          r.define phrase handler definitions d =
            (.error (.definitionMismatch phrase missing unused), d)) ∧
        (¬ Mismatched r.settings phrase definitions →
          (r.define phrase handler definitions d).2.drawn = d.drawn + 1 ∧
          (r.define phrase handler definitions d).2.warnings =
            d.warnings ++ unused.map (.definitionIgnored · phrase) ∧
          ∀ p ∈ r.holders phrase d, ∃ definition, definitions.find? p.name = some definition)) := by
  have hstop : Mismatched r.settings phrase definitions →
      r.define phrase handler definitions d = (.error (.definitionMismatch phrase
        (missing phrase definitions) (unused phrase definitions)), d) := by
    intro h
    simp only [define, check_of_mismatched h]
  refine ⟨⟨?_, fun h => ⟨_, congrArg Prod.fst (hstop h), rfl⟩⟩,
    missing phrase definitions, unused phrase definitions,
    ⟨(Choices.nodup_distinct _).filter _, (Phrase.pairwise_requiredNames phrase).filter _,
      fun name => mem_missing⟩, unused_eq phrase definitions, hstop, fun h => ?_⟩
  · rintro ⟨failure, hf, hm⟩
    by_contra h
    have hno := (define_of_check (check_of_not_mismatched h)).2.2 failure hf
    rw [hno] at hm
    cases hm
  · have hcheck := check_of_not_mismatched h
    have hpassed : (r.define phrase handler definitions d).2.drawn = d.drawn + 1 ∧ _ :=
      define_of_check hcheck
    obtain ⟨hdrawn, hwarned, -⟩ := hpassed
    refine ⟨hdrawn, hwarned.trans (warnings_started d phrase _), fun p hp => ?_⟩
    have hname := (Phrase.mem_placeholders hp).2.1
    exact Option.ne_none_iff_exists'.mp (defined_of_check hcheck hname)

def builtInDefined : Definitions := [("int".toList, .string), ("a".toList, .string)]

/-- A definition for a built-in name is unused. Without a definition for `b` that is one reason to
refuse the phrase, and with one it is let pass. -/
theorem define_mismatch_builtIn :
    (∃ failure, ((⟨{}, fun _ => ['t']⟩ : Registrar).define "{b} {int} {a} {b}".toList ()
        builtInDefined ⟨(Standalone.empty : Standalone Unit), 0, []⟩).1 = .error failure ∧
      failure.isMismatch = true) ∧
      ¬ Mismatched { allowUnused := true } "{b} {int} {a} {b}".toList
        (("b".toList, .string) :: builtInDefined) ∧
      ((⟨{ allowUnused := true }, fun _ => ['t']⟩ : Registrar).define "{b} {int} {a} {b}".toList ()
        (("b".toList, .string) :: builtInDefined)
        ⟨(Standalone.empty : Standalone Unit), 0, []⟩).2.drawn = 1 := by
  have hfits : ¬ Mismatched { allowUnused := true } "{b} {int} {a} {b}".toList
      (("b".toList, .string) :: builtInDefined) := by
    rw [mismatched_iff]
    decide
  obtain ⟨missing, unused, -, -, -, hpass⟩ := (define_mismatch ⟨{ allowUnused := true }, fun _ => ['t']⟩
    "{b} {int} {a} {b}".toList () (("b".toList, .string) :: builtInDefined)
    ⟨(Standalone.empty : Standalone Unit), 0, []⟩).2
  refine ⟨(define_mismatch ⟨{}, fun _ => ['t']⟩ "{b} {int} {a} {b}".toList () builtInDefined
    ⟨(Standalone.empty : Standalone Unit), 0, []⟩).1.mpr ?_, hfits, (hpass hfits).1⟩
  exact .inl ⟨"b".toList, by decide, by decide⟩

end Registrar

end Phrasebook
