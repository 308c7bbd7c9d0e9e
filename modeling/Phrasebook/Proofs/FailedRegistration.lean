import Phrasebook.Proofs.Host.Shared
import Phrasebook.Session

/-!
# What a failed registration leaves behind

A registration that fails has told the host of some parameter types, and the host keeps them: those
of the placeholders to the left of the one that could not be registered, or all of them if it was
the step that was refused. It never leaves a step behind, and nothing else changes.
-/

namespace Phrasebook

variable {H : Type}

def Recorder.withTypes (types : List ParameterType) (r : Recorder H) : Recorder H :=
  { r with types := r.types ++ types }

theorem Recorder.defineTypes_eq (types : List ParameterType) (r : Recorder H) :
    Registrar.defineTypes types r = .ok (r.withTypes types) := by
  induction types generalizing r with
  | nil => simp [Registrar.defineTypes, withTypes]
  | cons t types ih =>
    have ht : StepHost.defineType t r = .ok (r.defineType t) := rfl
    rw [Registrar.defineTypes, ht]
    simp only [ih]
    simp [withTypes, defineType]

namespace SessionHost

def withTypes (types : List ParameterType) : SessionHost → SessionHost
  | standalone host => standalone (host.withTypes types)
  | recorder host => recorder (host.withTypes types)
  | shared host => shared (host.withTypes types)

/-- Whatever the host is, it keeps all types that it has taken. -/
theorem eq_withTypes {types : List ParameterType} {host after : SessionHost}
    (h : Registrar.defineTypes types host = .ok after) : after = host.withTypes types := by
  cases host with
  | standalone host =>
    rw [Registrar.defineTypes_map (f := standalone) fun _ _ => rfl] at h
    cases hd : Registrar.defineTypes types host with
    | error failure =>
      rw [hd] at h
      cases h
    | ok next =>
      rw [hd] at h
      cases h
      rw [Standalone.eq_withTypes hd]
      rfl
  | recorder host =>
    rw [Registrar.defineTypes_map (f := recorder) fun _ _ => rfl, Recorder.defineTypes_eq] at h
    cases h
    rfl
  | shared host =>
    rw [Registrar.defineTypes_map (f := shared) fun _ _ => rfl, SharedHost.defineTypes_eq] at h
    cases h
    rfl

theorem withTypes_nil (host : SessionHost) : host.withTypes [] = host := by
  cases host with
  | standalone host => simp [withTypes, Standalone.withTypes]
  | recorder host => simp [withTypes, Recorder.withTypes]
  | shared host => rfl

/-- A host of the same kind with the same steps; on a shared registry, also those set aside. -/
def SameSteps : SessionHost → SessionHost → Prop
  | standalone host, standalone after => after.steps = host.steps
  | recorder host, recorder after => after.steps = host.steps
  | shared host, shared after =>
    after.registry.steps = host.registry.steps ∧ after.registry.bad = host.registry.bad
  | _, _ => False

theorem sameSteps_withTypes (types : List ParameterType) (host : SessionHost) :
    host.SameSteps (host.withTypes types) := by
  cases host with
  | standalone host => rfl
  | recorder host => rfl
  | shared host => exact ⟨rfl, rfl⟩

def typeNames : SessionHost → List Text
  | standalone host => host.types.names
  | recorder host => host.types.map (·.name)
  | shared host => host.registry.types.names

end SessionHost

namespace Registrar

/-- A registration that fails leaves the steps as they were, and of the types exactly those that the
host had been told before the point of failure. -/
theorem define_failed (r : Registrar) (phrase : Text) (handler : Handler)
    (definitions : Definitions) (d : Desk SessionHost) {failure : Failure}
    (h : (r.define phrase handler definitions d).1 = .error failure) :
    ∃ types, (r.define phrase handler definitions d).2.host = d.host.withTypes types ∧
      d.host.SameSteps (r.define phrase handler definitions d).2.host ∧
      Ends r phrase handler definitions d (d.host.withTypes types) types (some failure) := by
  obtain ⟨types, hends⟩ := define_ends r phrase handler definitions d
  rw [h] at hends
  have hhost : (r.define phrase handler definitions d).2.host = d.host.withTypes types := by
    cases hends with
    | mismatched _ hh => rw [hh, SessionHost.withTypes_nil]
    | stopped _ _ hh _ _ => exact SessionHost.eq_withTypes hh
    | rejected _ hh _ => exact SessionHost.eq_withTypes hh
  refine ⟨types, hhost, ?_, ?_⟩
  · rw [hhost]
    exact SessionHost.sameSteps_withTypes types d.host
  · rw [← hhost]
    exact hends

/-- A phrase of two placeholders, the second of which has something that is no definition. -/
def halfDefined : Definitions := [(['a'], .string), (['b'], .unknown .none)]

def halfDefinedPhrase : Text := ['{', 'a', '}', ' ', '{', 'b', '}']

/-- A desk with a new host, at which nothing has been registered. -/
def newDesk : Desk SessionHost := ⟨.standalone .empty, 0, []⟩

/-- Types that were defined before a registration failed are still there after it. -/
theorem failed_define_changes_types :
    ¬ ∀ (r : Registrar) (phrase : Text) (handler : Handler) (definitions : Definitions)
        (d : Desk SessionHost) (failure : Failure),
      (r.define phrase handler definitions d).1 = .error failure →
        (r.define phrase handler definitions d).2.host.typeNames = d.host.typeNames := by
  intro h
  have hfail : ((⟨{}, fun _ => ['t']⟩ : Registrar).define halfDefinedPhrase Handler.collect
      halfDefined newDesk).1 = .error (.unknownDefinition .none) := rfl
  have hnames := h _ _ _ _ _ _ hfail
  have hone : ((⟨{}, fun _ => ['t']⟩ : Registrar).define halfDefinedPhrase Handler.collect
      halfDefined newDesk).2.host.typeNames = [['a', '_', '_', 't', '_', '0']] := rfl
  rw [hone] at hnames
  cases hnames

/-- The registration that fails at its second placeholder leaves the type of the first. -/
theorem define_failed_halfway :
    ((⟨{}, fun _ => ['t']⟩ : Registrar).define halfDefinedPhrase Handler.collect halfDefined
        newDesk).1 = .error (.unknownDefinition .none) ∧
      ∃ types, ((⟨{}, fun _ => ['t']⟩ : Registrar).define halfDefinedPhrase Handler.collect
          halfDefined newDesk).2.host = newDesk.host.withTypes types ∧
        newDesk.host.SameSteps ((⟨{}, fun _ => ['t']⟩ : Registrar).define halfDefinedPhrase
          Handler.collect halfDefined newDesk).2.host ∧
        Ends ⟨{}, fun _ => ['t']⟩ halfDefinedPhrase Handler.collect halfDefined newDesk
          (newDesk.host.withTypes types) types (some (.unknownDefinition .none)) :=
  ⟨rfl, define_failed _ halfDefinedPhrase Handler.collect halfDefined newDesk rfl⟩

end Registrar

end Phrasebook
