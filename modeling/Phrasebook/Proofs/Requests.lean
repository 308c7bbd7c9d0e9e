import Phrasebook.Proofs.Host.Standalone

/-!
# Sequences of registrations

A host is filled by requests, one after another, some of which fail. A request adds at most one
step, and only if it succeeds; so the steps of a host that was new are those of the requests that
succeeded, in their order.
-/

namespace Phrasebook

/-- What a phrase is registered with. -/
structure Request (H : Type) where
  registrar : Registrar
  phrase : Text
  handler : H
  definitions : Definitions

namespace Request

section

variable {σ H : Type} [StepHost σ H]

def make (q : Request H) (d : Desk σ) : Outcome (Desk σ) Registration :=
  q.registrar.define q.phrase q.handler q.definitions d

def after : List (Request H) → Desk σ → Desk σ
  | [], d => d
  | q :: rest, d => after rest (q.make d).2

def succeeded : List (Request H) → Desk σ → List (Request H)
  | [], _ => []
  | q :: rest, d =>
    match (q.make d).1 with
    | .ok _ => q :: succeeded rest (q.make d).2
    | .error _ => succeeded rest (q.make d).2

/-- Each of the requests succeeds. -/
def AllSucceed : List (Request H) → Desk σ → Prop
  | [], _ => True
  | q :: rest, d => (q.make d).1.isOk = true ∧ AllSucceed rest (q.make d).2

instance : (requests : List (Request H)) → (d : Desk σ) → Decidable (AllSucceed requests d)
  | [], _ => .isTrue trivial
  | q :: rest, d =>
    have := instDecidableAllSucceed rest (q.make d).2
    inferInstanceAs (Decidable (_ ∧ _))

/-- A request ends in one of the ways of a registration. -/
theorem make_ends (q : Request H) (d : Desk σ) :
    ∃ types, Registrar.Ends q.registrar q.phrase q.handler q.definitions d (q.make d).2.host types
      (Registrar.failure? (q.make d).1) :=
  Registrar.define_ends q.registrar q.phrase q.handler q.definitions d

theorem mem_of_mem_succeeded {requests : List (Request H)} {d : Desk σ} {q : Request H}
    (h : q ∈ succeeded requests d) : q ∈ requests := by
  induction requests generalizing d with
  | nil => cases h
  | cons p rest ih =>
    rw [succeeded] at h
    split at h
    · cases List.mem_cons.mp h with
      | inl he => simp [he]
      | inr hr => exact List.mem_cons_of_mem _ (ih hr)
    · exact List.mem_cons_of_mem _ (ih h)

end

/-- All tokens of the registration could stand in placeholder names. -/
def Named {H : Type} (q : Request H) : Prop := ∀ n, Phrase.IsName (q.registrar.tokens n)

variable {H : Type}

/-- The step has what the request asks for. -/
def ServedBy (q : Request H) (step : StandaloneStep H) : Prop :=
  Standalone.Serves step q.phrase q.handler q.definitions

def newDesk : Desk (Standalone H) := ⟨.empty, 0, []⟩

/-- The request succeeds. The host then has the types of its placeholders under their unique names,
and after all other steps one that serves it. -/
def Taken (q : Request H) (d : Desk (Standalone H)) : Prop :=
  ∃ registration types step, (q.make d).1 = .ok registration ∧
    List.Forall₂ (Registrar.Gives q.definitions) (q.registrar.holders q.phrase d) types ∧
    (q.make d).2.host.types = d.host.types ++ types.map (fun t => (t.name, t)) ∧
    (q.make d).2.host.steps = d.host.steps ++ [step] ∧ q.ServedBy step

/-- A request that succeeds is taken. -/
theorem taken_of_ok {q : Request H} {d : Desk (Standalone H)} (hc : d.host.Coherent)
    (htoken : Phrase.IsName (q.registrar.tokens d.drawn)) {registration : Registration}
    (hr : (q.make d).1 = .ok registration) : (q.make d).2.host.Coherent ∧ q.Taken d := by
  obtain ⟨types, hends⟩ := q.make_ends d
  rw [hr] at hends
  cases hends with
  | @registered _ host events ht hh hs =>
    have hcoherent := hc.defineTypes hh
    obtain ⟨step, reports, hstep, hserves⟩ :=
      Standalone.defineStep_serves hc htoken ht hh q.handler
    rw [hstep] at hs
    have hafter : (q.make d).2.host = { host with steps := host.steps ++ [step] } :=
      (Prod.mk.inj (Except.ok.inj hs)).1.symm
    refine ⟨hafter ▸ ⟨hcoherent.converters, hcoherent.plain⟩,
      registration, types, step, hr, ht, ?_, ?_, hserves⟩
    · rw [hafter, Standalone.eq_withTypes hh]
      rfl
    · rw [hafter, Standalone.steps_of_defineTypes hh]

/-- A request adds a step that serves it if it succeeds, and none if it fails. -/
theorem make_cases {q : Request H} {d : Desk (Standalone H)} (hc : d.host.Coherent) (hn : q.Named) :
    (q.make d).2.host.Coherent ∧
      ((∃ failure, (q.make d).1 = .error failure ∧ (q.make d).2.host.steps = d.host.steps) ∨
        ∃ registration step, (q.make d).1 = .ok registration ∧
          (q.make d).2.host.steps = d.host.steps ++ [step] ∧ q.ServedBy step) := by
  cases hr : (q.make d).1 with
  | error failure =>
    obtain ⟨types, hends⟩ := q.make_ends d
    rw [hr] at hends
    have hhost : (q.make d).2.host.Coherent ∧ (q.make d).2.host.steps = d.host.steps := by
      cases hends with
      | mismatched _ hh =>
        rw [hh]
        exact ⟨hc, rfl⟩
      | stopped _ _ hh _ _ => exact ⟨hc.defineTypes hh, Standalone.steps_of_defineTypes hh⟩
      | rejected _ hh _ => exact ⟨hc.defineTypes hh, Standalone.steps_of_defineTypes hh⟩
    exact ⟨hhost.1, .inl ⟨failure, rfl, hhost.2⟩⟩
  | ok registration =>
    obtain ⟨hcoherent, _, types, step, -, -, -, hsteps, hserves⟩ := taken_of_ok hc (hn d.drawn) hr
    exact ⟨hcoherent, .inr ⟨registration, step, rfl, hsteps, hserves⟩⟩

/-- A request that succeeds at a new desk leaves one step, which serves it. -/
theorem serves_make_of_ok {q : Request H} (hn : q.Named) {registration : Registration}
    (hr : (q.make (newDesk : Desk (Standalone H))).1 = .ok registration) :
    ∃ step, (q.make (newDesk : Desk (Standalone H))).2.host.steps = [step] ∧ q.ServedBy step := by
  rcases (make_cases (d := newDesk) Standalone.coherent_empty hn).2 with
    ⟨failure, hfail, -⟩ | ⟨_, step, -, hsteps, hserves⟩
  · rw [hr] at hfail
    cases hfail
  · exact ⟨step, hsteps, hserves⟩

/-- Every placeholder of the phrase that has a definition has one of the four kinds. -/
def Supported (q : Request H) : Prop :=
  ∀ name ∈ Phrase.definedNames q.phrase, ∀ value, q.definitions.find? name ≠ some (.unknown value)

/-- A request succeeds if its definitions go with its phrase and its unique names are new. -/
theorem make_eq_ok {q : Request H} {d : Desk (Standalone H)} (hc : d.host.Coherent)
    (htoken : Phrase.IsName (q.registrar.tokens d.drawn)) {events : List Event}
    (hcheck : Registrar.check q.registrar.settings q.phrase q.definitions = .ok events)
    (hs : q.Supported)
    (hnew : ∀ p ∈ q.registrar.holders q.phrase d, p.uniqueName ∉ d.host.types.names) :
    ∃ registration, (q.make d).1 = .ok registration := by
  obtain ⟨types, hends⟩ := q.make_ends d
  cases hr : (q.make d).1 with
  | ok registration => exact ⟨registration, rfl⟩
  | error failure =>
    exfalso
    rw [hr] at hends
    cases hends with
    | mismatched h _ =>
      rw [hcheck] at h
      cases h
    | @stopped left right p _ _ h ht hh _ hf =>
      have hp : p ∈ q.registrar.holders q.phrase d := by
        rw [h]
        simp
      have hname := (Phrase.mem_placeholders hp).2.1
      obtain ⟨definition, hfind⟩ :=
        Option.ne_none_iff_exists'.mp (Registrar.defined_of_check hcheck hname)
      refine Standalone.not_obstacle h ht hh ⟨definition, hfind, ?_⟩ (hnew p hp) failure hf
      rintro value rfl
      exact hs p.name hname value hfind
    | rejected ht hh hf =>
      obtain ⟨step, reports, hstep, -⟩ := Standalone.defineStep_serves hc htoken ht hh q.handler
      rw [hstep] at hf
      cases hf

/-- A request succeeds at a new desk if its definitions go with its phrase and are such. -/
theorem make_newDesk {q : Request H} (hn : q.Named)
    (hd : ∀ name ∈ Phrase.definedNames q.phrase, ∃ definition,
      q.definitions.find? name = some definition ∧ ∀ value, definition ≠ .unknown value)
    (hu : Registrar.unused q.phrase q.definitions = [] ∨ q.registrar.settings.allowUnused = true) :
    ∃ registration, (q.make (newDesk : Desk (Standalone H))).1 = .ok registration := by
  have hdefined : ∀ name ∈ Phrase.definedNames q.phrase, q.definitions.find? name ≠ none := by
    intro name hname
    obtain ⟨definition, hf, -⟩ := hd name hname
    rw [hf]
    exact Option.some_ne_none definition
  have hsupported : q.Supported := by
    intro name hname value hfind
    obtain ⟨definition, hf, hknown⟩ := hd name hname
    rw [hf] at hfind
    exact hknown value (Option.some.inj hfind)
  obtain ⟨events, hcheck⟩ := Registrar.check_eq_ok hdefined hu
  exact make_eq_ok Standalone.coherent_empty (hn 0) hcheck hsupported
    fun _ _ => List.not_mem_nil

/-- The steps that requests add serve those of them that succeed, in their order. -/
theorem steps_after {requests : List (Request H)} {d : Desk (Standalone H)}
    (hc : d.host.Coherent) (hn : ∀ q ∈ requests, q.Named) :
    ∃ added, (after requests d).host.steps = d.host.steps ++ added ∧
      List.Forall₂ ServedBy (succeeded requests d) added := by
  induction requests generalizing d with
  | nil => exact ⟨[], (List.append_nil _).symm, .nil⟩
  | cons q rest ih =>
    obtain ⟨hcoherent, hcases⟩ := make_cases hc (hn q (by simp))
    obtain ⟨added, hsteps, hserved⟩ := ih hcoherent fun p hp => hn p (List.mem_cons_of_mem _ hp)
    rcases hcases with ⟨failure, hr, hsame⟩ | ⟨registration, step, hr, hmore, hserves⟩
    · refine ⟨added, ?_, ?_⟩
      · rw [after, hsteps, hsame]
      · simpa only [succeeded, hr] using hserved
    · refine ⟨step :: added, ?_, ?_⟩
      · rw [after, hsteps, hmore, List.append_assoc, List.singleton_append]
      · simp only [succeeded, hr]
        exact .cons hserves hserved

/-- The steps of a host that was new serve the requests that succeeded, in their order. -/
theorem servedBy_steps {requests : List (Request H)} (hn : ∀ q ∈ requests, q.Named) :
    List.Forall₂ ServedBy (succeeded requests (newDesk : Desk (Standalone H)))
      (after requests (newDesk : Desk (Standalone H))).host.steps := by
  obtain ⟨added, hsteps, hserved⟩ := steps_after (d := newDesk) Standalone.coherent_empty hn
  have hnil : (newDesk : Desk (Standalone H)).host.steps ++ added = added := rfl
  rwa [hsteps, hnil]

end Request

end Phrasebook
