import Mathlib.Data.List.Induction
import Phrasebook.Proofs.Host.Several

/-!
# Steps last

A type of a shared registry can be replaced at any time, by any host, and nothing checks who uses it.
But a step has taken what it needs from the types as they stood when it was defined. Whatever hosts
are made, told or asked later, the step stays in its place and reads every text as before, and a text
that has found a step finds the same one, with the same values.
-/

namespace Phrasebook

variable {H : Type}

namespace StepRegistry

/-- The registry has the steps of another and at most one more, which has resolved its format from
the types as they are now. -/
inductive Grows (before after : StepRegistry H) : Prop
  | same (hs : after.steps = before.steps)
  | added {step : SharedStep H} (hs : after.steps = before.steps ++ [step])
      (ht : step.template = .ofFormat after.fieldType step.template.format)

theorem Grows.steps {before after : StepRegistry H} (h : before.Grows after) :
    before.steps <+: after.steps := by
  cases h with
  | same hs => exact hs ▸ List.prefix_refl _
  | added hs _ => exact hs ▸ List.prefix_append _ _

theorem grows_addStep {r after : StepRegistry H} {format : Text} {handler : H}
    (h : r.addStep ⟨.ofFormat r.fieldType format, handler⟩ = .ok after) : r.Grows after := by
  obtain ⟨htypes, hsteps⟩ := steps_of_addStep h
  have hresolved : after.fieldType = r.fieldType := by
    funext type
    rw [fieldType, fieldType, htypes]
  rcases hsteps with hsame | ⟨hmore, -⟩
  · exact .same hsame
  · refine .added hmore ?_
    rw [hresolved]
    rfl

instance : (found : Found H) → Decidable (found = .nothing)
  | .nothing => .isTrue rfl
  | .step _ _ | .unreadable _ => .isFalse nofun

/-- What the first steps have found, more steps do not change. -/
theorem firstOf_extended {text : Text} {steps more : List (SharedStep H)} (hp : steps <+: more)
    (h : firstOf text steps ≠ .nothing) : firstOf text more = firstOf text steps := by
  obtain ⟨added, rfl⟩ := hp
  rw [firstOf_append]
  split
  · next hnone => exact absurd hnone h
  · rfl

end StepRegistry

/-- A call of a host, whether it succeeds or fails, adds at most one step, after it has handed on all
its types. -/
theorem Call.grows_make (call : Call H) (d : Desk (SharedHost H)) :
    d.host.registry.Grows (call.make d).2.host.registry := by
  cases leaves_make call.tells_true d with
  | @types types _ ht =>
    rw [SharedHost.defineTypes_eq] at ht
    rw [← Except.ok.inj ht]
    exact .same rfl
  | @step types next expression handler events _ ht hs =>
    rw [SharedHost.defineTypes_eq] at ht
    cases ht
    obtain ⟨format, registry, -, hadd, hafter⟩ := SharedHost.exists_of_defineStep hs
    rw [hafter]
    cases StepRegistry.grows_addStep hadd with
    | same hsteps => exact .same hsteps
    | added hsteps htemplate => exact .added hsteps htemplate

namespace Hosts

theorem grows_make (move : Move H) (hosts : Hosts H) :
    hosts.registry.Grows (hosts.make move).2.registry := by
  cases move with
  | newHost => exact .same rfl
  | on place call =>
    rw [make]
    split
    · exact .same rfl
    · next known _ => exact call.grows_make (hosts.deskOf known)

/-- Steps are only added. -/
theorem steps_after (moves : List (Move H)) (hosts : Hosts H) :
    hosts.registry.steps <+: (hosts.after moves).registry.steps := by
  induction moves generalizing hosts with
  | nil => exact List.prefix_refl _
  | cons move moves ih => exact (grows_make move hosts).steps.trans (ih (hosts.make move).2)

/-- After the first of these moves the step was the last one, and its template is what its format was
made into by the types of that time. -/
structure DefinedBy (before : List (Move H)) (place : Nat) (step : SharedStep H) : Prop where
  last : (none.after before).registry.steps.length = place + 1
  stands : (none.after before).registry.steps[place]? = some step
  resolved : step.template = .ofFormat (none.after before).registry.fieldType step.template.format

/-- For every step there is a time when it was defined. The induction is on the moves from the last
one back, which has added the step unless it was there before. -/
theorem exists_definedBy {moves : List (Move H)} {place : Nat} {step : SharedStep H}
    (h : (none.after moves).registry.steps[place]? = some step) :
    ∃ before since, moves = before ++ since ∧ DefinedBy before place step := by
  induction moves using List.reverseRecOn with
  | nil => cases h
  | append_singleton moves move ih =>
    have hlast : none.after (moves ++ [move]) = ((none.after moves).make move).2 :=
      after_append moves [move] none
    by_cases hold : (none.after moves).registry.steps[place]? = some step
    · obtain ⟨before, since, rfl, hdefined⟩ := ih hold
      exact ⟨before, since ++ [move], List.append_assoc _ _ _, hdefined⟩
    · refine ⟨moves ++ [move], [], (List.append_nil _).symm, ?_⟩
      cases grows_make move (none.after moves) with
      | same hs =>
        rw [hlast, hs] at h
        exact absurd h hold
      | @added added hs ht =>
        rw [hlast, hs] at h
        have hplace : place = (none.after moves).registry.steps.length := by
          have hlt := (List.getElem?_eq_some_iff.mp h).1
          rw [List.length_append, List.length_singleton] at hlt
          by_contra hne
          rw [List.getElem?_append_left (by omega)] at h
          exact hold h
        have hstep : added = step := by
          rw [hplace, List.getElem?_concat_length] at h
          exact Option.some.inj h
        subst hstep
        rw [hplace]
        constructor
        · rw [hlast, hs, List.length_append, List.length_singleton]
        · rw [hlast, hs, List.getElem?_concat_length]
        · rw [hlast]
          exact ht

/-- A step that is registered stays in its place whatever hosts do later, with the template that it
was given by the types of the time when it was defined. So it reads every text as it always has. And
where the search for a text has come to something, it comes to the same, and calls of any host give
the same values. -/
theorem step_lasts (moves later : List (Move H)) :
    (∀ place step, (none.after moves).registry.steps[place]? = some step →
        (none.after (moves ++ later)).registry.steps[place]? = some step ∧
          ∃ before since, moves = before ++ since ∧ DefinedBy before place step) ∧
      ∀ text, (none.after moves).registry.find text ≠ .nothing →
        (none.after (moves ++ later)).registry.find text = (none.after moves).registry.find text ∧
          ∀ known known', ((none.after (moves ++ later)).deskOf known').host.call text =
            ((none.after moves).deskOf known).host.call text := by
  have hsteps : (none.after moves).registry.steps <+:
      (none.after (moves ++ later)).registry.steps := by
    rw [after_append]
    exact steps_after later (none.after moves)
  refine ⟨fun place step h => ⟨?_, exists_definedBy h⟩, fun text h => ?_⟩
  · obtain ⟨added, he⟩ := hsteps
    rw [← he, List.getElem?_append_left (List.getElem?_eq_some_iff.mp h).1]
    exact h
  · have hfind := StepRegistry.firstOf_extended hsteps h
    refine ⟨hfind, fun known known' => ?_⟩
    rw [SharedHost.call, SharedHost.call]
    simp only [deskOf, StepRegistry.find, hfind]

def drink : Text := ['d', 'r', 'i', 'n', 'k']

def served : List (Move Unit) :=
  [.newHost, .on 0 (.defineType ⟨drink, ['t', 'e', 'a'], .none, .ok⟩),
    .on 0 (.defineStep (Phrase.braced drink ++ ['!']) ())]

/-- Another host puts a type in the place of that one, which takes other texts and converts none of
them, and both define steps with it. -/
def replacing : List (Move Unit) :=
  [.newHost,
    .on 1 (.defineType ⟨drink, ['m', 'i', 'l', 'k'], .none, fun value => .error (.rejected value)⟩),
    .on 1 (.defineStep (Phrase.braced drink) ()), .on 0 (.defineStep ('a' :: Phrase.braced drink) ())]

/-- The type is replaced, and what is ordered stays what it was. -/
theorem step_lasts_tea :
    (∃ step, (none.after served).registry.steps[0]? = some step ∧
        (none.after (served ++ replacing)).registry.steps[0]? = some step) ∧
      ((none.after served).registry.fieldType drink).pattern = "(?:tea)".toList ∧
      ((none.after (served ++ replacing)).registry.fieldType drink).pattern = "(?:milk)".toList ∧
      (none.after served).registry.find "tea!".toList ≠ .nothing ∧
      (none.after (served ++ replacing)).registry.find "tea!".toList =
        (none.after served).registry.find "tea!".toList := by
  obtain ⟨hsteps, hfind⟩ := step_lasts served replacing
  have hlength : (none.after served).registry.steps.length = 1 := by decide +kernel
  obtain ⟨step, hone⟩ := List.length_eq_one_iff.mp hlength
  have hstands : (none.after served).registry.steps[0]? = some step := by rw [hone]; rfl
  have hfound : (none.after served).registry.find "tea!".toList ≠ .nothing := by decide +kernel
  exact ⟨⟨step, hstands, (hsteps 0 step hstands).1⟩, by decide +kernel, by decide +kernel, hfound,
    (hfind _ hfound).1⟩

end Hosts

end Phrasebook
