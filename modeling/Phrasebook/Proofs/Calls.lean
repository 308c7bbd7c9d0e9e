import Phrasebook.Proofs.Requests

/-!
# Calls of all kinds

A host may be told of a parameter type or of a step directly, or a phrase may be registered with it.
Whatever the call, and whether it succeeds or fails, the host has been told some types and then at
most one step. So what neither a type nor a step spoils holds after all calls.
-/

namespace Phrasebook

/-- What a host may be asked for. -/
inductive Call (H : Type) where
  | defineType (type : ParameterType)
  | defineStep (expression : Text) (handler : H)
  | register (request : Request H)

namespace Call

variable {σ H : Type}

def Direct : Call H → Prop
  | defineType _ => True
  | defineStep _ _ => True
  | register _ => False

/-- All parameter types that the host may be told of are such. -/
def Tells (P : ParameterType → Prop) : Call H → Prop
  | defineType type => P type
  | defineStep _ _ => True
  | register q => ∀ separator token p type, p ∈ Phrase.placeholders separator token q.phrase →
      Registrar.Gives q.definitions p type → P type

theorem tells_true (call : Call H) : call.Tells fun _ => True := by
  cases call with
  | defineType type => trivial
  | defineStep expression handler => trivial
  | register q => exact fun _ _ _ _ _ _ => trivial

variable [StepHost σ H]

def make : Call H → Desk σ → Outcome (Desk σ) Unit
  | defineType type, d =>
    match StepHost.defineType type d.host with
    | .error failure => (.error failure, d)
    | .ok host => (.ok (), { d with host })
  | defineStep expression handler, d => Registrar.defineExpression expression handler d
  | register q, d => ((q.make d).1.map fun _ => (), (q.make d).2)

def after : List (Call H) → Desk σ → Desk σ
  | [], d => d
  | call :: rest, d => after rest (call.make d).2

theorem after_append (calls more : List (Call H)) (d : Desk σ) :
    after (calls ++ more) d = after more (after calls d) := by
  induction calls generalizing d with
  | nil => rfl
  | cons call calls ih => exact ih (call.make d).2

/-- A direct call that fails changes nothing. -/
theorem desk_of_failed {call : Call H} (hc : call.Direct) {d : Desk σ} {failure : Failure}
    (h : (call.make d).1 = .error failure) : (call.make d).2 = d := by
  cases call with
  | defineType type =>
    rw [make] at h ⊢
    split at h
    · rfl
    · cases h
  | defineStep expression handler =>
    rw [make, Registrar.defineExpression] at h ⊢
    split at h
    · rfl
    · cases h
  | register q => exact hc.elim

/-- What a call does to the host: types are defined, and at most one step after them. -/
inductive Leaves (P : ParameterType → Prop) (host after : σ) : Prop
  | types {types : List ParameterType} (hp : ∀ type ∈ types, P type)
      (ht : Registrar.defineTypes types host = .ok after) : Leaves P host after
  | step {types : List ParameterType} {next : σ} {expression : Text} {handler : H}
      {events : List Event} (hp : ∀ type ∈ types, P type)
      (ht : Registrar.defineTypes types host = .ok next)
      (hs : StepHost.defineStep expression handler next = .ok (after, events)) : Leaves P host after

theorem Leaves.refl (P : ParameterType → Prop) (host : σ) : Leaves P host host :=
  .types (fun _ h => absurd h List.not_mem_nil)
    (show Registrar.defineTypes [] host = .ok host from rfl)

theorem leaves_make {P : ParameterType → Prop} {call : Call H} (hc : call.Tells P) (d : Desk σ) :
    Leaves P d.host (call.make d).2.host := by
  cases call with
  | defineType type =>
    rw [make]
    split
    · exact .refl P d.host
    · next host ht =>
      have hone : Registrar.defineTypes [type] d.host = .ok host := by
        rw [Registrar.defineTypes, ht]
        rfl
      exact .types (fun t hm => List.mem_singleton.mp hm ▸ hc) hone
  | defineStep expression handler =>
    rw [make, Registrar.defineExpression]
    split
    · exact .refl P d.host
    · next host events hs =>
      have hnone : Registrar.defineTypes [] d.host = .ok d.host := rfl
      exact .step (fun _ h => absurd h List.not_mem_nil) hnone hs
  | register q =>
    obtain ⟨types, hends⟩ := q.make_ends d
    have hp : ∀ type ∈ types, P type := by
      intro type hm
      obtain ⟨p, hh, hg⟩ := hends.exists_holder hm
      exact hc _ _ p type hh hg
    rcases hends.told with ht | ⟨next, events, ht, hs⟩
    · exact .types hp ht
    · exact .step hp ht hs

def reached (calls : List (Call H)) : Desk (Standalone H) := after calls Request.newDesk

variable {P : ParameterType → Prop} {Q : σ → Prop}

/-- What neither a type nor a step spoils holds after a call, whether it succeeds or fails. -/
theorem of_make
    (htype : ∀ type host next, P type → Q host → StepHost.defineType type host = .ok next → Q next)
    (hstep : ∀ expression handler host next events, Q host →
      StepHost.defineStep expression handler host = .ok (next, events) → Q next)
    {call : Call H} (hc : call.Tells P) {d : Desk σ} (hq : Q d.host) : Q (call.make d).2.host := by
  cases leaves_make hc d with
  | types hp ht => exact Registrar.of_defineTypes htype hp hq ht
  | step hp ht hs => exact hstep _ _ _ _ _ (Registrar.of_defineTypes htype hp hq ht) hs

/-- What neither a type nor a step spoils holds after all calls. -/
theorem of_after
    (htype : ∀ type host next, P type → Q host → StepHost.defineType type host = .ok next → Q next)
    (hstep : ∀ expression handler host next events, Q host →
      StepHost.defineStep expression handler host = .ok (next, events) → Q next)
    {calls : List (Call H)} (hc : ∀ call ∈ calls, call.Tells P) {d : Desk σ} (hq : Q d.host) :
    Q (after calls d).host := by
  induction calls generalizing d with
  | nil => exact hq
  | cons call calls ih =>
    exact ih (fun c hm => hc c (List.mem_cons_of_mem _ hm)) (of_make htype hstep (hc call (by simp)) hq)

end Call

end Phrasebook
