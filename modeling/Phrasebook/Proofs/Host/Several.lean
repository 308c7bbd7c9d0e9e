import Phrasebook.Proofs.Calls
import Phrasebook.Proofs.Host.Shared

/-!
# Several hosts of one registry

Hosts may be made at any time, and each hands its types and steps to the registry that all share.
A type can be replaced there, by the same host or by another; but whatever stands in the registry is
a built-in type under its own name, or a parameter type whose conversion is deferring, and every
step has resolved its fields from such types.
-/

namespace Phrasebook

open Phrase (namesIn)

variable {H : Type}

/-- A registry, the type names that each of its hosts knows, and how many tokens have been drawn. -/
structure Hosts (H : Type) where
  registry : StepRegistry H
  known : List (List Text)
  drawn : Nat

namespace Hosts

def none : Hosts H := ⟨.empty, [], 0⟩

/-- What may happen to a registry. -/
inductive Move (H : Type) where
  | newHost
  /-- A call of the host in some place. -/
  | on (place : Nat) (call : Call H)

def Move.Tells (P : ParameterType → Prop) : Move H → Prop
  | newHost => True
  | on _ call => call.Tells P

def deskOf (hosts : Hosts H) (known : List Text) : Desk (SharedHost H) :=
  ⟨⟨hosts.registry, known⟩, hosts.drawn, []⟩

def make : Move H → Hosts H → Outcome (Hosts H) Unit
  | .newHost, hosts =>
    let host := SharedHost.on hosts.registry
    (.ok (), { hosts with registry := host.registry, known := hosts.known ++ [host.known] })
  | .on place call, hosts =>
    match hosts.known[place]? with
    | .none => (.ok (), hosts)
    | .some known =>
      let (result, d) := call.make (hosts.deskOf known)
      (result, ⟨d.host.registry, hosts.known.set place d.host.known, d.drawn⟩)

def after : List (Move H) → Hosts H → Hosts H
  | [], hosts => hosts
  | move :: rest, hosts => after rest (hosts.make move).2

theorem after_append (moves more : List (Move H)) (hosts : Hosts H) :
    hosts.after (moves ++ more) = (hosts.after moves).after more := by
  induction moves generalizing hosts with
  | nil => rfl
  | cons move moves ih => exact ih (hosts.make move).2

end Hosts

/-- A built-in type under its own name, or one of some parameter types whose conversion defers its
failures. -/
inductive HandedOn (P : ParameterType → Prop) (name : Text) (type : FieldType Argument) : Prop
  | builtIn {b : BuiltIn} (hn : name = TypeName.ofBuiltIn b)
      (ht : type = b.fieldType.handedOn Argument.raising)
  | defined {t : ParameterType} (hp : P t) (hn : name = TypeName.ofName t.name)
      (ht : type = t.fieldType.handedOn Argument.deferring)

/-- The step has resolved its fields from types that were handed on, and can read the empty text. -/
def SharedStep.Resolved (P : ParameterType → Prop) (step : SharedStep H) : Prop :=
  ∃ types ps, (∀ name ∈ namesIn ps, HandedOn P (TypeName.ofName name) (types (TypeName.ofName name))) ∧
    step.template = .ofFormat types (ps.flatMap Format.written) ∧ ∃ found, step.read [] = .ok found

structure StepRegistry.Handed (P : ParameterType → Prop) (r : StepRegistry H) : Prop where
  types : ∀ name type, r.types.find? name = some type → HandedOn P name type
  steps : ∀ step ∈ r.steps, step.Resolved P

def StepRegistry.HasAll (r : StepRegistry H) (known : List Text) : Prop :=
  ∀ name ∈ known, r.types.has name = true

def StepRegistry.Extends (r base : StepRegistry H) : Prop :=
  ∀ name, base.types.has name = true → r.types.has name = true

theorem StepRegistry.HasAll.mono {r base : StepRegistry H} {known : List Text}
    (h : base.HasAll known) (he : r.Extends base) : r.HasAll known := fun name hn => he name (h name hn)

namespace StepRegistry

variable {P : ParameterType → Prop} {r : StepRegistry H}

theorem Handed.putType (hr : r.Handed P) {name : Text} {type : FieldType Argument}
    (h : HandedOn P name type) : (r.putType name type).Handed P := by
  refine ⟨fun other found hf => ?_, hr.steps⟩
  rw [StepRegistry.putType, Table.find?_put] at hf
  split at hf
  · next he =>
    cases hf
    exact he ▸ h
  · exact hr.types other found hf

theorem extends_putType (r : StepRegistry H) (name : Text) (type : FieldType Argument) :
    (r.putType name type).Extends r := fun _ h => Table.has_put type (.inl h)

/-- Some built-in types are put in their places. -/
theorem Handed.putEach (hr : r.Handed P) (bs : List BuiltIn) :
    let after := (bs.map fun b => (TypeName.ofBuiltIn b, b.fieldType)).foldl (fun r entry =>
      r.putType entry.1 (entry.2.handedOn Argument.raising)) r
    after.Handed P ∧ (∀ b ∈ bs, after.types.has (TypeName.ofBuiltIn b) = true) ∧ after.Extends r := by
  induction bs generalizing r with
  | nil => exact ⟨hr, fun b hb => absurd hb List.not_mem_nil, fun _ h => h⟩
  | cons b bs ih =>
    have hput := hr.putType (.builtIn rfl rfl : HandedOn P (TypeName.ofBuiltIn b)
      (b.fieldType.handedOn Argument.raising))
    obtain ⟨hhanded, hhas, hextends⟩ := ih hput
    refine ⟨hhanded, fun c hc => ?_, fun name h => hextends name (extends_putType r _ _ name h)⟩
    cases List.mem_cons.mp hc with
    | inl he => exact he ▸ hextends _ (Table.has_put _ (.inr rfl))
    | inr hm => exact hhas c hm

/-- A new host puts the built-in types in their places. -/
theorem Handed.putBuiltIns (hr : r.Handed P) :
    r.putBuiltIns.Handed P ∧ r.putBuiltIns.HasAll builtInTypes.names ∧ r.putBuiltIns.Extends r := by
  obtain ⟨hhanded, hhas, hextends⟩ := hr.putEach BuiltIn.all
  refine ⟨hhanded, fun name hn => ?_, hextends⟩
  obtain ⟨entry, he, rfl⟩ := List.mem_map.mp hn
  obtain ⟨b, hb, rfl⟩ := List.mem_map.mp he
  exact hhas b hb

/-- Adding a step leaves the types alone, and adds a step that can read the empty text, if any. -/
theorem steps_of_addStep {after : StepRegistry H} {step : SharedStep H}
    (h : r.addStep step = .ok after) :
    after.types = r.types ∧
      (after.steps = r.steps ∨
        after.steps = r.steps ++ [step] ∧ ∃ found, step.read [] = .ok found) := by
  cases hread : step.read [] with
  | error failure =>
    rw [addStep, hread] at h
    cases h
    exact ⟨rfl, .inl rfl⟩
  | ok found =>
    rcases addStep_cases hread h with rfl | ⟨rfl, -⟩
    · exact ⟨rfl, .inr ⟨rfl, found, rfl⟩⟩
    · exact ⟨rfl, .inl rfl⟩

end StepRegistry

namespace SharedHost

variable {P : ParameterType → Prop}

/-- The registry of a host has what the host knows, and at least what another has. -/
structure Sound (P : ParameterType → Prop) (base : StepRegistry H) (h : SharedHost H) : Prop where
  handed : h.registry.Handed P
  known : h.registry.HasAll h.known
  kept : h.registry.Extends base

theorem Sound.defineType {base : StepRegistry H} {h next : SharedHost H} {t : ParameterType} (hp : P t)
    (hs : Sound P base h) (hd : StepHost.defineType t h = .ok next) : Sound P base next := by
  cases hd
  refine ⟨hs.handed.putType (.defined hp rfl rfl), fun name hn => ?_,
    fun name hb => StepRegistry.extends_putType _ _ _ name (hs.kept name hb)⟩
  refine Table.has_put _ ?_
  simp only [SharedHost.defineType] at hn
  split at hn
  · exact .inl (hs.known name hn)
  · cases List.mem_append.mp hn with
    | inl hold => exact .inl (hs.known name hold)
    | inr hnew => exact .inr (List.mem_singleton.mp hnew).symm

/-- What a host knows has been handed on. -/
theorem Sound.handedOn {base : StepRegistry H} {h : SharedHost H} (hs : Sound P base h) {type : Text}
    (hk : h.known.contains type = true) : HandedOn P type (h.registry.fieldType type) := by
  obtain ⟨found, ht⟩ := Option.isSome_iff_exists.mp (hs.known _ (List.contains_iff_mem.mp hk))
  rw [StepRegistry.fieldType, ht, Option.getD_some]
  exact hs.handed.types _ found ht

theorem Sound.defineStep {base : StepRegistry H} {h next : SharedHost H} {expression : Text}
    {handler : H} {events : List Event} (hs : Sound P base h)
    (hd : StepHost.defineStep expression handler h = .ok (next, events)) : Sound P base next := by
  obtain ⟨format, registry, hf, hadd, rfl⟩ := exists_of_defineStep hd
  obtain ⟨htypes, hsteps⟩ := StepRegistry.steps_of_addStep hadd
  have hk := Format.known_of_ofPieces hf
  rw [Format.ofExpression, Format.ofPieces_eq hk] at hf
  cases hf
  refine ⟨⟨fun name type ht => hs.handed.types name type (htypes ▸ ht), fun step hm => ?_⟩,
    fun name hn => ?_, fun name hb => ?_⟩
  · rcases hsteps with hsame | ⟨hmore, hread⟩
    · exact hs.handed.steps step (hsame ▸ hm)
    · rw [hmore] at hm
      cases List.mem_append.mp hm with
      | inl hold => exact hs.handed.steps step hold
      | inr hnew =>
        rw [List.mem_singleton.mp hnew]
        exact ⟨h.registry.fieldType, _, fun name hn => hs.handedOn (hk name hn), rfl, hread⟩
  · rw [htypes]
    exact hs.known name hn
  · rw [htypes]
    exact hs.kept name hb

variable {base : StepRegistry H}

theorem Sound.on (hr : base.Handed P) : (on base).Sound P base :=
  ⟨hr.putBuiltIns.1, hr.putBuiltIns.2.1, hr.putBuiltIns.2.2⟩

theorem Sound.make {d : Desk (SharedHost H)} (hs : d.host.Sound P base) {call : Call H}
    (hc : call.Tells P) : (call.make d).2.host.Sound P base :=
  Call.of_make (fun _ _ _ hp hs hd => hs.defineType hp hd) (fun _ _ _ _ _ hs hd => hs.defineStep hd)
    hc hs

end SharedHost

namespace Hosts

variable {P : ParameterType → Prop} {hosts : Hosts H}

/-- Everything in the registry has been handed on, and it has all types that any host knows. -/
structure Sound (P : ParameterType → Prop) (hosts : Hosts H) : Prop where
  handed : hosts.registry.Handed P
  known : ∀ known ∈ hosts.known, hosts.registry.HasAll known

theorem sound_none : Sound P (none : Hosts H) :=
  ⟨⟨fun _ _ hf => (by cases hf), fun _ hs => absurd hs List.not_mem_nil⟩,
    fun _ hk => absurd hk List.not_mem_nil⟩

theorem Sound.newHost (hs : hosts.Sound P) : (hosts.make .newHost).2.Sound P := by
  obtain ⟨hhanded, hhas, hextends⟩ := hs.handed.putBuiltIns
  refine ⟨hhanded, fun known hk => ?_⟩
  cases List.mem_append.mp hk with
  | inl hold => exact (hs.known known hold).mono hextends
  | inr hnew =>
    rw [List.mem_singleton.mp hnew]
    exact hhas

/-- A call, whether it succeeds or fails, leaves the registry with types for all hosts. -/
theorem Sound.on (hs : hosts.Sound P) (place : Nat) {call : Call H} (hc : call.Tells P) :
    (hosts.make (.on place call)).2.Sound P := by
  rw [make]
  split
  · exact hs
  · next known hk =>
    have hmem : known ∈ hosts.known := List.mem_of_getElem? hk
    have hstart : (hosts.deskOf known).host.Sound P hosts.registry :=
      ⟨hs.handed, hs.known known hmem, fun _ h => h⟩
    have hafter := hstart.make hc
    refine ⟨hafter.handed, fun other ho => ?_⟩
    rcases List.mem_or_eq_of_mem_set ho with hold | rfl
    · exact (hs.known other hold).mono hafter.kept
    · exact hafter.known

/-- In every state of the registry that hosts can lead to, everything in it has been handed on. -/
theorem Sound.after {moves : List (Move H)} (hs : hosts.Sound P) (hm : ∀ move ∈ moves, move.Tells P) :
    (hosts.after moves).Sound P := by
  induction moves generalizing hosts with
  | nil => exact hs
  | cons move rest ih =>
    refine ih ?_ fun other ho => hm other (List.mem_cons_of_mem _ ho)
    cases move with
    | newHost => exact hs.newHost
    | on place call => exact hs.on place (hm (.on place call) (by simp))

end Hosts

end Phrasebook
