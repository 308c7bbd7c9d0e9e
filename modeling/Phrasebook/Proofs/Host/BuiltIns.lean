import Mathlib.Data.List.Induction
import Phrasebook.Proofs.Host.Several
import Phrasebook.Proofs.Host.Sound
import Phrasebook.Proofs.Template.HandedOn

/-!
# Built-in types in a shared registry

A new host puts the built-in types in their places. Nothing that a registration tells the registry
takes such a place, but a host may be told of a type under the very name of a built-in one, and hands
it on: from then until the next host is made, the placeholder means that type, for all hosts.
Wherever no host has been told of one, a step with built-in placeholders reads every text as a
standalone host would.
-/

namespace Phrasebook

variable {H : Type}

theorem BuiltIn.ofName?_name (b : BuiltIn) : ofName? b.name = some b := by cases b <;> rfl

theorem BuiltIn.name_injective {b c : BuiltIn} (h : b.name = c.name) : b = c := by
  have hfind := congrArg ofName? h
  rw [ofName?_name, ofName?_name] at hfind
  exact Option.some.inj hfind

theorem BuiltIn.mem_all (b : BuiltIn) : b ∈ all := by cases b <;> decide

theorem Call.tells_of_not_told {b : BuiltIn} {call : Call H}
    (h : ∀ t, call = .defineType t → t.name ≠ b.name) : call.Tells fun t => t.name ≠ b.name := by
  cases call with
  | defineType t => exact h t rfl
  | defineStep expression handler => trivial
  | register q =>
    intro separator token p t hp hg he
    obtain ⟨-, -, index, hu⟩ := Phrase.mem_placeholders hp
    have hfresh := Phrase.isBuiltIn_uniqueName separator token p.name index
    rw [← hu, ← Registrar.name_of_gives hg, he, Phrase.isBuiltIn_iff.mpr ⟨b, rfl⟩] at hfresh
    cases hfresh

namespace StepRegistry

def at? (r : StepRegistry H) (b : BuiltIn) : Option (FieldType Argument) :=
  r.types.find? (TypeName.ofBuiltIn b)

/-- The built-in type, as a new host hands it on. -/
def Keeps (r : StepRegistry H) (b : BuiltIn) : Prop :=
  r.at? b = some (b.fieldType.handedOn Argument.raising)

theorem at?_putType (r : StepRegistry H) (name : Text) (type : FieldType Argument) (b : BuiltIn) :
    (r.putType (TypeName.ofName name) type).at? b = if name = b.name then some type else r.at? b := by
  rw [at?, putType, Table.find?_put, ← TypeName.ofName_builtIn]
  by_cases h : name = b.name
  · rw [if_pos h, if_pos (congrArg TypeName.ofName h)]
  · rw [if_neg h, if_neg fun he => h (TypeName.ofName_injective he), at?, TypeName.ofName_builtIn]

theorem at?_putEach (bs : List BuiltIn) (r : StepRegistry H) (b : BuiltIn) :
    ((bs.map fun b => (TypeName.ofBuiltIn b, b.fieldType)).foldl (fun r entry =>
        r.putType entry.1 (entry.2.handedOn Argument.raising)) r).at? b =
      if b ∈ bs then some (b.fieldType.handedOn Argument.raising) else r.at? b := by
  induction bs generalizing r with
  | nil => rfl
  | cons c bs ih =>
    rw [List.map_cons, List.foldl_cons, ih, ← TypeName.ofName_builtIn, at?_putType]
    by_cases hm : b ∈ bs
    · rw [if_pos hm, if_pos (List.mem_cons_of_mem c hm)]
    · rw [if_neg hm]
      by_cases he : c = b
      · rw [if_pos (congrArg BuiltIn.name he), if_pos (he ▸ List.mem_cons_self), he]
      · rw [if_neg fun hn => he (BuiltIn.name_injective hn), if_neg]
        exact fun hc => (List.mem_cons.mp hc).elim (fun h => he h.symm) hm

/-- A new host puts every built-in type in its place. -/
theorem keeps_putBuiltIns (r : StepRegistry H) (b : BuiltIn) : r.putBuiltIns.Keeps b :=
  (at?_putEach BuiltIn.all r b).trans (if_pos b.mem_all)

/-- A conversion that puts its failures off is not that of a built-in type, which fails where a group
took no part. Only words have no such conversion, but they have no group of their own either. -/
theorem not_keeps_of_deferring {r : StepRegistry H} {b : BuiltIn} {t : ParameterType}
    (h : r.at? b = some (t.fieldType.handedOn Argument.deferring)) : ¬ r.Keeps b := by
  intro hk
  have htype : t.fieldType.handedOn Argument.deferring = b.fieldType.handedOn Argument.raising :=
    Option.some.inj (h.symm.trans hk)
  have hconvert := congrFun (congrArg FieldType.convert htype) (.value .none)
  have hraises : ∀ {failure : Failure}, b.convert .none = .error failure → False := by
    intro failure hf
    refine Argument.deferring_ne_error t.transform (.value .none) failure (hconvert.trans ?_)
    change Argument.raising b.convert (.value .none) = _
    rw [Argument.raising_value, hf]
    rfl
  cases b with
  | int => exact hraises rfl
  | float => exact hraises rfl
  | string => exact hraises rfl
  | word =>
    have hhead : some '(' = some '[' := congrArg (List.head? ∘ FieldType.pattern) htype
    exact absurd hhead (by decide)

end StepRegistry

namespace Hosts

/-- A host that is there is told of the type directly, under the name of a built-in placeholder. -/
def Move.Replaces (b : BuiltIn) (t : ParameterType) (hosts : Hosts H) (move : Move H) : Prop :=
  ∃ place, move = .on place (.defineType t) ∧ place < hosts.known.length ∧ t.name = b.name

/-- A host was told of the type under the name of a built-in placeholder, and no host has been made
since. -/
def Replaced (b : BuiltIn) (t : ParameterType) (moves : List (Move H)) : Prop :=
  ∃ before move later, moves = before ++ move :: later ∧ move.Replaces b t (none.after before) ∧
    .newHost ∉ later

/-- A type under the name of a built-in placeholder takes its place. -/
theorem at?_of_replaces {b : BuiltIn} {t : ParameterType} {hosts : Hosts H} {move : Move H}
    (h : move.Replaces b t hosts) :
    (hosts.make move).2.registry.at? b = some (t.fieldType.handedOn Argument.deferring) := by
  obtain ⟨place, rfl, hplace, hname⟩ := h
  rw [make, List.getElem?_eq_getElem hplace]
  exact (StepRegistry.at?_putType _ t.name _ b).trans (if_pos hname)

/-- Nothing else takes the place of a built-in type. -/
theorem at?_of_not_replaces {b : BuiltIn} {hosts : Hosts H} {move : Move H} (hn : move ≠ .newHost)
    (h : ∀ t, ¬ move.Replaces b t hosts) :
    (hosts.make move).2.registry.at? b = hosts.registry.at? b := by
  cases move with
  | newHost => exact absurd rfl hn
  | on place call =>
    rw [make]
    split
    · rfl
    · next known hk =>
      have htells : call.Tells fun t => t.name ≠ b.name := by
        refine Call.tells_of_not_told fun t he hname => h t ⟨place, he ▸ rfl, ?_, hname⟩
        exact (List.getElem?_eq_some_iff.mp hk).1
      refine Call.of_make (Q := fun host : SharedHost H => host.registry.at? b = hosts.registry.at? b)
        (fun t host next ht hq hd => ?_) (fun expression handler host next events hq hd => ?_) htells rfl
      · cases hd
        exact ((StepRegistry.at?_putType _ t.name _ b).trans (if_neg ht)).trans hq
      · obtain ⟨format, registry, -, hadd, he⟩ := SharedHost.exists_of_defineStep hd
        rw [he, StepRegistry.at?, (StepRegistry.steps_of_addStep hadd).1]
        exact hq

theorem replaced_concat {b : BuiltIn} {t : ParameterType} {moves : List (Move H)} {move : Move H} :
    Replaced b t (moves ++ [move]) ↔
      move.Replaces b t (none.after moves) ∨ Replaced b t moves ∧ move ≠ .newHost := by
  constructor
  · rintro ⟨before, other, later, he, hr, hl⟩
    cases later using List.reverseRecOn with
    | nil =>
      obtain ⟨rfl, hlast⟩ := List.append_inj' he rfl
      cases hlast
      exact .inl hr
    | append_singleton later last =>
      rw [← List.cons_append, ← List.append_assoc] at he
      obtain ⟨rfl, hlast⟩ := List.append_inj' he rfl
      cases hlast
      refine .inr ⟨⟨before, other, later, rfl, hr, fun hm => hl (List.mem_append_left _ hm)⟩, ?_⟩
      exact fun hnew => hl (by simp [hnew])
  · rintro (hr | ⟨⟨before, other, later, rfl, hr, hl⟩, hnew⟩)
    · exact ⟨moves, move, [], rfl, hr, List.not_mem_nil⟩
    · refine ⟨before, other, later ++ [move], by simp, hr, fun hm => ?_⟩
      cases List.mem_append.mp hm with
      | inl hlater => exact hl hlater
      | inr hlast => exact hnew (List.mem_singleton.mp hlast).symm

/-- Once a host has been made, either all is as the last host made it or a type stands there that a
host was told of since. The induction is on the moves from the last one back. -/
theorem keeps_or_replaced (b : BuiltIn) {moves : List (Move H)} (hn : .newHost ∈ moves) :
    ((none.after moves).registry.Keeps b ∧ ∀ t, ¬ Replaced b t moves) ∨
      ∃ t, Replaced b t moves ∧
        (none.after moves).registry.at? b = some (t.fieldType.handedOn Argument.deferring) := by
  induction moves using List.reverseRecOn with
  | nil => cases hn
  | append_singleton moves move ih =>
    have hlast : none.after (moves ++ [move]) = ((none.after moves).make move).2 :=
      after_append moves [move] none
    rw [hlast]
    by_cases hnew : move = .newHost
    · subst hnew
      refine .inl ⟨StepRegistry.keeps_putBuiltIns _ b, fun t ht => ?_⟩
      rcases replaced_concat.mp ht with ⟨place, he, -⟩ | ⟨-, hne⟩
      · cases he
      · exact hne rfl
    · by_cases hr : ∃ t, move.Replaces b t (none.after moves)
      · obtain ⟨t, ht⟩ := hr
        exact .inr ⟨t, replaced_concat.mpr (.inl ht), at?_of_replaces ht⟩
      · have hnone : ∀ t, ¬ move.Replaces b t (none.after moves) := fun t ht => hr ⟨t, ht⟩
        have hbefore : .newHost ∈ moves :=
          (List.mem_append.mp hn).resolve_right fun hm => hnew (List.mem_singleton.mp hm).symm
        have hsame := at?_of_not_replaces hnew hnone
        rcases ih hbefore with ⟨hkept, hno⟩ | ⟨t, ht, hstands⟩
        · refine .inl ⟨hsame.trans hkept, fun t ht => ?_⟩
          rcases replaced_concat.mp ht with hrep | ⟨hrep, -⟩
          · exact hnone t hrep
          · exact hno t hrep
        · exact .inr ⟨t, replaced_concat.mpr (.inr ⟨ht, hnew⟩), hsame.trans hstands⟩

/-- A host knows the built-in types from the start, and forgets none. -/
theorem knows_make {hosts : Hosts H} (b : BuiltIn)
    (h : ∀ known ∈ hosts.known, TypeName.ofBuiltIn b ∈ known) (move : Move H) :
    ∀ known ∈ (hosts.make move).2.known, TypeName.ofBuiltIn b ∈ known := by
  intro known hm
  cases move with
  | newHost =>
    cases List.mem_append.mp hm with
    | inl hold => exact h known hold
    | inr hnew =>
      rw [List.mem_singleton.mp hnew]
      exact List.mem_map_of_mem (List.mem_map_of_mem b.mem_all)
  | on place call =>
    rw [make] at hm
    split at hm
    · exact h known hm
    · next old hk =>
      rcases List.mem_or_eq_of_mem_set hm with hold | rfl
      · exact h known hold
      · refine Call.of_make (P := fun _ => True) (Q := fun host : SharedHost H =>
          TypeName.ofBuiltIn b ∈ host.known) (fun t host next _ hq hd => ?_)
          (fun expression handler host next events hq hd => ?_) call.tells_true
          (h old (List.mem_of_getElem? hk))
        · cases hd
          rw [SharedHost.defineType]
          split
          · exact hq
          · exact List.mem_append_left _ hq
        · obtain ⟨format, registry, -, -, rfl⟩ := SharedHost.exists_of_defineStep hd
          exact hq

theorem knows_after (moves : List (Move H)) {hosts : Hosts H} (b : BuiltIn)
    (h : ∀ known ∈ hosts.known, TypeName.ofBuiltIn b ∈ known) :
    ∀ known ∈ (hosts.after moves).known, TypeName.ofBuiltIn b ∈ known := by
  induction moves generalizing hosts with
  | nil => exact h
  | cons move moves ih => exact ih (knows_make b h move)

theorem knows_none (moves : List (Move H)) (b : BuiltIn) :
    ∀ known ∈ (none.after moves).known, TypeName.ofBuiltIn b ∈ known :=
  knows_after moves b fun _ hm => absurd hm List.not_mem_nil

def stepOf (hosts : Hosts H) (expression : Text) (handler : H) : SharedStep H :=
  ⟨.ofFormat hosts.registry.fieldType ((Phrase.pieces expression).flatMap Format.written), handler⟩

/-- A host that knows all types of an expression leaves its step to the registry. -/
theorem make_defineStep {hosts : Hosts H} {place : Nat} {known : List Text}
    (hp : hosts.known[place]? = some known) {expression : Text}
    (hk : ∀ name ∈ Phrase.names expression, TypeName.ofName name ∈ known) (handler : H) :
    hosts.make (.on place (.defineStep expression handler)) =
      match hosts.registry.addStep (hosts.stepOf expression handler) with
      | .error failure => (.error failure, hosts)
      | .ok registry => (.ok (), { hosts with registry }) := by
  have hformat : Format.ofExpression known.contains expression =
      .ok ((Phrase.pieces expression).flatMap Format.written) :=
    Format.ofPieces_eq fun name hn => List.contains_iff_mem.mpr (hk name hn)
  have hset : hosts.known.set place known = hosts.known := by
    obtain ⟨hlt, rfl⟩ := List.getElem?_eq_some_iff.mp hp
    exact List.set_getElem_self hlt
  have hstep : StepHost.defineStep expression handler (hosts.deskOf known).host =
      (hosts.registry.addStep (hosts.stepOf expression handler)).map fun registry =>
        (⟨registry, known⟩,
          [.sharedStepDefined expression ((Phrase.pieces expression).flatMap Format.written)]) := by
    change SharedHost.defineStep expression handler ⟨hosts.registry, known⟩ = _
    simp only [SharedHost.defineStep, hformat]
    rfl
  rw [make, hp]
  simp only [Call.make, Registrar.defineExpression, hstep]
  cases hosts.registry.addStep (hosts.stepOf expression handler) with
  | error failure =>
    change (_, Hosts.mk _ _ _) = _
    simp only [Except.map, deskOf, hset]
  | ok registry =>
    change (_, Hosts.mk _ _ _) = _
    simp only [Except.map, deskOf, Desk.report, hset]

/-- A placeholder means the same here and on a standalone host: it is built in, or a type of the same
definition stands there for it. -/
inductive Agreed (hosts : Hosts H) (known : List Text) (alone : Standalone H) (name : Text) : Prop
  | builtIn {b : BuiltIn} (hn : name = b.name) (hk : hosts.registry.Keeps b)
  | defined {t : ParameterType} (hk : TypeName.ofName name ∈ known)
      (ht : hosts.registry.types.find? (TypeName.ofName name) =
        some (t.fieldType.handedOn Argument.deferring))
      (ha : alone.types.find? name = some t)

def valuesOf (found : Option (List (Reading Argument))) : Option (List Argument) :=
  found.map (·.map (·.value))

namespace Agreed

variable {hosts : Hosts H} {known : List Text} {alone : Standalone H} {name : Text}

theorem mem_known (h : Agreed hosts known alone name)
    (hb : ∀ b, TypeName.ofBuiltIn b ∈ known) : TypeName.ofName name ∈ known := by
  cases h with
  | @builtIn b hn _ =>
    rw [hn, TypeName.ofName_builtIn]
    exact hb b
  | defined hk _ _ => exact hk

theorem handsOn (h : Agreed hosts known alone name) (hc : alone.Coherent) (strict : Prop)
    (hs : strict → isBuiltIn name = true) :
    alone.converters.has (TypeName.ofName name) = true ∧
      Template.HandsOn strict (alone.fieldType (TypeName.ofName name))
        (hosts.registry.fieldType (TypeName.ofName name)) := by
  cases h with
  | @builtIn b hn hk =>
    have hname : isBuiltIn name = true := Phrase.isBuiltIn_iff.mpr ⟨b, hn.symm⟩
    have hfind : alone.converters.find? (TypeName.ofName name) = some b.fieldType := by
      rw [hc.find?_converters, hn, BuiltIn.ofName?_name]
      rfl
    have hfind' : hosts.registry.types.find? (TypeName.ofName name) =
        some (b.fieldType.handedOn Argument.raising) := by
      rw [hn, TypeName.ofName_builtIn]
      exact hk
    rw [Table.has, Standalone.fieldType, StepRegistry.fieldType, hfind, hfind']
    exact ⟨rfl, false, fun _ => rfl, rfl⟩
  | @defined t hk ht ha =>
    have hname : isBuiltIn name = false := hc.plain name (List.mem_map_of_mem (Table.mem_of_find? ha))
    have hfind : alone.converters.find? (TypeName.ofName name) = some t.fieldType := by
      rw [hc.find?_converters, ofName?_eq_none hname, ha]
      rfl
    rw [Table.has, Standalone.fieldType, StepRegistry.fieldType, hfind, ht]
    refine ⟨rfl, true, fun h => ?_, rfl⟩
    rw [hs h] at hname
    cases hname

end Agreed

/-- A built-in placeholder means the same on all hosts of a registry exactly as long as no host has
been told of a type under its name since the last host was made. From then on that type stands for
it. While a placeholder keeps its meaning, a step with it converts as on a standalone host: what that
one reads in a text, the step reads too, and if all its placeholders are built in, it fails as
well where that one does. -/
theorem builtIn_kept (moves : List (Move H)) (hn : .newHost ∈ moves) :
    (∀ b, ((none.after moves).registry.Keeps b ↔ ∀ t, ¬ Replaced b t moves) ∧
      ((∃ t, Replaced b t moves) → ∃ t, Replaced b t moves ∧
        (none.after moves).registry.at? b = some (t.fieldType.handedOn Argument.deferring))) ∧
      ∀ place known, (none.after moves).known[place]? = some known →
        ∀ (calls : List (Call H)) expression handler,
          (∀ name ∈ Phrase.names expression,
            Agreed (none.after moves) known (Call.reached calls).host name) →
          ∃ alone, (Call.reached calls).host.stepOf expression handler = .ok alone ∧
            (none.after moves).make (.on place (.defineStep expression handler)) =
              (match (none.after moves).registry.addStep
                  ((none.after moves).stepOf expression handler) with
                | .error failure => (.error failure, none.after moves)
                | .ok registry => (.ok (), { none.after moves with registry })) ∧
            ∀ text, Follows (∀ name ∈ Phrase.names expression, isBuiltIn name = true)
              (Option.map (List.map Argument.value)) (alone.read text)
              ((((none.after moves).stepOf expression handler).read text).map valuesOf) := by
  refine ⟨fun b => ⟨⟨fun hk t ht => ?_, fun hno => ?_⟩, fun ht => ?_⟩, ?_⟩
  · rcases keeps_or_replaced b hn with ⟨-, hno⟩ | ⟨other, -, hstands⟩
    · exact hno t ht
    · exact StepRegistry.not_keeps_of_deferring hstands hk
  · rcases keeps_or_replaced b hn with ⟨hk, -⟩ | ⟨t, ht, -⟩
    · exact hk
    · exact absurd ht (hno t)
  · obtain ⟨t, ht⟩ := ht
    rcases keeps_or_replaced b hn with ⟨-, hno⟩ | hstands
    · exact absurd ht (hno t)
    · exact hstands
  · intro place known hp calls expression handler hagreed
    have hcoherent := (Standalone.sound_reached calls).1.toCoherent
    have hb := fun b => knows_none moves b known (List.mem_of_getElem? hp)
    have hformat : Format.ofExpression (Call.reached calls).host.converters.has expression =
        .ok ((Phrase.pieces expression).flatMap Format.written) :=
      Format.ofPieces_eq fun name hm => ((hagreed name hm).handsOn hcoherent False False.elim).1
    refine ⟨⟨expression, .ofFormat (Call.reached calls).host.fieldType
      ((Phrase.pieces expression).flatMap Format.written), handler⟩, ?_, ?_, fun text => ?_⟩
    · rw [Standalone.stepOf, hformat]
      rfl
    · exact make_defineStep hp (fun name hm => (hagreed name hm).mem_known hb) handler
    · refine (Template.read_follows (fun name type hf => ?_) text).map fun found => ?_
      · obtain ⟨-, other, ho, rfl⟩ := Format.field_mem_parts_written.mp hf
        exact ((hagreed other ho).handsOn hcoherent _ fun hall => hall other ho).2
      · cases found with
        | none => rfl
        | some readings => simp [valuesOf, Reading.handed]

def intruder : ParameterType := ⟨BuiltIn.int.name, ['x'], Option.none, .ok⟩

def intruding : List (Move Unit) := [.newHost, .on 0 (.defineType intruder)]

/-- Integers have lost their meaning, and the other built-in placeholders have not. -/
theorem builtIn_kept_intruding :
    .newHost ∈ intruding ∧ ¬ (none.after intruding).registry.Keeps .int ∧
      (∃ t, Replaced .int t intruding ∧ (none.after intruding).registry.at? .int =
        some (t.fieldType.handedOn Argument.deferring)) ∧
      (none.after intruding).registry.Keeps .float ∧
      ∃ known alone, (none.after intruding).known[0]? = some known ∧
        (Call.reached ([] : List (Call Unit))).host.stepOf (Phrase.braced BuiltIn.float.name) () =
          .ok alone ∧
        ∀ text, Follows (∀ name ∈ Phrase.names (Phrase.braced BuiltIn.float.name), isBuiltIn name = true)
          (Option.map (List.map Argument.value)) (alone.read text)
          ((((none.after intruding).stepOf (Phrase.braced BuiltIn.float.name) ()).read text).map
            valuesOf) := by
  have hnew : .newHost ∈ intruding := List.mem_cons_self
  obtain ⟨hall, hsteps⟩ := builtIn_kept intruding hnew
  have hreplaced : Replaced .int intruder intruding :=
    ⟨[.newHost], _, [], rfl, ⟨0, rfl, Nat.zero_lt_one, rfl⟩, List.not_mem_nil⟩
  have hfloat : (none.after intruding).registry.Keeps .float := rfl
  have hagreed : ∀ name ∈ Phrase.names (Phrase.braced BuiltIn.float.name),
      Agreed (none.after intruding) builtInTypes.names (Call.reached []).host name := by
    intro name hm
    have hnames : Phrase.names (Phrase.braced BuiltIn.float.name) = [BuiltIn.float.name] := by
      decide +kernel
    rw [hnames] at hm
    exact .builtIn (List.mem_singleton.mp hm) hfloat
  obtain ⟨alone, hstep, -, hread⟩ := hsteps 0 _ rfl [] _ () hagreed
  have hlost : ¬ (none.after intruding).registry.Keeps .int :=
    fun hk => (hall .int).1.mp hk intruder hreplaced
  exact ⟨hnew, hlost, (hall .int).2 ⟨intruder, hreplaced⟩, hfloat, _, alone, rfl, hstep, hread⟩

end Hosts

end Phrasebook
