import Phrasebook.Proofs.Host.BuiltIns
import Phrasebook.Proofs.Host.Fates
import Phrasebook.Proofs.OwnPatterns
import Phrasebook.Proofs.Template.Nested

/-!
# The types of a registered step in a shared registry

A registration hands on a type for each placeholder that has a definition, under a name that no other
type has, and leaves the types of the built-in placeholders as the registry has them. So the step
that it adds has for each placeholder of the phrase the type that belongs there. The conversion of a
definition puts its failures off, and that of a built-in placeholder may do so as well, if a host was
told of another type in its place.
-/

namespace Phrasebook

open Phrase (namesIn)

variable {H : Type}

/-- On its own, whether or not it ignores case, the pattern has as many groups as is said. -/
def Pattern.Numbers (written : Text) (groups : Option Int) : Prop :=
  ∃ ignoreCase, (Pattern.read (.standalone ignoreCase) written).map (fun own => (own.2 : Int)) =
    .ok (groups.getD 0)

/-- The pattern of the type has as many groups on its own as the type says. -/
def ParameterType.Counted (t : ParameterType) : Prop := Pattern.Numbers t.pattern t.groups

theorem ParameterType.Counted.exists_counts {t : ParameterType} (h : t.Counted) :
    ∃ n, t.fieldType.Counts n := by
  obtain ⟨ignoreCase, h⟩ := h
  obtain ⟨⟨p, n⟩, hread, hn⟩ := exists_of_map_eq_ok h
  exact ⟨n, Pattern.nests_of_read rfl hread, fun he => absurd (Option.some.inj he) (by decide), hn.symm⟩

theorem BuiltIn.counts (b : BuiltIn) : b.fieldType.Counts 0 :=
  ⟨(Pattern.Gains.of_reads (Pattern.reads_builtIn b) (Pattern.plain_builtInItems b)).nests,
    Pattern.head?_builtIn b, rfl⟩

/-- A definition has a type that counts its groups rightly, if one with a pattern of its own says how
many that has. -/
theorem Definition.exists_counts {definition : Definition}
    (hu : ∀ value, definition ≠ .unknown value) (hc : ∀ d, definition = .raw d → d.Counted) :
    ∃ n, definition.fieldType.Counts n := by
  cases definition with
  | string | sum | list => exact ⟨0, (readsAs_fieldType (by trivial)).adds.counts⟩
  | raw d =>
    have ht : (⟨[], d.pattern, d.groups, d.transformer.apply⟩ : ParameterType).Counted :=
      ⟨d.compiled?.getD false, hc d rfl⟩
    exact ht.exists_counts
  | unknown value => exact absurd rfl (hu value)

namespace SharedHost

/-- Types under other names leave what stands under a name as it is. -/
theorem find?_withTypes_of_not_mem {types : List ParameterType} {name : Text}
    (hn : name ∉ types.map (·.name)) (h : SharedHost H) :
    (h.withTypes types).registry.types.find? (TypeName.ofName name) =
      h.registry.types.find? (TypeName.ofName name) := by
  induction types generalizing h with
  | nil => rfl
  | cons t types ih =>
    rw [List.map_cons, List.mem_cons, not_or] at hn
    have hput : (h.defineType t).registry.types.find? (TypeName.ofName name) =
        h.registry.types.find? (TypeName.ofName name) := by
      rw [defineType, StepRegistry.putType, Table.find?_put,
        if_neg fun he => hn.1 (TypeName.ofName_injective he).symm]
    exact (ih hn.2 (h.defineType t)).trans hput

/-- Types with different names are found under their own. -/
theorem find?_withTypes_of_mem {types : List ParameterType} (hd : (types.map (·.name)).Nodup)
    {t : ParameterType} (ht : t ∈ types) (h : SharedHost H) :
    (h.withTypes types).registry.types.find? (TypeName.ofName t.name) =
      some (t.fieldType.handedOn Argument.deferring) := by
  induction types generalizing h with
  | nil => cases ht
  | cons u types ih =>
    obtain ⟨hfresh, hd⟩ := List.nodup_cons.mp hd
    cases List.mem_cons.mp ht with
    | inl he =>
      have hput : (h.defineType u).registry.types.find? (TypeName.ofName u.name) =
          some (u.fieldType.handedOn Argument.deferring) := by
        rw [defineType, StepRegistry.putType, Table.find?_put, if_pos rfl]
        rfl
      rw [he]
      exact (find?_withTypes_of_not_mem hfresh (h.defineType u)).trans hput
    | inr hr => exact ih hd hr (h.defineType u)

end SharedHost

theorem Registrar.names_of_gives {definitions : Definitions} {ps : List Placeholder}
    {types : List ParameterType} (h : List.Forall₂ (Gives definitions) ps types) :
    types.map (·.name) = ps.map Placeholder.uniqueName := by
  induction h with
  | nil => rfl
  | cons hg _ ih => rw [List.map_cons, List.map_cons, name_of_gives hg, ih]

namespace Request

/-- The pattern that a definition of the phrase brings has as many groups on its own as the
definition says. -/
def Counted (q : Request H) : Prop :=
  ∀ name ∈ Phrase.definedNames q.phrase, ∀ d, q.definitions.find? name = some (.raw d) → d.Counted

/-- A placeholder has the type of its definition, or if it is built in, the one that the registry has
in its place: the built-in one, or another that counts its groups rightly. -/
structure Resolves (q : Request H) (r : StepRegistry H) (typeOf : Text → FieldType Value) : Prop where
  defined : ∀ name ∈ Phrase.definedNames q.phrase, typeOf name = q.definitions.typeOf name
  builtIn : ∀ b : BuiltIn, b.name ∈ Phrase.names q.phrase →
    typeOf b.name = b.fieldType ∧ r.Keeps b ∨
      ∃ t : ParameterType, t.Counted ∧ typeOf b.name = t.fieldType ∧
        r.at? b = some (t.fieldType.handedOn Argument.deferring)

def handed (r : StepRegistry H) (typeOf : Text → FieldType Value) (name : Text) :
    FieldType Argument :=
  if isBuiltIn name then r.fieldType (TypeName.ofName name)
  else (typeOf name).handedOn Argument.deferring

variable {q : Request H} {r : StepRegistry H} {typeOf : Text → FieldType Value}

/-- Where the built-in types are in their places, nothing but the definitions counts. -/
theorem resolves_of_keeps (h : ∀ b : BuiltIn, b.name ∈ Phrase.names q.phrase → r.Keeps b) :
    q.Resolves r q.definitions.typeOf := by
  refine ⟨fun _ _ => rfl, fun b hb => .inl ⟨?_, h b hb⟩⟩
  rw [Definitions.typeOf, BuiltIn.ofName?_name]

theorem Resolves.handed_eq (h : q.Resolves r typeOf) {name : Text}
    (hn : name ∈ Phrase.names q.phrase) :
    ∃ deferred, handed r typeOf name = (typeOf name).handedOn (Argument.wrapping deferred) := by
  rw [handed]
  split
  · next hb =>
    obtain ⟨b, rfl⟩ := Phrase.isBuiltIn_iff.mp hb
    rw [StepRegistry.fieldType, TypeName.ofName_builtIn]
    rcases h.builtIn b hn with ⟨ht, hk⟩ | ⟨t, -, ht, hk⟩
    · exact ⟨false, by rw [ht, show r.types.find? _ = _ from hk]; rfl⟩
    · exact ⟨true, by rw [ht, show r.types.find? _ = _ from hk]; rfl⟩
  · exact ⟨true, rfl⟩

section Registered

variable {d : Desk (SharedHost H)} {types : List ParameterType}
  (h : q.Resolves d.host.registry typeOf)
  (ht : List.Forall₂ (Registrar.Gives q.definitions) (q.registrar.holders q.phrase d) types)

include h ht

theorem Resolves.counts (hc : q.Counted) {name : Text} (hn : name ∈ Phrase.names q.phrase) :
    (typeOf name).Counts ((typeOf name).groups.getD 0).toNat := by
  have hexists : ∃ n, (typeOf name).Counts n := by
    cases hb : isBuiltIn name with
    | true =>
      obtain ⟨b, rfl⟩ := Phrase.isBuiltIn_iff.mp hb
      rcases h.builtIn b hn with ⟨htype, -⟩ | ⟨t, hcounted, htype, -⟩
      · exact ⟨0, htype ▸ b.counts⟩
      · exact htype ▸ hcounted.exists_counts
    | false =>
      have hd : name ∈ Phrase.definedNames q.phrase := List.mem_filter.mpr ⟨hn, by simp [hb]⟩
      have hm : name ∈ (q.registrar.holders q.phrase d).map Placeholder.name := by
        rw [Registrar.holders_names]
        exact hd
      obtain ⟨p, hp, rfl⟩ := List.mem_map.mp hm
      obtain ⟨t, -, definition, decoder, hfind, hcompile⟩ := exists_right ht hp
      have htype : typeOf p.name = definition.fieldType := by
        rw [h.defined _ hd, Definitions.typeOf, ofName?_eq_none hb, hfind]
      rw [htype]
      refine Definition.exists_counts (fun value he => ?_) fun raw he => ?_
      · rw [he] at hcompile
        cases hcompile
      · exact hc _ hd raw (he ▸ hfind)
  obtain ⟨n, hn⟩ := hexists
  rwa [hn.groups, Int.toNat_natCast]

/-- The registry has for the unique names of the expression what belongs to the names of the phrase. -/
theorem Resolves.map_fieldType (htoken : Phrase.IsName (q.registrar.tokens d.drawn)) :
    (namesIn (Phrase.pieces (q.registrar.expression q.phrase d))).map
        (fun name => (d.host.withTypes types).registry.fieldType (TypeName.ofName name)) =
      (Phrase.names q.phrase).map (handed d.host.registry typeOf) := by
  have hnames := Registrar.names_of_gives ht
  rw [Registrar.pieces_expression htoken]
  refine Phrase.map_relabel (Registrar.holders_names q.registrar q.phrase d) (fun name _ hb => ?_)
    fun p hp => ?_
  · have hold : name ∉ types.map (·.name) := by
      rw [hnames]
      intro hm
      obtain ⟨p, hp, rfl⟩ := List.mem_map.mp hm
      obtain ⟨-, -, index, hu⟩ := Phrase.mem_placeholders hp
      rw [hu, Phrase.isBuiltIn_uniqueName] at hb
      cases hb
    rw [handed, if_pos hb, StepRegistry.fieldType, SharedHost.find?_withTypes_of_not_mem hold]
    rfl
  · obtain ⟨t, hm, hg⟩ := exists_right ht hp
    obtain ⟨-, hd, -⟩ := Phrase.mem_placeholders hp
    have hb : isBuiltIn p.name = false := by simpa using (List.mem_filter.mp hd).2
    have hnew : (types.map (·.name)).Nodup := by
      rw [hnames]
      exact Registrar.uniqueNames_nodup q.registrar q.phrase d
    have hfind := SharedHost.find?_withTypes_of_mem hnew hm d.host
    rw [Registrar.name_of_gives hg] at hfind
    obtain ⟨definition, decoder, hdefinition, hcompile⟩ := hg
    have htype : typeOf p.name = t.fieldType := by
      rw [h.defined _ hd, Definitions.typeOf, ofName?_eq_none hb, hdefinition,
        Definition.fieldType_of_compile hcompile]
    rw [handed, if_neg (by simp [hb]), htype, StepRegistry.fieldType, hfind]
    rfl

end Registered

/-- A registration that adds a step has handed types on, and then this step. -/
theorem exists_of_added {d : Desk (SharedHost H)} {step : SharedStep H}
    (hs : (q.make d).2.host.registry.steps = d.host.registry.steps ++ [step]) :
    ∃ types, List.Forall₂ (Registrar.Gives q.definitions) (q.registrar.holders q.phrase d) types ∧
      step = ⟨.ofFormat (d.host.withTypes types).registry.fieldType (q.format d), q.handler⟩ := by
  have hmore : (q.make d).2.host.registry.steps ≠ d.host.registry.steps := by
    rw [hs]
    simp
  cases hmake : (q.make d).1 with
  | error failure => exact absurd (steps_of_failed hmake).1 hmore
  | ok registration =>
    obtain ⟨types, hall, -, hadd⟩ := exists_of_make hmake
    refine ⟨types, hall, ?_⟩
    rw [StepRegistry.addStep] at hadd
    split at hadd
    · exact absurd (congrArg StepRegistry.steps (Except.ok.inj hadd)).symm hmore
    · split at hadd
      · have hsteps := congrArg StepRegistry.steps (Except.ok.inj hadd)
        rw [hs] at hsteps
        exact (List.singleton_inj.mp (List.append_cancel_left hsteps)).symm
      · exact absurd (congrArg StepRegistry.steps (Except.ok.inj hadd)).symm hmore
      · cases hadd

/-- The step has for each placeholder of the phrase what the registry has for it. -/
structure Equips (q : Request H) (other : Text → FieldType Argument) (step : SharedStep H) : Prop where
  handler : step.handler = q.handler
  fields : step.template.fields = Template.numbered 0 ((Phrase.names q.phrase).map other)
  compiled : step.template.compiled =
    Template.compile (Template.expressionFor other (Phrase.pieces q.phrase))

/-- A step that a registration has added has the types of its placeholders, and they count their
groups rightly. -/
theorem Resolves.equips {d : Desk (SharedHost H)} (h : q.Resolves d.host.registry typeOf)
    (hc : q.Counted) (htoken : Phrase.IsName (q.registrar.tokens d.drawn)) {step : SharedStep H}
    (hs : (q.make d).2.host.registry.steps = d.host.registry.steps ++ [step]) :
    q.Equips (handed d.host.registry typeOf) step ∧ ∀ name ∈ Phrase.names q.phrase,
      (typeOf name).Counts ((typeOf name).groups.getD 0).toNat := by
  obtain ⟨types, ht, rfl⟩ := exists_of_added hs
  have htypes := h.map_fieldType ht htoken
  have htemplate := Template.ofFormat_written (d.host.withTypes types).registry.fieldType
    (Registrar.underscore_mem_names htoken q.phrase)
  refine ⟨⟨rfl, ?_, ?_⟩, fun name hn => h.counts ht hc hn⟩
  · rw [format, htemplate]
    exact congrArg (Template.numbered 0) htypes
  · rw [format, htemplate]
    refine congrArg Template.compile ?_
    rw [Registrar.pieces_expression htoken] at htypes ⊢
    exact Template.expressionFor_relabel htypes

end Request

namespace Hosts

/-- No host is there before one is made. -/
theorem newHost_mem_of_known {moves : List (Move H)} {place : Nat} {known : List Text}
    (hk : (none.after moves).known[place]? = some known) : .newHost ∈ moves := by
  induction moves with
  | nil => cases hk
  | cons move moves ih =>
    cases move with
    | newHost => exact List.mem_cons_self
    | on place call => exact List.mem_cons_of_mem _ (ih hk)

/-- Whatever has been done before, the placeholders of a phrase that is registered have types, as
long as every type that a host was told of directly counts its groups rightly. -/
theorem exists_resolves {moves : List (Move H)} {place : Nat} {known : List Text}
    (hk : (none.after moves).known[place]? = some known)
    (hc : ∀ place t, .on place (.defineType t) ∈ moves → t.Counted) (q : Request H) :
    ∃ typeOf, q.Resolves (none.after moves).registry typeOf := by
  have hexists : ∀ b : BuiltIn, ∃ type : FieldType Value,
      type = b.fieldType ∧ (none.after moves).registry.Keeps b ∨
        ∃ t : ParameterType, t.Counted ∧ type = t.fieldType ∧
          (none.after moves).registry.at? b = some (t.fieldType.handedOn Argument.deferring) := by
    intro b
    rcases keeps_or_replaced b (newHost_mem_of_known hk) with ⟨hkept, -⟩ | ⟨t, hr, hstands⟩
    · exact ⟨b.fieldType, .inl ⟨rfl, hkept⟩⟩
    · obtain ⟨before, move, later, rfl, ⟨place, rfl, -⟩, -⟩ := hr
      exact ⟨t.fieldType, .inr ⟨t, hc place t (by simp), rfl, hstands⟩⟩
  choose inPlace hplace using hexists
  refine ⟨fun name => ((BuiltIn.ofName? name).map inPlace).getD (q.definitions.typeOf name),
    fun name hn => ?_, fun b _ => ?_⟩
  · rw [ofName?_eq_none (by simpa using (List.mem_filter.mp hn).2)]
    rfl
  · rw [BuiltIn.ofName?_name]
    exact hplace b

end Hosts

end Phrasebook
