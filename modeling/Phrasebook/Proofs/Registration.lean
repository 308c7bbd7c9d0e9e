import Phrasebook.Proofs.Lists
import Phrasebook.Proofs.Phrase.Occurrences
import Phrasebook.Proofs.Phrase.UniqueNames
import Phrasebook.Registrar

/-!
# What a registration does to a host

Whatever the host is, a registration tells it some parameter types, one for each placeholder from
left to right, and then a step. It ends early where the definitions do not go with the phrase, where
a placeholder's definition has no type, where the host refuses a type, or where it refuses the step;
nothing else can fail.
-/

namespace Phrasebook.Registrar

variable {σ H : Type}

def defineTypes [StepHost σ H] : List ParameterType → σ → Except Failure σ
  | [], host => .ok host
  | type :: types, host =>
    match StepHost.defineType type host with
    | .error failure => .error failure
    | .ok host => defineTypes types host

theorem exists_of_defineTypes_cons [StepHost σ H] {type : ParameterType}
    {types : List ParameterType} {host after : σ} (h : defineTypes (type :: types) host = .ok after) :
    ∃ next, StepHost.defineType type host = .ok next ∧ defineTypes types next = .ok after := by
  rw [defineTypes] at h
  cases ht : StepHost.defineType type host with
  | error failure =>
    rw [ht] at h
    cases h
  | ok next =>
    rw [ht] at h
    exact ⟨next, rfl, h⟩

/-- What no type spoils holds after all types. -/
theorem of_defineTypes [StepHost σ H] {P : ParameterType → Prop} {Q : σ → Prop}
    (htype : ∀ type host next, P type → Q host → StepHost.defineType type host = .ok next → Q next)
    {types : List ParameterType} (hp : ∀ type ∈ types, P type) {host after : σ} (hq : Q host)
    (h : defineTypes types host = .ok after) : Q after := by
  induction types generalizing host with
  | nil =>
    cases h
    exact hq
  | cons type types ih =>
    obtain ⟨next, ht, h⟩ := exists_of_defineTypes_cons h
    exact ih (fun t hm => hp t (List.mem_cons_of_mem _ hm)) (htype _ _ _ (hp _ (by simp)) hq ht) h

/-- A host that hands every type on to another keeps what that one keeps. -/
theorem defineTypes_map {τ : Type} [StepHost σ H] [StepHost τ H] {f : σ → τ}
    (hf : ∀ type host, StepHost.defineType type (f host) = (StepHost.defineType type host).map f)
    (types : List ParameterType) (host : σ) :
    defineTypes types (f host) = (defineTypes types host).map f := by
  induction types generalizing host with
  | nil => rfl
  | cons type types ih =>
    rw [defineTypes, defineTypes, hf]
    cases StepHost.defineType type host with
    | error failure => rfl
    | ok next => exact ih next

/-- The definitions have the parameter type for a placeholder. -/
def Gives (definitions : Definitions) (p : Placeholder) (type : ParameterType) : Prop :=
  ∃ definition decoder, definitions.find? p.name = some definition ∧
    definition.compile p.uniqueName = .ok (type, decoder)

/-- Why a placeholder cannot be registered. -/
inductive Obstacle [StepHost σ H] (definitions : Definitions) (p : Placeholder) (host : σ)
    (failure : Failure) : Prop where
  | undefined (h : definitions.find? p.name = none) (hf : failure = .keyMissing (.text p.name))
  /-- The definition has no type. -/
  | unsupported (definition : Definition) (h : definitions.find? p.name = some definition)
      (hf : definition.compile p.uniqueName = .error failure)
  /-- The host refuses the type. -/
  | refused (type : ParameterType) (h : Gives definitions p type)
      (hf : StepHost.defineType type host = .error failure)

theorem exists_compile {definition : Definition} (h : ∀ value, definition ≠ .unknown value)
    (name : Text) : ∃ found, definition.compile name = .ok found := by
  cases definition with
  | unknown value => exact absurd rfl (h value)
  | string | raw | sum | list => exact ⟨_, rfl⟩

def afterType (d : Desk σ) (host : σ) (type : ParameterType) : Desk σ :=
  { d with host }.report [.typeRegistered type.name type.pattern]

theorem compile_name {definition : Definition} {name : Text} {type : ParameterType}
    {decoder : Decoder} (h : definition.compile name = .ok (type, decoder)) : type.name = name := by
  cases definition with
  | unknown value => cases h
  | string | raw | sum | list =>
    cases h
    rfl

theorem name_of_gives {definitions : Definitions} {p : Placeholder} {type : ParameterType}
    (h : Gives definitions p type) : type.name = p.uniqueName := by
  obtain ⟨definition, decoder, -, hc⟩ := h
  exact compile_name hc

/-- A placeholder whose type the host takes is passed. -/
theorem registerTypes_cons [StepHost σ H] {definitions : Definitions} {p : Placeholder}
    {definition : Definition} {type : ParameterType} {decoder : Decoder} {d : Desk σ} {host : σ}
    (hd : definitions.find? p.name = some definition)
    (hc : definition.compile p.uniqueName = .ok (type, decoder))
    (hh : StepHost.defineType type d.host = .ok host) (ps : List Placeholder) :
    registerTypes definitions (p :: ps) d =
      ((registerTypes definitions ps (afterType d host type)).1.map ((p.uniqueName, decoder) :: ·),
        (registerTypes definitions ps (afterType d host type)).2) := by
  have hr : registerType definition p.uniqueName d = (.ok decoder, afterType d host type) := by
    simp only [registerType, hc, hh, afterType, compile_name hc]
  simp only [registerTypes, definitionOf, hd, hr]
  obtain ⟨result, after⟩ := registerTypes definitions ps (afterType d host type)
  cases result with
  | error failure => rfl
  | ok decoders => rfl

/-- A placeholder that cannot be registered ends the registration. -/
theorem registerTypes_stop [StepHost σ H] {definitions : Definitions} {p : Placeholder}
    {d : Desk σ} {failure : Failure} (h : Obstacle definitions p d.host failure)
    (ps : List Placeholder) : registerTypes definitions (p :: ps) d = (.error failure, d) := by
  cases h with
  | undefined h hf => simp only [registerTypes, definitionOf, h, hf]
  | unsupported definition h hf => simp only [registerTypes, definitionOf, h, registerType, hf]
  | refused type h hf =>
    obtain ⟨definition, decoder, hd, hc⟩ := h
    simp only [registerTypes, definitionOf, hd, registerType, hc, hf]

/-- A placeholder can be registered or not. -/
theorem obstacle_or_not [StepHost σ H] (definitions : Definitions) (p : Placeholder) (host : σ) :
    (∃ failure, Obstacle definitions p host failure) ∨
      ∃ definition type decoder after, definitions.find? p.name = some definition ∧
        definition.compile p.uniqueName = .ok (type, decoder) ∧
        StepHost.defineType type host = .ok after := by
  cases hd : definitions.find? p.name with
  | none => exact .inl ⟨_, .undefined hd rfl⟩
  | some definition =>
    cases hc : definition.compile p.uniqueName with
    | error failure => exact .inl ⟨failure, .unsupported definition hd hc⟩
    | ok found =>
      cases hh : StepHost.defineType found.1 host with
      | error failure => exact .inl ⟨failure, .refused found.1 ⟨definition, found.2, hd, hc⟩ hh⟩
      | ok after => exact .inr ⟨definition, found.1, found.2, after, rfl, hc, hh⟩

/-- Registering the types of placeholders defines all of them, or those to the left of a placeholder
that cannot be registered. -/
theorem registerTypes_cases [StepHost σ H] (definitions : Definitions) (ps : List Placeholder)
    (d : Desk σ) :
    (∃ decoders types, (registerTypes definitions ps d).1 = .ok decoders ∧
        List.Forall₂ (Gives definitions) ps types ∧
        defineTypes types d.host = .ok (registerTypes definitions ps d).2.host) ∨
      ∃ failure left p right types, (registerTypes definitions ps d).1 = .error failure ∧
        ps = left ++ p :: right ∧ List.Forall₂ (Gives definitions) left types ∧
        defineTypes types d.host = .ok (registerTypes definitions ps d).2.host ∧
        Obstacle definitions p (registerTypes definitions ps d).2.host failure := by
  induction ps generalizing d with
  | nil => exact .inl ⟨[], [], rfl, .nil, rfl⟩
  | cons p ps ih =>
    cases obstacle_or_not definitions p d.host with
    | inl h =>
      obtain ⟨failure, h⟩ := h
      rw [registerTypes_stop h]
      exact .inr ⟨failure, [], p, ps, [], rfl, rfl, .nil, rfl, h⟩
    | inr h =>
      obtain ⟨definition, type, decoder, host, hd, hc, hh⟩ := h
      have hgives : Gives definitions p type := ⟨definition, decoder, hd, hc⟩
      have hfirst : ∀ types, defineTypes (type :: types) d.host = defineTypes types host := by
        intro types
        rw [defineTypes, hh]
      rw [registerTypes_cons hd hc hh]
      rcases ih (afterType d host type) with ⟨decoders, types, hok, hall, hhost⟩ |
        ⟨failure, left, q, right, types, herr, rfl, hall, hhost, hwhy⟩
      · rw [hok]
        exact .inl ⟨_, type :: types, rfl, .cons hgives hall, (hfirst types).trans hhost⟩
      · rw [herr]
        exact .inr ⟨failure, p :: left, q, right, type :: types, rfl, rfl, .cons hgives hall,
          (hfirst types).trans hhost, hwhy⟩

/-- The types of a registration draw no tokens. -/
theorem drawn_registerTypes [StepHost σ H] (definitions : Definitions) (ps : List Placeholder)
    (d : Desk σ) : (registerTypes definitions ps d).2.drawn = d.drawn := by
  induction ps generalizing d with
  | nil => rfl
  | cons p ps ih =>
    cases obstacle_or_not definitions p d.host with
    | inl h =>
      obtain ⟨failure, h⟩ := h
      rw [registerTypes_stop h]
    | inr h =>
      obtain ⟨definition, type, decoder, host, hd, hc, hh⟩ := h
      rw [registerTypes_cons hd hc hh]
      exact ih (afterType d host type)

/-- Where the definitions go with a phrase, every placeholder that needs one has one. -/
theorem defined_of_check {settings : Settings} {phrase : Text} {definitions : Definitions}
    {events : List Event} (h : check settings phrase definitions = .ok events) {name : Text}
    (hn : name ∈ Phrase.definedNames phrase) : definitions.find? name ≠ none := by
  intro hnone
  have hmissing : name ∈ missing phrase definitions := by
    refine List.mem_filter.mpr ⟨Choices.mem_distinct.mpr hn, ?_⟩
    simp [Table.has, hnone]
  have hne : (missing phrase definitions).isEmpty = false := by
    cases hm : missing phrase definitions with
    | nil => simp [hm] at hmissing
    | cons t l => rfl
  simp [check, hne] at h

/-- The definitions go with a phrase if they name what it needs, and nothing else unless that is let
pass. -/
theorem check_eq_ok {settings : Settings} {phrase : Text} {definitions : Definitions}
    (hd : ∀ name ∈ Phrase.definedNames phrase, definitions.find? name ≠ none)
    (hu : unused phrase definitions = [] ∨ settings.allowUnused = true) :
    ∃ events, check settings phrase definitions = .ok events := by
  have hmissing : missing phrase definitions = [] := by
    refine List.filter_eq_nil_iff.mpr fun name hn => ?_
    have hsome := Option.isSome_iff_ne_none.mpr (hd name (Choices.mem_distinct.mp hn))
    simp [Table.has, hsome]
  refine ⟨(unused phrase definitions).map (.definitionIgnored · phrase), ?_⟩
  cases hu with
  | inl hu => simp [check, hmissing, hu]
  | inr hu => simp [check, hmissing, hu]

/-- The placeholders of a registration that draws its token at a desk. -/
def holders (r : Registrar) (phrase : Text) (d : Desk σ) : List Placeholder :=
  Phrase.placeholders r.settings.separator (r.tokens d.drawn) phrase

def expression (r : Registrar) (phrase : Text) (d : Desk σ) : Text :=
  Phrase.ofPieces (Phrase.relabel (Phrase.pieces phrase)
    ((r.holders phrase d).map Placeholder.uniqueName))

theorem holders_names (r : Registrar) (phrase : Text) (d : Desk σ) :
    (r.holders phrase d).map Placeholder.name = Phrase.definedIn (Phrase.pieces phrase) :=
  Phrase.placeholders_names _ _ phrase

theorem mem_holders {r : Registrar} {phrase : Text} {d : Desk σ}
    (ht : Phrase.IsName (r.tokens d.drawn)) {p : Placeholder} (hp : p ∈ r.holders phrase d) :
    isBuiltIn p.name = false ∧ Phrase.IsName p.uniqueName ∧ '_' ∈ p.uniqueName := by
  obtain ⟨-, hd, index, hu⟩ := Phrase.mem_placeholders hp
  obtain ⟨hm, hb⟩ := List.mem_filter.mp hd
  have hname := Phrase.isName_of_mem_namesIn (Phrase.settled_pieces phrase) hm
  rw [hu]
  exact ⟨by simpa using hb,
    Phrase.isName_uniqueName (Phrase.isName_separator r.settings) ht hname index,
    Phrase.underscore_mem_uniqueName _ _ _ index⟩

theorem uniqueNames_nodup (r : Registrar) (phrase : Text) (d : Desk σ) :
    ((r.holders phrase d).map Placeholder.uniqueName).Nodup :=
  Phrase.nodup_uniqueNames r.settings.separator (r.tokens d.drawn) phrase

/-- The unique name of a placeholder is not that of a type for a placeholder before it. -/
theorem uniqueName_not_mem_left {r : Registrar} {phrase : Text} {definitions : Definitions}
    {d : Desk σ} {left right : List Placeholder} {p : Placeholder} {types : List ParameterType}
    (h : r.holders phrase d = left ++ p :: right)
    (ht : List.Forall₂ (Gives definitions) left types) :
    p.uniqueName ∉ types.map (·.name) := by
  intro hmem
  obtain ⟨t, hm, hname⟩ := List.mem_map.mp hmem
  obtain ⟨q, hq, hgives⟩ := exists_left ht hm
  have hsame : q.uniqueName = p.uniqueName := (name_of_gives hgives).symm.trans hname
  have hleft : p.uniqueName ∈ left.map Placeholder.uniqueName := hsame ▸ List.mem_map_of_mem hq
  have hnodup := uniqueNames_nodup r phrase d
  rw [h, List.map_append, List.map_cons] at hnodup
  exact (List.nodup_append.mp hnodup).2.2 _ hleft _ List.mem_cons_self rfl

/-- The expression is the phrase with unique names, piece by piece. -/
theorem pieces_expression {r : Registrar} {phrase : Text} {d : Desk σ}
    (ht : Phrase.IsName (r.tokens d.drawn)) :
    Phrase.pieces (r.expression phrase d) = Phrase.relabel (Phrase.pieces phrase)
      ((r.holders phrase d).map Placeholder.uniqueName) := by
  refine Phrase.pieces_ofPieces (Phrase.settled_relabel (Phrase.settled_pieces phrase) ?_)
  intro name hn
  obtain ⟨p, hp, rfl⟩ := List.mem_map.mp hn
  exact (mem_holders ht hp).2.1

/-- A name in the expression is built in, or has an underscore. -/
theorem underscore_mem_names {r : Registrar} {d : Desk σ} (ht : Phrase.IsName (r.tokens d.drawn))
    (phrase : Text) :
    ∀ name ∈ Phrase.namesIn (Phrase.pieces (r.expression phrase d)),
      isBuiltIn name = true ∨ '_' ∈ name := by
  intro name hn
  rw [pieces_expression ht] at hn
  rcases Phrase.isBuiltIn_or_unique (holders_names r phrase d) hn with hb | ⟨p, hp, rfl⟩
  · exact .inl hb
  · exact .inr (mem_holders ht hp).2.2

/-- The desk of a registration before its types: the token is drawn, and what will not be used is
reported. -/
def started (d : Desk σ) (ignored : List Event) : Desk σ :=
  { d with drawn := d.drawn + 1 }.report ignored

section

variable [StepHost σ H] {r : Registrar} {phrase : Text} {handler : H} {definitions : Definitions}
  {d after : Desk σ} {ignored : List Event}

/-- A registration ends where its types end early. -/
theorem define_of_stop {failure : Failure} (hcheck : check r.settings phrase definitions = .ok ignored)
    (ht : registerTypes definitions (r.holders phrase d) (started d ignored) =
      (.error failure, after)) :
    r.define phrase handler definitions d = (.error failure, after) := by
  rw [holders, started] at ht
  simp only [define, hcheck, ht]

/-- When its types are defined, a registration gives what the step gives. -/
theorem define_of_types {pairs : List (Text × Decoder)}
    (hcheck : check r.settings phrase definitions = .ok ignored)
    (ht : registerTypes definitions (r.holders phrase d) (started d ignored) = (.ok pairs, after)) :
    r.define phrase handler definitions d =
      match StepHost.defineStep (r.expression phrase d) handler after.host with
      | .error failure => (.error failure, after)
      | .ok (host, events) =>
        (.ok ⟨phrase, r.expression phrase d, r.holders phrase d, .ofPairs pairs⟩,
          ({ after with host }.report events).report
            [.phraseRegistered phrase (r.expression phrase d)]) := by
  rw [holders, started] at ht
  rw [expression, holders]
  simp only [define, hcheck, ht, Phrase.rename_eq, defineExpression]
  cases StepHost.defineStep _ handler after.host with
  | error failure => rfl
  | ok found => rfl

/-- Nothing stops a registration that succeeds. -/
theorem exists_of_define_eq_ok {registration : Registration}
    (h : (r.define phrase handler definitions d).1 = .ok registration) :
    ∃ ignored pairs after host events, check r.settings phrase definitions = .ok ignored ∧
      registerTypes definitions (r.holders phrase d) (started d ignored) = (.ok pairs, after) ∧
      StepHost.defineStep (r.expression phrase d) handler after.host = .ok (host, events) := by
  cases hcheck : check r.settings phrase definitions with
  | error failure =>
    simp only [define, hcheck] at h
    cases h
  | ok ignored =>
    cases ht : registerTypes definitions (r.holders phrase d) (started d ignored) with
    | mk result after =>
      cases result with
      | error failure =>
        rw [define_of_stop hcheck ht] at h
        cases h
      | ok pairs =>
        cases hs : StepHost.defineStep (r.expression phrase d) handler after.host with
        | error failure =>
          rw [define_of_types hcheck ht, hs] at h
          cases h
        | ok found => exact ⟨ignored, pairs, after, found.1, found.2, rfl, ht, hs⟩

/-- A registration that succeeds has drawn a token. -/
theorem drawn_define {registration : Registration}
    (h : (r.define phrase handler definitions d).1 = .ok registration) :
    (r.define phrase handler definitions d).2.drawn = d.drawn + 1 := by
  obtain ⟨ignored, pairs, after, host, events, hcheck, ht, hs⟩ := exists_of_define_eq_ok h
  have hdrawn := drawn_registerTypes definitions (r.holders phrase d) (started d ignored)
  rw [ht] at hdrawn
  rw [define_of_types hcheck ht, hs]
  exact hdrawn

end

/-- How a registration ends, and the types that the host has been told before that. -/
inductive Ends [StepHost σ H] (r : Registrar) (phrase : Text) (handler : H)
    (definitions : Definitions) (d : Desk σ) (after : σ) : List ParameterType → Option Failure → Prop
  /-- The definitions do not go with the phrase. -/
  | mismatched {failure : Failure} (h : check r.settings phrase definitions = .error failure)
      (hh : after = d.host) : Ends r phrase handler definitions d after [] (some failure)
  /-- A placeholder cannot be registered. -/
  | stopped {left right : List Placeholder} {p : Placeholder} {types : List ParameterType}
      {failure : Failure} (h : r.holders phrase d = left ++ p :: right)
      (ht : List.Forall₂ (Gives definitions) left types)
      (hh : defineTypes types d.host = .ok after) (hp : definitions.find? p.name ≠ none)
      (hf : Obstacle definitions p after failure) :
      Ends r phrase handler definitions d after types (some failure)
  /-- The host refuses the step. -/
  | rejected {types : List ParameterType} {failure : Failure}
      (ht : List.Forall₂ (Gives definitions) (r.holders phrase d) types)
      (hh : defineTypes types d.host = .ok after)
      (hf : StepHost.defineStep (r.expression phrase d) handler after = .error failure) :
      Ends r phrase handler definitions d after types (some failure)
  /-- The host takes the step. -/
  | registered {types : List ParameterType} {host : σ} {events : List Event}
      (ht : List.Forall₂ (Gives definitions) (r.holders phrase d) types)
      (hh : defineTypes types d.host = .ok host)
      (hs : StepHost.defineStep (r.expression phrase d) handler host = .ok (after, events)) :
      Ends r phrase handler definitions d after types none

section

variable [StepHost σ H] {r : Registrar} {phrase : Text} {handler : H} {definitions : Definitions}
  {d : Desk σ} {after : σ} {types : List ParameterType} {failure? : Option Failure}

/-- Every type that the host has been told is that of a placeholder. -/
theorem Ends.exists_holder (h : Ends r phrase handler definitions d after types failure?)
    {type : ParameterType} (ht : type ∈ types) :
    ∃ p, p ∈ r.holders phrase d ∧ Gives definitions p type := by
  cases h with
  | mismatched _ _ => cases ht
  | stopped h hall _ _ _ =>
    obtain ⟨p, hp, hg⟩ := exists_left hall ht
    exact ⟨p, by simp [h, hp], hg⟩
  | rejected hall _ _ => exact exists_left hall ht
  | registered hall _ _ => exact exists_left hall ht

/-- The host has been told the types, and at most one step after them. -/
theorem Ends.told (h : Ends r phrase handler definitions d after types failure?) :
    defineTypes types d.host = .ok after ∨
      ∃ next events, defineTypes types d.host = .ok next ∧
        StepHost.defineStep (r.expression phrase d) handler next = .ok (after, events) := by
  cases h with
  | mismatched _ hh => exact .inl (congrArg Except.ok hh.symm)
  | stopped _ _ hh _ _ => exact .inl hh
  | rejected _ hh _ => exact .inl hh
  | registered _ hh hs => exact .inr ⟨_, _, hh, hs⟩

end

def failure? {α : Type} : Except Failure α → Option Failure
  | .error failure => some failure
  | .ok _ => none

/-- Every registration ends in one of four ways. -/
theorem define_ends [StepHost σ H] (r : Registrar) (phrase : Text) (handler : H)
    (definitions : Definitions) (d : Desk σ) :
    ∃ types, Ends r phrase handler definitions d (r.define phrase handler definitions d).2.host types
      (failure? (r.define phrase handler definitions d).1) := by
  cases hcheck : check r.settings phrase definitions with
  | error failure =>
    simp only [define, hcheck]
    exact ⟨[], .mismatched hcheck rfl⟩
  | ok ignored =>
    have htypes := registerTypes_cases definitions (r.holders phrase d) (started d ignored)
    cases ht : registerTypes definitions (r.holders phrase d) (started d ignored) with
    | mk result after =>
      rw [ht] at htypes
      rcases htypes with ⟨pairs, types, hok, hall, hhost⟩ |
        ⟨failure, left, p, right, types, herr, hps, hall, hhost, hwhy⟩
      · cases hok
        rw [define_of_types hcheck ht]
        cases hs : StepHost.defineStep (r.expression phrase d) handler after.host with
        | error failure => exact ⟨types, .rejected hall hhost hs⟩
        | ok found => exact ⟨types, .registered hall hhost hs⟩
      · cases herr
        rw [define_of_stop hcheck ht]
        have hmem : p ∈ r.holders phrase d := by simp [hps]
        have hname := (Phrase.mem_placeholders hmem).2.1
        exact ⟨types, .stopped hps hall hhost (defined_of_check hcheck hname) hwhy⟩

end Phrasebook.Registrar
