import Phrasebook.Host.Basic
import Phrasebook.Proofs.Phrase.Renamed
import Phrasebook.Proofs.Registration
import Phrasebook.Proofs.Table

/-!
# What a host has been told

A host can be overheard: whatever it is, it does what it would do alone, and all that it has been
told is kept in order. A registration that succeeds has told it a parameter type for each placeholder
that needs one, from left to right, and then one step; and it reports just that. No two types have
one name, so the report has the decoder of every type.
-/

namespace Phrasebook

/-- Something that a host is told. -/
inductive Notice (H : Type) where
  | type (type : ParameterType)
  | step (expression : Text) (handler : H)

/-- A host and all that it has been told, in order. -/
structure Overheard (σ H : Type) where
  host : σ
  notices : List (Notice H)

instance {σ H : Type} [StepHost σ H] : StepHost (Overheard σ H) H where
  defineType type o :=
    (StepHost.defineType type o.host).map fun host => ⟨host, o.notices ++ [.type type]⟩
  defineStep expression handler o :=
    (StepHost.defineStep expression handler o.host).map fun done =>
      (⟨done.1, o.notices ++ [.step expression handler]⟩, done.2)

def Desk.overheard {σ H : Type} (d : Desk σ) (notices : List (Notice H)) : Desk (Overheard σ H) :=
  ⟨⟨d.host, notices⟩, d.drawn, d.events⟩

namespace Registrar

variable {σ H : Type}

@[simp] theorem holders_overheard (r : Registrar) (phrase : Text) (d : Desk σ)
    (notices : List (Notice H)) : r.holders phrase (d.overheard notices) = r.holders phrase d := rfl

@[simp] theorem expression_overheard (r : Registrar) (phrase : Text) (d : Desk σ)
    (notices : List (Notice H)) :
    r.expression phrase (d.overheard notices) = r.expression phrase d := rfl

/-- The definitions have the parameter type and the decoder for a placeholder. -/
def Compiles (definitions : Definitions) (p : Placeholder) (compiled : ParameterType × Decoder) :
    Prop :=
  ∃ definition, definitions.find? p.name = some definition ∧
    definition.compile p.uniqueName = .ok compiled

theorem names_of_compiles {definitions : Definitions} {ps : List Placeholder}
    {compiled : List (ParameterType × Decoder)}
    (h : List.Forall₂ (Compiles definitions) ps compiled) :
    compiled.map (fun c => c.1.name) = ps.map Placeholder.uniqueName := by
  induction h with
  | nil => rfl
  | cons hc _ ih =>
    obtain ⟨definition, -, hc⟩ := hc
    rw [List.map_cons, List.map_cons, ih, compile_name hc]

/-- A host that takes all types has been told them in order. Their decoders go with the unique
names. -/
theorem registerTypes_overheard [StepHost σ H] {definitions : Definitions} {ps : List Placeholder}
    {d after : Desk σ} {pairs : List (Text × Decoder)} (notices : List (Notice H))
    (h : registerTypes definitions ps d = (.ok pairs, after)) :
    ∃ compiled, List.Forall₂ (Compiles definitions) ps compiled ∧
      pairs = (ps.map Placeholder.uniqueName).zip (compiled.map Prod.snd) ∧
      registerTypes definitions ps (d.overheard notices) =
        (.ok pairs, after.overheard (notices ++ compiled.map fun c => .type c.1)) := by
  -- what has been overheard grows with every type, so the notices vary with the desk
  induction ps generalizing d pairs notices with
  | nil =>
    cases h
    exact ⟨[], .nil, rfl, by simp [registerTypes]⟩
  | cons p ps ih =>
    cases obstacle_or_not definitions p d.host with
    | inl hstop =>
      obtain ⟨failure, hstop⟩ := hstop
      rw [registerTypes_stop hstop] at h
      cases h
    | inr hnext =>
      obtain ⟨definition, type, decoder, host, hd, hc, hh⟩ := hnext
      have hh' : StepHost.defineType type (d.overheard notices).host =
          .ok (⟨host, notices ++ [.type type]⟩ : Overheard σ H) := by
        simp [StepHost.defineType, Desk.overheard, hh, Except.map]
      rw [registerTypes_cons hd hc hh] at h
      cases hrest : registerTypes definitions ps (afterType d host type) with
      | mk result last =>
        rw [hrest] at h
        cases result with
        | error failure => cases h
        | ok rest =>
          cases h
          obtain ⟨compiled, hall, rfl, hover⟩ := ih (notices ++ [.type type]) hrest
          have hdesk : afterType (d.overheard notices) ⟨host, notices ++ [.type type]⟩ type =
              (afterType d host type).overheard (notices ++ [.type type]) := rfl
          refine ⟨(type, decoder) :: compiled, .cons ⟨definition, hd, hc⟩ hall, rfl, ?_⟩
          rw [registerTypes_cons hd hc hh', hdesk, hover]
          simp [Except.map]

/-- The names of the expression that are not built in are the unique names. -/
theorem definedNames_expression {r : Registrar} {phrase : Text} {d : Desk σ}
    (ht : Phrase.IsName (r.tokens d.drawn)) :
    Phrase.definedNames (r.expression phrase d) =
      (r.holders phrase d).map Placeholder.uniqueName := by
  have hnames : Phrase.names (r.expression phrase d) = Phrase.renew (Phrase.names phrase)
      ((r.holders phrase d).map Placeholder.uniqueName) := by
    change Phrase.namesIn (Phrase.pieces _) = _
    rw [pieces_expression ht, Phrase.namesIn_relabel]
    rfl
  have hlength : (Phrase.definedNames phrase).length =
      ((r.holders phrase d).map Placeholder.uniqueName).length := by
    rw [← Phrase.placeholders_names r.settings.separator (r.tokens d.drawn) phrase]
    simp [holders]
  rw [Phrase.definedNames, hnames]
  apply Phrase.filter_renew hlength
  intro name hn
  obtain ⟨p, hp, rfl⟩ := List.mem_map.mp hn
  obtain ⟨-, -, index, hu⟩ := Phrase.mem_placeholders hp
  rw [hu]
  exact Phrase.isBuiltIn_uniqueName _ _ _ index

/-- A registration that succeeds has drawn one token, and made its placeholders with it. The host,
whatever it is, has been told the type of each placeholder that needs a definition, from left to
right, under its unique name, and then the step of the reported expression, and nothing else. The
decoders that are reported are those of these types, each under its unique name. -/
theorem define_told [StepHost σ H] (r : Registrar) (phrase : Text) (handler : H)
    (definitions : Definitions) (d : Desk σ) (notices : List (Notice H)) {registration : Registration}
    (h : (r.define phrase handler definitions d).1 = .ok registration) :
    (r.define phrase handler definitions d).2.drawn = d.drawn + 1 ∧
      registration.phrase = phrase ∧
      registration.placeholders =
        Phrase.placeholders r.settings.separator (r.tokens d.drawn) phrase ∧
      registration.placeholders.map Placeholder.name = Phrase.definedNames phrase ∧
      Phrase.rename phrase registration.placeholders = .ok registration.expression ∧
      (Phrase.IsName (r.tokens d.drawn) → Phrase.definedNames registration.expression =
        registration.placeholders.map Placeholder.uniqueName) ∧
      registration.decoders.names = registration.placeholders.map Placeholder.uniqueName ∧
      ∃ compiled, List.Forall₂ (Compiles definitions) registration.placeholders compiled ∧
        compiled.map (fun c => c.1.name) = registration.placeholders.map Placeholder.uniqueName ∧
        registration.decoders =
          (registration.placeholders.map Placeholder.uniqueName).zip (compiled.map Prod.snd) ∧
        r.define phrase handler definitions (d.overheard notices) =
          (.ok registration, (r.define phrase handler definitions d).2.overheard
            (notices ++ (compiled.map fun c => .type c.1) ++
              [.step registration.expression handler])) := by
  have hdrawn := drawn_define h
  obtain ⟨ignored, pairs, after, host, events, hcheck, ht, hs⟩ := exists_of_define_eq_ok h
  obtain ⟨compiled, hall, rfl, hover⟩ := registerTypes_overheard notices ht
  have hkeys : (((r.holders phrase d).map Placeholder.uniqueName).zip
      (compiled.map Prod.snd)).map (·.1) = (r.holders phrase d).map Placeholder.uniqueName := by
    apply List.map_fst_zip
    simp [hall.length_eq]
  -- no two unique names are the same, so no decoder takes the place of another
  have hpairs := Table.ofPairs_eq (hkeys ▸ uniqueNames_nodup r phrase d)
  have hs' : StepHost.defineStep (r.expression phrase d) handler
      (after.overheard (notices ++ compiled.map fun c => .type c.1)).host =
        .ok ((⟨host, notices ++ (compiled.map fun c => .type c.1) ++
          [.step (r.expression phrase d) handler]⟩ : Overheard σ H), events) := by
    simp [StepHost.defineStep, Desk.overheard, hs, Except.map]
  have hdefine : r.define phrase handler definitions d = _ := define_of_types hcheck ht
  have hdefine' : r.define phrase handler definitions (d.overheard notices) = _ :=
    define_of_types hcheck hover
  rw [hs, hpairs] at hdefine
  rw [expression_overheard, holders_overheard, hs', hpairs] at hdefine'
  rw [hdefine] at h
  cases h
  refine ⟨hdrawn, rfl, rfl, Phrase.placeholders_names _ _ phrase, Phrase.rename_eq _ _ phrase,
    definedNames_expression, hkeys, compiled, hall, names_of_compiles hall, rfl, ?_⟩
  rw [hdefine, hdefine']
  rfl

def twofoldPhrase : Text := ['{', 'a', '}', '{', 'i', 'n', 't', '}', '{', 'a', '}']

def twofoldDefinitions : Definitions := [(['a'], .string)]

def recordingDesk : Desk (Recorder Unit) := ⟨.empty, 0, []⟩

def twofoldRegistration : Registration where
  phrase := twofoldPhrase
  expression := Phrase.braced ['a', '_', '_', 't', '_', '0'] ++ Phrase.braced ['i', 'n', 't'] ++
    Phrase.braced ['a', '_', '_', 't', '_', '1']
  placeholders :=
    [⟨Phrase.braced ['a'], ['a'], ['a', '_', '_', 't', '_', '0']⟩,
      ⟨Phrase.braced ['a'], ['a'], ['a', '_', '_', 't', '_', '1']⟩]
  decoders := [(['a', '_', '_', 't', '_', '0'], .text), (['a', '_', '_', 't', '_', '1'], .text)]

/-- Both places have a type and a decoder of their own. -/
theorem define_told_twofold :
    ((⟨{}, fun _ => ['t']⟩ : Registrar).define twofoldPhrase () twofoldDefinitions
        recordingDesk).1 = .ok twofoldRegistration ∧
      Phrase.IsName ['t'] ∧
      Phrase.definedNames twofoldRegistration.expression =
        twofoldRegistration.placeholders.map Placeholder.uniqueName ∧
      ∃ compiled,
        List.Forall₂ (Compiles twofoldDefinitions) twofoldRegistration.placeholders compiled ∧
        (⟨{}, fun _ => ['t']⟩ : Registrar).define twofoldPhrase () twofoldDefinitions
            (recordingDesk.overheard []) =
          (.ok twofoldRegistration, ((⟨{}, fun _ => ['t']⟩ : Registrar).define twofoldPhrase ()
            twofoldDefinitions recordingDesk).2.overheard
              ([] ++ (compiled.map fun c => .type c.1) ++
                [.step twofoldRegistration.expression ()])) := by
  have hok : ((⟨{}, fun _ => ['t']⟩ : Registrar).define twofoldPhrase () twofoldDefinitions
      recordingDesk).1 = .ok twofoldRegistration := rfl
  have ht : Phrase.IsName ['t'] := by decide
  obtain ⟨-, -, -, -, -, hnames, -, compiled, hall, -, -, hover⟩ :=
    define_told ⟨{}, fun _ => ['t']⟩ twofoldPhrase () twofoldDefinitions recordingDesk [] hok
  exact ⟨hok, ht, hnames ht, compiled, hall, hover⟩

end Registrar

end Phrasebook
