import Mathlib.Data.List.Induction
import Phrasebook.Proofs.Acceptance
import Phrasebook.Proofs.Lookup

/-!
# What becomes of a registered step

A registration that succeeds with a shared registry has told it of a step, but that is not to say
that the step is there. The registry drops a step whose format it knows, without a word, and sets
one aside that cannot read the empty text. Unique names keep the formats of different registrations
apart, so only a phrase that has no placeholders of its own can be dropped.
-/

namespace Phrasebook

open Phrase (namesIn)

variable {H : Type}

namespace StepRegistry

/-- What has become of a step with a handler and a format. -/
inductive Fate (handler : H) (format : Text) (before after : StepRegistry H) : Prop
  /-- It stands after all others, of which none has its format. -/
  | added {step : SharedStep H} (hh : step.handler = handler) (hf : step.template.format = format)
      (hs : after.steps = before.steps ++ [step]) (hb : after.bad = before.bad)
      (hn : ∀ earlier ∈ before.steps, earlier.template.format ≠ format)
  /-- It is dropped, for an earlier one has its format. -/
  | dropped {earlier : SharedStep H} (he : earlier ∈ before.steps)
      (hf : earlier.template.format = format) (hs : after.steps = before.steps)
      (hb : after.bad = before.bad)
  /-- It cannot read the empty text. -/
  | setAside {step : SharedStep H} {failure : Failure} (hf : step.template.format = format)
      (hr : step.read [] = .error failure) (hs : after.steps = before.steps)
      (hb : after.bad = before.bad ++ [format])

theorem ne_of_verdict_fresh {format : Text} {steps : List (SharedStep H)}
    (h : verdict format steps = .fresh) : ∀ step ∈ steps, step.template.format ≠ format := by
  induction steps with
  | nil => exact fun _ hm => absurd hm List.not_mem_nil
  | cons step rest ih =>
    rw [verdict] at h
    split at h
    · cases h
    · next hne =>
      split at h
      · cases h
      · intro other hm
        cases List.mem_cons.mp hm with
        | inl he => exact he ▸ hne
        | inr hr => exact ih h other hr

theorem verdict_fresh {format : Text} {steps : List (SharedStep H)}
    (h : ∀ step ∈ steps, step.template.format ≠ format ∧ step.read format = .ok none) :
    verdict format steps = .fresh := by
  induction steps with
  | nil => rfl
  | cons step rest ih =>
    obtain ⟨hne, hread⟩ := h step List.mem_cons_self
    rw [verdict, if_neg hne, hread]
    exact ih fun other ho => h other (List.mem_cons_of_mem _ ho)

theorem addStep_fresh {r : StepRegistry H} {step : SharedStep H}
    {found : Option (List (Reading Argument))} (hr : step.read [] = .ok found)
    (hv : verdict step.template.format r.steps = .fresh) :
    r.addStep step = .ok { r with steps := r.steps ++ [step] } := by
  simp only [addStep, hr, hv]

/-- A step that is not refused has one of three fates. -/
theorem fate_of_addStep {r after : StepRegistry H} {step : SharedStep H}
    (h : r.addStep step = .ok after) : Fate step.handler step.template.format r after := by
  rw [addStep] at h
  split at h
  · next failure hr =>
    cases h
    exact .setAside rfl hr rfl rfl
  · split at h
    · next hv =>
      cases h
      exact .added rfl rfl rfl rfl (ne_of_verdict_fresh hv)
    · next hv =>
      cases h
      obtain ⟨earlier, he, hf⟩ := exists_of_verdict_known hv
      exact .dropped he hf rfl rfl
    · cases h

end StepRegistry

namespace Request

variable {q : Request H} {d : Desk (SharedHost H)}

def format {σ : Type} (q : Request H) (d : Desk σ) : Text :=
  (Phrase.pieces (q.registrar.expression q.phrase d)).flatMap Format.written

/-- A request that succeeds has handed types on, and then its step. -/
theorem exists_of_make {registration : Registration} (h : (q.make d).1 = .ok registration) :
    ∃ types, List.Forall₂ (Registrar.Gives q.definitions) (q.registrar.holders q.phrase d) types ∧
      Format.ofExpression (d.host.withTypes types).known.contains
        (q.registrar.expression q.phrase d) = .ok (q.format d) ∧
      (d.host.withTypes types).registry.addStep
        ⟨.ofFormat (d.host.withTypes types).registry.fieldType (q.format d), q.handler⟩ =
          .ok (q.make d).2.host.registry := by
  obtain ⟨types, hends⟩ := q.make_ends d
  rw [h] at hends
  cases hends with
  | @registered _ host events ht hh hs =>
    rw [SharedHost.defineTypes_eq] at hh
    cases hh
    obtain ⟨format, registry, hf, hadd, hafter⟩ := SharedHost.exists_of_defineStep hs
    have hk := Format.known_of_ofPieces hf
    have hformat : Format.ofExpression (d.host.withTypes types).known.contains
        (q.registrar.expression q.phrase d) = .ok (q.format d) := Format.ofPieces_eq hk
    rw [hf] at hformat
    cases hformat
    refine ⟨types, ht, hf, ?_⟩
    rw [hadd, hafter]

theorem fate_of_make {registration : Registration} (h : (q.make d).1 = .ok registration) :
    StepRegistry.Fate q.handler (q.format d) d.host.registry (q.make d).2.host.registry := by
  obtain ⟨types, -, -, hadd⟩ := exists_of_make h
  cases StepRegistry.fate_of_addStep hadd with
  | added hh hf hs hb hn => exact .added hh hf hs hb hn
  | dropped he hf hs hb => exact .dropped he hf hs hb
  | setAside hf hr hs hb => exact .setAside hf hr hs hb

/-- A request that fails adds no step, and sets none aside. -/
theorem steps_of_failed {failure : Failure} (h : (q.make d).1 = .error failure) :
    (q.make d).2.host.registry.steps = d.host.registry.steps ∧
      (q.make d).2.host.registry.bad = d.host.registry.bad := by
  obtain ⟨types, hends⟩ := q.make_ends d
  rw [h] at hends
  have htyped : ∀ {types : List ParameterType} {after : SharedHost H},
      Registrar.defineTypes types d.host = .ok after →
        after.registry.steps = d.host.registry.steps ∧ after.registry.bad = d.host.registry.bad := by
    intro types after hh
    rw [SharedHost.defineTypes_eq] at hh
    cases hh
    exact ⟨rfl, rfl⟩
  cases hends with
  | mismatched _ hh => exact hh ▸ ⟨rfl, rfl⟩
  | stopped _ _ hh _ _ => exact htyped hh
  | rejected _ hh _ => exact htyped hh

/-- If all types say rightly how many groups they have, a step can read the empty text. -/
theorem exists_read_nil {base : StepRegistry H} (hs : d.host.Sound ParameterType.Regular base)
    (hr : q.Regular) {types : List ParameterType}
    (hall : List.Forall₂ (Registrar.Gives q.definitions) (q.registrar.holders q.phrase d) types)
    (hf : Format.ofExpression (d.host.withTypes types).known.contains
      (q.registrar.expression q.phrase d) = .ok (q.format d)) :
    ∃ found, SharedStep.read ⟨.ofFormat (d.host.withTypes types).registry.fieldType (q.format d),
      q.handler⟩ [] = .ok found := by
  have hregular : ∀ t ∈ types, t.Regular := by
    intro t hm
    obtain ⟨p, hp, hg⟩ := exists_left hall hm
    exact (regular_of_gives hr hp hg).2
  have htyped : (d.host.withTypes types).Sound ParameterType.Regular base :=
    Registrar.of_defineTypes (fun _ _ _ hp hq hd => hq.defineType hp hd) hregular hs
      (SharedHost.defineTypes_eq types d.host)
  have hk := Format.known_of_ofPieces hf
  exact SharedStep.exists_read_nil (fun name hn => htyped.handedOn (hk name hn)) rfl

/-- Then no step is set aside. -/
theorem bad_of_make {base : StepRegistry H} (hs : d.host.Sound ParameterType.Regular base)
    (hr : q.Regular) : (q.make d).2.host.registry.bad = d.host.registry.bad := by
  cases h : (q.make d).1 with
  | error failure => exact (steps_of_failed h).2
  | ok registration =>
    obtain ⟨types, hall, hf, hadd⟩ := exists_of_make h
    obtain ⟨found, hread⟩ := exists_read_nil hs hr hall hf
    rcases StepRegistry.addStep_cases hread hadd with he | ⟨he, -⟩
    · rw [he]
      rfl
    · rw [he]
      rfl

/-- The format of a phrase can be written once its types are handed on. -/
theorem format_eq (hb : ∀ b, TypeName.ofBuiltIn b ∈ d.host.known)
    (ht : Phrase.IsName (q.registrar.tokens d.drawn)) {types : List ParameterType}
    (hall : List.Forall₂ (Registrar.Gives q.definitions) (q.registrar.holders q.phrase d) types) :
    Format.ofExpression (d.host.withTypes types).known.contains (q.registrar.expression q.phrase d) =
      .ok (q.format d) := by
  refine Format.ofPieces_eq fun name hn => List.contains_iff_mem.mpr ?_
  rw [Registrar.pieces_expression ht] at hn
  rcases Phrase.isBuiltIn_or_unique (Registrar.holders_names _ _ d) hn with hbuiltIn | ⟨p, hp, rfl⟩
  · obtain ⟨b, rfl⟩ := Phrase.isBuiltIn_iff.mp hbuiltIn
    exact SharedHost.mem_known_withTypes (.inl (TypeName.ofName_builtIn b ▸ hb b))
  · obtain ⟨t, hm, hg⟩ := exists_right hall hp
    exact SharedHost.mem_known_withTypes (.inr ⟨t, hm, by rw [Registrar.name_of_gives hg]⟩)

/-- A phrase that goes with its definitions adds a step, if all types say rightly how many groups they
have and no earlier step has the format or takes it for a step text. -/
theorem exists_added {base : StepRegistry H} (hsound : d.host.Sound ParameterType.Regular base)
    (hb : ∀ b, TypeName.ofBuiltIn b ∈ d.host.known)
    (ht : Phrase.IsName (q.registrar.tokens d.drawn)) {events : List Event}
    (hcheck : Registrar.check q.registrar.settings q.phrase q.definitions = .ok events)
    (hs : q.Supported) (hr : q.Regular)
    (hnew : ∀ earlier ∈ d.host.registry.steps,
      earlier.template.format ≠ q.format d ∧ earlier.read (q.format d) = .ok none) :
    ∃ step, (q.make d).2.host.registry.steps = d.host.registry.steps ++ [step] := by
  cases h : (q.make d).1 with
  | ok registration =>
    cases fate_of_make h with
    | added _ _ hsteps _ _ => exact ⟨_, hsteps⟩
    | dropped he hf _ _ => exact absurd hf (hnew _ he).1
    | setAside _ _ _ hbad =>
      rw [bad_of_make hsound hr] at hbad
      simp at hbad
  | error failure =>
    exfalso
    obtain ⟨types, hends⟩ := q.make_ends d
    rw [h] at hends
    cases hends with
    | mismatched herror _ =>
      rw [hcheck] at herror
      cases herror
    | @stopped left right p types _ hsplit _ _ hdefined hobstacle =>
      have hp : p ∈ q.registrar.holders q.phrase d := by simp [hsplit]
      have hname := (Phrase.mem_placeholders hp).2.1
      cases hobstacle with
      | undefined hnone _ => exact hdefined hnone
      | unsupported definition hfind hcompile =>
        obtain ⟨found, hfound⟩ := Registrar.exists_compile
          (fun value he => hs p.name hname value (he ▸ hfind)) p.uniqueName
        rw [hfound] at hcompile
        cases hcompile
      | refused type _ hrefused => cases hrefused
    | @rejected types _ hall hh hrefused =>
      rw [SharedHost.defineTypes_eq] at hh
      rw [← Except.ok.inj hh] at hrefused
      have hformat := format_eq hb ht hall
      obtain ⟨found, hread⟩ := exists_read_nil hsound hr hall hformat
      have hadd := StepRegistry.addStep_fresh (r := (d.host.withTypes types).registry) hread
        (StepRegistry.verdict_fresh hnew)
      change SharedHost.defineStep _ _ _ = _ at hrefused
      simp only [SharedHost.defineStep, hformat] at hrefused
      cases hadd.symm.trans (eq_error_of_map hrefused)

/-- The names in the step's expression are built in, or unique names made with the request's token. -/
theorem builtIn_or_bears {σ : Type} {d : Desk σ} (ht : Phrase.IsName (q.registrar.tokens d.drawn))
    {name : Text} (hn : name ∈ Phrase.names (q.registrar.expression q.phrase d)) :
    isBuiltIn name = true ∨ Bears [q.registrar.tokens d.drawn] name := by
  rw [Phrase.names, Registrar.pieces_expression ht] at hn
  rcases Phrase.isBuiltIn_or_unique (Registrar.holders_names _ _ d) hn with hb | ⟨p, hp, rfl⟩
  · exact .inl hb
  · obtain ⟨-, -, index, hu⟩ := Phrase.mem_placeholders hp
    exact .inr ⟨_, _, _, index, List.mem_cons_self, hu⟩

/-- A phrase with placeholders of its own has a unique name in its expression. -/
theorem exists_unique {σ : Type} {d : Desk σ} (ht : Phrase.IsName (q.registrar.tokens d.drawn))
    (hn : Phrase.definedNames q.phrase ≠ []) :
    ∃ separator old index, Phrase.uniqueName separator (q.registrar.tokens d.drawn) old index ∈
      Phrase.names (q.registrar.expression q.phrase d) := by
  obtain ⟨name, hname⟩ := List.exists_mem_of_ne_nil _ hn
  obtain ⟨hm, hb⟩ := List.mem_filter.mp hname
  obtain ⟨other, ho, hr⟩ :=
    exists_left (Phrase.names_relabel (Registrar.holders_names q.registrar q.phrase d)) hm
  rcases hr with ⟨hbuiltIn, -⟩ | ⟨p, hp, hu, -⟩
  · rw [hbuiltIn] at hb
    cases hb
  · obtain ⟨-, -, index, hunique⟩ := Phrase.mem_placeholders hp
    refine ⟨q.registrar.settings.separator, p.name, index, ?_⟩
    rw [Phrase.names, Registrar.pieces_expression ht, ← hunique, ← hu]
    exact ho

/-- The format of a phrase that begins with a placeholder begins with a brace. -/
theorem exists_format_eq_cons {σ : Type} {d : Desk σ} (ht : Phrase.IsName (q.registrar.tokens d.drawn))
    {name : Text} {ps : List Phrase.Piece} (h : Phrase.pieces q.phrase = .hole name :: ps) :
    ∃ rest, q.format d = '\x7b' :: rest := by
  obtain ⟨other, rest, hrelabel⟩ := Phrase.exists_relabel_hole name ps
    ((q.registrar.holders q.phrase d).map Placeholder.uniqueName)
  rw [format, Registrar.pieces_expression ht, h, hrelabel]
  exact ⟨_, rfl⟩

/-- Phrases with the same format have the same number of placeholders. -/
theorem length_names_of_format_eq {σ : Type} {q q' : Request H} {d d' : Desk σ}
    (ht : Phrase.IsName (q.registrar.tokens d.drawn))
    (ht' : Phrase.IsName (q'.registrar.tokens d'.drawn)) (h : q.format d = q'.format d') :
    (Phrase.names q.phrase).length = (Phrase.names q'.phrase).length := by
  have hfields : ∀ {q : Request H} {d : Desk σ}, Phrase.IsName (q.registrar.tokens d.drawn) →
      (Template.ofFormat (fun _ => (.anything : FieldType Value)) (q.format d)).fields.length =
        (Phrase.names q.phrase).length := by
    intro q d ht
    have hnames := (Phrase.names_relabel (Registrar.holders_names q.registrar q.phrase d)).length_eq
    rw [← Registrar.pieces_expression ht] at hnames
    rw [format, Template.ofFormat_written _ (Registrar.underscore_mem_names ht q.phrase),
      ← List.length_map Field.type, Template.types_numbered, List.length_map, hnames]
    rfl
  rw [← hfields ht, ← hfields ht', h]

end Request

namespace Hosts

/-- A host is made, or a phrase is registered. -/
def Move.Registers : Move H → Prop
  | newHost => True
  | on _ (.register _) => True
  | on _ _ => False

def Move.Draws (token : Text) (hosts : Hosts H) (move : Move H) : Prop :=
  ∃ place q, move = .on place (.register q) ∧ place < hosts.known.length ∧
    (hosts.make move).1 = .ok () ∧ token = q.registrar.tokens hosts.drawn

def Drawn (token : Text) (moves : List (Move H)) : Prop :=
  ∃ before move later, moves = before ++ move :: later ∧ move.Draws token (none.after before)

theorem Drawn.append {token : Text} {moves : List (Move H)} (h : Drawn token moves)
    (more : List (Move H)) : Drawn token (moves ++ more) := by
  obtain ⟨before, move, later, rfl, hd⟩ := h
  exact ⟨before, move, later ++ more, by simp, hd⟩

/-- A registration with a host that is there, by the request at the desk of that host. -/
theorem make_register {hosts : Hosts H} {place : Nat} {known : List Text}
    (hk : hosts.known[place]? = some known) (q : Request H) :
    (hosts.make (.on place (.register q))).1 = ((q.make (hosts.deskOf known)).1.map fun _ => ()) ∧
      (hosts.make (.on place (.register q))).2.registry =
        (q.make (hosts.deskOf known)).2.host.registry := by
  rw [make, hk]
  exact ⟨rfl, rfl⟩

/-- The format is written for names that are built in or made with tokens that have been drawn. -/
def Marked (moves : List (Move H)) (format : Text) : Prop :=
  ∃ ps, format = ps.flatMap Format.written ∧ ∀ name ∈ namesIn ps,
    isBuiltIn name = true ∨ ∃ token, Drawn token moves ∧ Request.Bears [token] name

/-- Where only phrases are registered, every format of the registry is marked. The induction is on
the moves from the last one back, which adds at most one step. -/
theorem marked_after {moves : List (Move H)} (hr : ∀ move ∈ moves, move.Registers)
    (hn : ∀ token, Drawn token moves → Phrase.IsName token) :
    ∀ step ∈ (none.after moves).registry.steps, Marked moves step.template.format := by
  induction moves using List.reverseRecOn with
  | nil => exact fun _ hm => absurd hm List.not_mem_nil
  | append_singleton moves move ih =>
    have hbefore := ih (fun other ho => hr other (List.mem_append_left _ ho))
      fun token ht => hn token (ht.append [move])
    have hold : ∀ step ∈ (none.after moves).registry.steps,
        Marked (moves ++ [move]) step.template.format := by
      intro step hm
      obtain ⟨ps, hf, hall⟩ := hbefore step hm
      exact ⟨ps, hf, fun name hname => (hall name hname).imp_right
        fun ⟨token, ht, hb⟩ => ⟨token, ht.append [move], hb⟩⟩
    have hlast : none.after (moves ++ [move]) = ((none.after moves).make move).2 :=
      after_append moves [move] none
    rw [hlast]
    cases move with
    | newHost => exact hold
    | on place call =>
      cases call with
      | defineType t => exact (hr (.on place (.defineType t)) (by simp)).elim
      | defineStep expression handler =>
        exact (hr (.on place (.defineStep expression handler)) (by simp)).elim
      | register q =>
        cases hk : (none.after moves).known[place]? with
        | none =>
          rw [make, hk]
          exact hold
        | some known =>
          obtain ⟨hresult, hregistry⟩ := make_register hk q
          rw [hregistry]
          cases hq : (q.make ((none.after moves).deskOf known)).1 with
          | error failure =>
            rw [(Request.steps_of_failed hq).1]
            exact hold
          | ok registration =>
            rw [hq] at hresult
            have hdrawn : Drawn (q.registrar.tokens (none.after moves).drawn)
                (moves ++ [.on place (.register q)]) :=
              ⟨moves, _, [], rfl, place, q, rfl, (List.getElem?_eq_some_iff.mp hk).1, hresult, rfl⟩
            cases Request.fate_of_make hq with
            | dropped _ _ hs _ =>
              rw [hs]
              exact hold
            | setAside _ _ hs _ =>
              rw [hs]
              exact hold
            | added _ hf hs _ _ =>
              rw [hs]
              intro step hm
              cases List.mem_append.mp hm with
              | inl ho => exact hold step ho
              | inr hnew =>
                rw [List.mem_singleton.mp hnew, hf]
                refine ⟨_, rfl, fun name hname => ?_⟩
                refine (Request.builtIn_or_bears (hn _ hdrawn) hname).imp_right fun hb => ?_
                exact ⟨_, hdrawn, hb⟩

/-- No registration that has succeeded drew the token, and all tokens are names of one length. -/
def Fresh (moves : List (Move H)) (token : Text) : Prop :=
  Phrase.IsName token ∧ ∀ other, Drawn other moves →
    Phrase.IsName other ∧ other.length = token.length ∧ other ≠ token

/-- A format that holds a unique name made with a fresh token is not that of any earlier step. -/
theorem ne_format_of_fresh {moves : List (Move H)} (hr : ∀ move ∈ moves, move.Registers)
    {q : Request H} (hf : Fresh moves (q.registrar.tokens (none.after moves).drawn))
    (hn : Phrase.definedNames q.phrase ≠ []) (known : List Text) :
    ∀ earlier ∈ (none.after moves).registry.steps,
      earlier.template.format ≠ q.format ((none.after moves).deskOf known) := by
  intro earlier he hsame
  obtain ⟨ps, hps, hmarked⟩ := marked_after hr (fun token ht => (hf.2 token ht).1) earlier he
  obtain ⟨separator, old, index, hu⟩ :=
    Request.exists_unique (q := q) (d := (none.after moves).deskOf known) hf.1 hn
  have hfield : .field [] (TypeName.ofName (Phrase.uniqueName separator
      (q.registrar.tokens (none.after moves).drawn) old index)) ∈
        Format.parts (ps.flatMap Format.written) := by
    rw [← hps, hsame]
    exact Format.field_mem_parts_written.mpr ⟨rfl, _, hu, rfl⟩
  obtain ⟨-, other, ho, hother⟩ := Format.field_mem_parts_written.mp hfield
  rw [← TypeName.ofName_injective hother] at ho
  rcases hmarked _ ho with hb | ⟨token, ht, separator', token', old', index', hm, hb⟩
  · rw [Phrase.isBuiltIn_uniqueName] at hb
    cases hb
  · rw [List.mem_singleton.mp hm] at hb
    obtain ⟨-, hlength, hne⟩ := hf.2 token ht
    exact hne (Phrase.token_of_uniqueName hb hlength.symm).symm

/-- What becomes of a phrase that is registered with a host of a shared registry, whatever hosts have
done before. If the registration succeeds, its step is added with its own handler, or dropped for
one that has its format, or set aside; if it fails, no step is added. No step is set aside where all
types say rightly how many groups they have. And none is dropped that has placeholders of its own,
where only phrases are registered and their tokens differ. -/
theorem fate_of_register (moves : List (Move H)) {place : Nat} {known : List Text}
    (hk : (none.after moves).known[place]? = some known) (q : Request H) :
    (((none.after moves).make (.on place (.register q))).1 = .ok () →
        StepRegistry.Fate q.handler (q.format ((none.after moves).deskOf known))
          (none.after moves).registry ((none.after moves).make (.on place (.register q))).2.registry) ∧
      (∀ failure, ((none.after moves).make (.on place (.register q))).1 = .error failure →
        ((none.after moves).make (.on place (.register q))).2.registry.steps =
            (none.after moves).registry.steps ∧
          ((none.after moves).make (.on place (.register q))).2.registry.bad =
            (none.after moves).registry.bad) ∧
      ((∀ move ∈ moves, move.Regular) → q.Regular →
        ((none.after moves).make (.on place (.register q))).2.registry.bad =
          (none.after moves).registry.bad) ∧
      ((∀ move ∈ moves, move.Registers) →
        Fresh moves (q.registrar.tokens (none.after moves).drawn) →
        Phrase.definedNames q.phrase ≠ [] →
          ∀ earlier ∈ (none.after moves).registry.steps,
            earlier.template.format ≠ q.format ((none.after moves).deskOf known)) := by
  obtain ⟨hresult, hregistry⟩ := make_register hk q
  rw [hresult, hregistry]
  refine ⟨fun hok => ?_, fun failure hfail => ?_, fun hmoves hq => ?_, fun hr hf hn => ?_⟩
  · obtain ⟨registration, hmake, -⟩ := exists_of_map_eq_ok hok
    exact Request.fate_of_make hmake
  · exact Request.steps_of_failed (eq_error_of_map hfail)
  · have hsound := sound_none.after fun move hm => (hmoves move hm).tells
    have hhost : ((none.after moves).deskOf known).host.Sound ParameterType.Regular
        (none.after moves).registry :=
      ⟨hsound.handed, hsound.known known (List.mem_of_getElem? hk), fun _ h => h⟩
    exact Request.bad_of_make hhost hq
  · exact ne_format_of_fresh hr hf hn known

def greeting (handler : Bool) : Request Bool := ⟨⟨{}, fun n => Text.decimal n⟩, ['h', 'i'], handler, []⟩

def naming : Request Bool :=
  ⟨⟨{}, fun n => Text.decimal n⟩, 'a' :: Phrase.braced ['n'], true, [(['n'], .string)]⟩

def greeted : List (Move Bool) :=
  [.newHost, .on 0 (.register naming), .on 0 (.register (greeting true))]

theorem drawn_greeted {token : Text} (h : Drawn token greeted) : token = ['0'] ∨ token = ['1'] := by
  obtain ⟨before, move, later, he, place, q, rfl, -, -, ht⟩ := h
  rcases before with _ | ⟨a, _ | ⟨b, _ | ⟨c, before⟩⟩⟩
  · cases he
  · obtain ⟨rfl, hrest⟩ := List.cons.inj he
    cases (List.cons.inj hrest).1
    exact .inl ht
  · obtain ⟨rfl, hrest⟩ := List.cons.inj he
    obtain ⟨rfl, hlast⟩ := List.cons.inj hrest
    cases (List.cons.inj hlast).1
    have hdrawn : (none.after [.newHost, .on 0 (.register naming)]).drawn = 1 := by decide +kernel
    rw [hdrawn] at ht
    exact .inr ht
  · simp [greeted] at he

/-- The second greeting succeeds, and no step has its handler; the other phrase has a format of its
own when it is registered again. -/
theorem fate_of_register_greeting :
    ∃ known, (none.after greeted).known[0]? = some known ∧
      ((none.after greeted).make (.on 0 (.register (greeting false)))).1 = .ok () ∧
      StepRegistry.Fate false ((greeting false).format ((none.after greeted).deskOf known))
        (none.after greeted).registry
        ((none.after greeted).make (.on 0 (.register (greeting false)))).2.registry ∧
      (∀ step ∈ ((none.after greeted).make (.on 0 (.register (greeting false)))).2.registry.steps,
        step.handler = true) ∧
      ((none.after greeted).make (.on 0 (.register (greeting false)))).2.registry.bad =
        (none.after greeted).registry.bad ∧
      Fresh greeted (naming.registrar.tokens (none.after greeted).drawn) ∧
      ∀ earlier ∈ (none.after greeted).registry.steps,
        earlier.template.format ≠ naming.format ((none.after greeted).deskOf known) := by
  have hlength : 0 < (none.after greeted).known.length := by decide +kernel
  have hk := List.getElem?_eq_getElem hlength
  obtain ⟨hfate, -, hbad, -⟩ := fate_of_register greeted hk (greeting false)
  obtain ⟨-, -, -, happart⟩ := fate_of_register greeted hk naming
  have hok : ((none.after greeted).make (.on 0 (.register (greeting false)))).1 = .ok () := by
    have hisOk : ((none.after greeted).make (.on 0 (.register (greeting false)))).1.isOk = true := by
      decide +kernel
    obtain ⟨result, hresult⟩ := exists_of_isOk hisOk
    exact hresult
  have hnaming : naming.Regular := by
    intro name _ definition hd
    cases List.mem_singleton.mp (Table.mem_of_find? hd)
    trivial
  have hgreeting : ∀ handler, (greeting handler).Regular := fun handler name hn => by cases hn
  have hregular : ∀ move ∈ greeted, move.Regular := by
    intro move hm
    simp only [greeted, List.mem_cons, List.not_mem_nil, or_false] at hm
    rcases hm with rfl | rfl | rfl
    · trivial
    · exact hnaming
    · exact hgreeting true
  have hregisters : ∀ move ∈ greeted, move.Registers := by
    intro move hm
    simp only [greeted, List.mem_cons, List.not_mem_nil, or_false] at hm
    rcases hm with rfl | rfl | rfl <;> trivial
  have hdrawn : (none.after greeted).drawn = 2 := by decide +kernel
  have hfresh : Fresh greeted (naming.registrar.tokens (none.after greeted).drawn) := by
    rw [hdrawn]
    refine ⟨Phrase.isName_decimal 2, fun other ho => ?_⟩
    rcases drawn_greeted ho with rfl | rfl
    · exact ⟨Phrase.isName_decimal 0, rfl, by decide⟩
    · exact ⟨Phrase.isName_decimal 1, rfl, by decide⟩
  have hown : Phrase.definedNames naming.phrase ≠ [] := by decide +kernel
  refine ⟨_, hk, hok, hfate hok, ?_, hbad hregular (hgreeting false), hfresh,
    happart hregisters hfresh hown⟩
  have hall : (((none.after greeted).make (.on 0 (.register (greeting false)))).2.registry.steps.all
      (·.handler)) = true := by decide +kernel
  exact List.all_eq_true.mp hall

end Hosts

end Phrasebook
