import Phrasebook.Proofs.Host.Several
import Phrasebook.Proofs.HostsAgree

/-!
# Look-ups that fail

A shared registry looks for the step of a text before any step is run. The conversion of a parameter
type cannot fail there: the failure takes the place of the value and is raised by the run. What can
fail is the conversion of a built-in type, or a field that finds no group because some type says
wrongly how many groups it has. Where all types say that rightly, each built-in conversion gets a
text that its own pattern has taken, and only integers are left: those with too many digits.
-/

namespace Phrasebook

open Phrase (namesIn)

variable {H : Type}

inductive SharedStep.Fault (step : SharedStep H) (failure : Failure) : Prop
  | noCapture (h : failure = .captureMissing)
  | noGroup (h : failure = .groupMissing)
  /-- The conversion of a built-in type that a field of the step has. -/
  | builtIn {b : BuiltIn} {value : Value}
      (hf : .field [] (TypeName.ofBuiltIn b) ∈ Format.parts step.template.format)
      (hc : b.convert value = .error failure)

/-- A conversion that was handed on fails only if it is that of a built-in type. -/
theorem HandedOn.of_error {P : ParameterType → Prop} {name : Text} {type : FieldType Argument}
    (h : HandedOn P name type) {old : Argument} {failure : Failure}
    (hf : type.convert old = .error failure) :
    ∃ b : BuiltIn, name = TypeName.ofBuiltIn b ∧ b.convert old.seen = .error failure := by
  cases h with
  | @builtIn b hn ht =>
    rw [ht] at hf
    exact ⟨b, hn, eq_error_of_map hf⟩
  | defined _ _ ht =>
    rw [ht] at hf
    exact absurd hf (Argument.deferring_ne_error _ old failure)

namespace SharedStep.Resolved

variable {P : ParameterType → Prop} {step : SharedStep H}

theorem exists_compiled (h : step.Resolved P) : ∃ found, step.template.compiled = .ok found := by
  obtain ⟨_, _, -, -, found, hread⟩ := h
  cases hc : step.template.compiled with
  | error failure =>
    rw [SharedStep.read, Template.read, hc] at hread
    cases hread
  | ok found => exact ⟨found, rfl⟩

/-- Whatever the types say of their groups, no conversion of a parameter type fails. -/
theorem fault_of_read (h : step.Resolved P) {text : Text} {failure : Failure}
    (hr : step.read text = .error failure) : step.Fault failure := by
  obtain ⟨found, hc⟩ := h.exists_compiled
  obtain ⟨types, ps, hall, htemplate, -⟩ := h
  rcases Template.read_eq_error hc hr with hcapture | hgroup | ⟨f, hf, old, hfail⟩
  · exact .noCapture hcapture
  · exact .noGroup hgroup
  · have hfields : f ∈ Template.fieldsFrom types 0 (Format.parts (ps.flatMap Format.written)) := by
      rw [htemplate] at hf
      exact hf
    obtain ⟨name, type, hm, htype⟩ := Template.type_of_mem_fieldsFrom hfields
    obtain ⟨rfl, other, ho, rfl⟩ := Format.field_mem_parts_written.mp hm
    rw [htype] at hfail
    obtain ⟨b, hb, hfail⟩ := (hall other ho).of_error hfail
    refine .builtIn ?_ hfail
    rw [htemplate, ← hb]
    exact hm

end SharedStep.Resolved

/-- What the group of a type may hold: anything for a parameter type, and for a built-in type what
its own pattern is read as. -/
inductive HandedOn.Fits (name : Text) (type : FieldType Argument) (k : Nat) (p : Pattern) : Prop
  | builtIn {b : BuiltIn} (hn : name = TypeName.ofBuiltIn b)
      (ht : type = b.fieldType.handedOn Argument.raising)
      (hp : p = Pattern.row (Pattern.builtInItems b))
  | defined {t : ParameterType} (ht : type = t.fieldType.handedOn Argument.deferring)

theorem HandedOn.adds {types : Text → FieldType Argument} {name : Text}
    (h : HandedOn ParameterType.Regular (TypeName.ofName name) (types (TypeName.ofName name))) :
    (Template.signedType types name).Adds [] ((types (TypeName.ofName name)).groups.getD 0).toNat
      (HandedOn.Fits (TypeName.ofName name) (types (TypeName.ofName name))) := by
  cases h with
  | @builtIn b hn ht =>
    have hname : isBuiltIn name = true := by
      rw [← TypeName.ofName_builtIn] at hn
      exact Phrase.isBuiltIn_iff.mpr ⟨b, (TypeName.ofName_injective hn).symm⟩
    have hreads : (types (TypeName.ofName name)).ReadsAs (Pattern.builtInItems b) := by
      rw [ht]
      exact ⟨Pattern.reads_builtIn b, Pattern.head?_builtIn b, Pattern.plain_builtInItems b, rfl⟩
    have hzero : ((types (TypeName.ofName name)).groups.getD 0).toNat = 0 := by
      rw [hreads.groups]
      rfl
    rw [hzero, Template.signedType, Template.signPattern_ofName (.inl hname)]
    exact hreads.adds.imp fun k p hp => .builtIn hn ht hp
  | @defined t hr hn ht =>
    obtain ⟨n, hadds⟩ := hr
    have htype : (types (TypeName.ofName name)).Adds [] n fun _ _ => True := by
      rw [ht]
      exact ⟨hadds.gains, hadds.head, hadds.groups⟩
    have hpattern : (types (TypeName.ofName name)).pattern = t.grouped := by
      rw [ht]
      rfl
    rw [htype.groups, Int.toNat_natCast]
    refine (htype.signed ?_ ?_ (TypeName.ofName name)).imp fun k p _ => .defined ht
    · rw [hpattern]
      exact List.cons_ne_nil _ _
    · rw [hpattern]
      exact ⟨by decide, by decide⟩

/-- The step has a placeholder for integers, and the failure is that of an integer no longer than the
text, with more digits than may be converted. -/
def SharedStep.TooLong (step : SharedStep H) (text : Text) (failure : Failure) : Prop :=
  .field [] (TypeName.ofBuiltIn .int) ∈ Format.parts step.template.format ∧
    ∃ t, Pattern.Fits BuiltIn.int.pattern t ∧ t.length ≤ text.length ∧
      Numeral.digitLimit < (t.filter Text.isDigit).length ∧
      failure = .integerTooLong (t.filter Text.isDigit).length

/-- If all types of a step are regular, it can only fail on an integer that is too long. -/
theorem SharedStep.too_long_of_types {step : SharedStep H} {types : Text → FieldType Argument}
    {ps : List Phrase.Piece}
    (hall : ∀ name ∈ namesIn ps,
      HandedOn ParameterType.Regular (TypeName.ofName name) (types (TypeName.ofName name)))
    (htemplate : step.template = .ofFormat types (ps.flatMap Format.written)) {text : Text}
    {failure : Failure} (hr : step.read text = .error failure) : step.TooLong text failure := by
  have hfields : step.template.fields = Template.numbered 0 ((namesIn ps).map fun name =>
      types (TypeName.ofName name)) := by rw [htemplate, Template.ofFormat_pieces]
  have hcompiled : step.template.compiled =
      Template.compile (Template.expressionFor (Template.signedType types) ps) := by
    rw [htemplate, Template.ofFormat_pieces]
  have hgroups : ∀ name ∈ namesIn ps, (Template.signedType types name).groups =
      (types (TypeName.ofName name)).groups := fun _ _ => rfl
  obtain ⟨name, c, hn, ⟨k, body, hfits, s, t, -, ht, hs⟩, hlength, hfail⟩ :=
    Template.exists_of_read_eq_error (fun name hn => (hall name hn).adds) hgroups hfields hcompiled hr
  cases hfits with
  | defined htype =>
    rw [htype] at hfail
    exact absurd hfail (Argument.deferring_ne_error _ _ failure)
  | @builtIn b hb htype hp =>
    rw [htype] at hfail
    have hconvert : b.convert (.text c.text) = .error failure := eq_error_of_map hfail
    have htaken := Pattern.spells_of_mem_outcomes (Pattern.plain_builtInItems b) (hp ▸ ht) hs
    have hint : b = .int := by
      by_contra hne
      obtain ⟨value, hvalue⟩ := BuiltIn.exists_convert_of_ne htaken hne
      rw [hconvert] at hvalue
      cases hvalue
    subst hint
    refine ⟨?_, c.text, ?_, hlength, ?_⟩
    · rw [htemplate]
      exact Format.field_mem_parts_written.mpr ⟨rfl, name, hn, hb.symm⟩
    · exact (Pattern.fits_iff_spells Pattern.reads_integer (Pattern.plain_builtInItems .int) _).mpr
        htaken
    · rcases BuiltIn.convert_int htaken with ⟨hlong, herror⟩ | ⟨-, value, hvalue⟩
      · rw [hconvert] at herror
        exact ⟨hlong, Except.error.inj herror⟩
      · rw [hconvert] at hvalue
        cases hvalue

/-- If all types are regular, a look-up can only fail on an integer that is too long. -/
theorem SharedStep.Resolved.too_long_of_read {step : SharedStep H}
    (h : step.Resolved ParameterType.Regular) {text : Text} {failure : Failure}
    (hr : step.read text = .error failure) : step.TooLong text failure := by
  obtain ⟨types, ps, hall, htemplate, -⟩ := h
  exact too_long_of_types hall htemplate hr

/-- If all types of a step are regular, it can read the empty text. -/
theorem SharedStep.exists_read_nil {step : SharedStep H} {types : Text → FieldType Argument}
    {ps : List Phrase.Piece}
    (hall : ∀ name ∈ namesIn ps,
      HandedOn ParameterType.Regular (TypeName.ofName name) (types (TypeName.ofName name)))
    (htemplate : step.template = .ofFormat types (ps.flatMap Format.written)) :
    ∃ found, step.read [] = .ok found := by
  cases hr : step.read [] with
  | ok found => exact ⟨found, rfl⟩
  | error failure =>
    obtain ⟨-, t, -, hlength, hlong, -⟩ := too_long_of_types hall htemplate hr
    have hnil : t = [] := List.eq_nil_of_length_eq_zero (Nat.le_zero.mp hlength)
    rw [hnil] at hlong
    exact absurd hlong (by decide)

theorem StepRegistry.exists_of_unreadable {text : Text} {steps : List (SharedStep H)}
    {failure : Failure} (h : firstOf text steps = .unreadable failure) :
    ∃ step, step ∈ steps ∧ step.read text = .error failure := by
  induction steps with
  | nil => cases h
  | cons step rest ih =>
    rw [firstOf] at h
    split at h
    · next hr =>
      cases h
      exact ⟨step, List.mem_cons_self, hr⟩
    · cases h
    · obtain ⟨other, hm, hr⟩ := ih h
      exact ⟨other, List.mem_cons_of_mem _ hm, hr⟩

/-- The first failure among arguments is that of all of them. -/
theorem Argument.exists_first {arguments : List Argument} {argument : Argument} {failure : Failure}
    (hm : argument ∈ arguments) (h : argument.settle = .error failure) :
    ∃ (vs : List Value) (first : Argument) (raised : Failure) (rest : List Argument),
      arguments = vs.map value ++ first :: rest ∧ (∀ v ∈ vs, v.isHeld = false) ∧
        first.settle = .error raised ∧ values arguments = .error raised := by
  induction arguments with
  | nil => cases hm
  | cons other arguments ih =>
    cases hs : other.settle with
    | error raised => exact ⟨[], other, raised, arguments, rfl, by simp, hs, by rw [values, hs]⟩
    | ok v =>
      have hrest : argument ∈ arguments := by
        cases List.mem_cons.mp hm with
        | inl he => exact absurd (he ▸ h) (by simp [hs])
        | inr hr => exact hr
      obtain ⟨vs, first, raised, rest, rfl, hplain, hfirst, hv⟩ := ih hrest
      obtain ⟨rfl, hv'⟩ := exists_of_settle_eq_ok hs
      exact ⟨v :: vs, first, raised, rest, rfl, List.forall_mem_cons.mpr ⟨hv', hplain⟩, hfirst,
        by rw [values, hs, hv]; rfl⟩

/-- Every type that is told, or that a definition gives, says rightly how many groups it has. -/
def Call.Regular : Call H → Prop
  | defineType type => type.Regular
  | defineStep _ _ => True
  | register q => q.Regular

theorem Call.Regular.tells {call : Call H} (h : call.Regular) : call.Tells ParameterType.Regular := by
  cases call with
  | defineType type => exact h
  | defineStep expression handler => trivial
  | register q => exact fun _ _ _ _ hp hg => (Request.regular_of_gives h hp hg).2

namespace Hosts

/-- Every type that is told, or that a definition gives, says rightly how many groups it has. -/
def Move.Regular : Move H → Prop
  | newHost => True
  | on _ call => call.Regular

theorem Move.Regular.tells {move : Move H} (h : move.Regular) : move.Tells ParameterType.Regular := by
  cases move with
  | newHost => trivial
  | on place call => exact Call.Regular.tells h

theorem Move.tells_true (move : Move H) : move.Tells fun _ => True := by
  cases move with
  | newHost => trivial
  | on place call => exact call.tells_true

/-- Where the failures of conversions come to light, whatever hosts have registered. A look-up never
fails with the conversion of a parameter type; and if all types say rightly how many groups they
have, it only fails on an integer of the text that has too many digits, at a step with a placeholder
for integers. Any other failure is among the arguments of the step, put there by the registry or by
a conversion itself, and the run raises the first. -/
theorem find_failures (moves : List (Move H)) (text : Text) :
    (∀ failure, (none.after moves).registry.find text = .unreadable failure →
      ∃ step, step ∈ (none.after moves).registry.steps ∧ step.read text = .error failure ∧
        step.Fault failure ∧
        ((∀ move ∈ moves, move.Regular) → step.TooLong text failure)) ∧
      ∀ step readings argument failure known,
        (none.after moves).registry.find text = .step step readings →
        argument ∈ readings.map (·.value) → argument.settle = .error failure →
          ∃ (vs : List Value) (first : Argument) (raised : Failure) (rest : List Argument),
            readings.map (·.value) = vs.map .value ++ first :: rest ∧
            (∀ v ∈ vs, v.isHeld = false) ∧ first.settle = .error raised ∧
            SharedHost.call ⟨(none.after moves).registry, known⟩ text = .error raised := by
  constructor
  · intro failure hfind
    obtain ⟨step, hm, hr⟩ := StepRegistry.exists_of_unreadable hfind
    have hany := (sound_none.after fun move (_ : move ∈ moves) => move.tells_true).handed.steps step hm
    refine ⟨step, hm, hr, hany.fault_of_read hr, fun hregular => ?_⟩
    have hsound := sound_none.after fun move hmove => (hregular move hmove).tells
    exact (hsound.handed.steps step hm).too_long_of_read hr
  · intro step readings argument failure known hfind hm hfailed
    obtain ⟨vs, first, raised, rest, hall, hplain, hfirst, hv⟩ := Argument.exists_first hm hfailed
    refine ⟨vs, first, raised, rest, hall, hplain, hfirst, ?_⟩
    simp only [SharedHost.call, hfind, hv]
    rfl

def integerPhrase : Text := ['{', 'i', 'n', 't', '}']

def counting : List (Move Unit) := [.newHost, .on 0 (.defineStep integerPhrase ())]

def builtIn : StepRegistry Unit := StepRegistry.empty.putBuiltIns

def integerStep : SharedStep Unit :=
  ⟨.ofFormat builtIn.fieldType ([Phrase.Piece.hole BuiltIn.int.name].flatMap Format.written), ()⟩

theorem fieldType_builtIn_int : builtIn.fieldType (TypeName.ofName BuiltIn.int.name) =
    BuiltIn.int.fieldType.handedOn Argument.raising := by
  have hfind := StepRegistry.find?_putBuiltIns (H := Unit) BuiltIn.int.name
  rw [StepRegistry.fieldType, builtIn, hfind]
  rfl

/-- The step takes the integers, and a text on which the conversion fails cannot be read. -/
theorem read_integerStep (t : Text) :
    (¬ (Pattern.row (Pattern.builtInItems .int)).Spells t → integerStep.read t = .ok Option.none) ∧
      ((Pattern.row (Pattern.builtInItems .int)).Spells t → ∀ failure,
        BuiltIn.int.convert (.text t) = .error failure → integerStep.read t = .error failure) := by
  have hunsigned : ∀ name ∈ namesIn [Phrase.Piece.hole BuiltIn.int.name],
      isBuiltIn name = true ∨ '_' ∈ name := fun name hn => .inl (List.mem_singleton.mp hn ▸ rfl)
  have htemplate := Template.ofFormat_written builtIn.fieldType hunsigned
  have hreads : ∀ name ∈ namesIn [Phrase.Piece.hole BuiltIn.int.name],
      (builtIn.fieldType (TypeName.ofName name)).ReadsAs (Pattern.builtInItems .int) := by
    intro name hn
    rw [List.mem_singleton.mp hn, fieldType_builtIn_int]
    exact ⟨Pattern.reads_integer, Pattern.head?_builtIn .int, Pattern.plain_builtInItems .int, rfl⟩
  obtain ⟨hnone, hsome⟩ := Template.read_of_pieces (congrArg Template.fields htemplate)
    (congrArg Template.compiled htemplate) hreads (fun _ _ => rfl) Argument.ofCapture t
  constructor
  · intro hn
    exact hnone fun ⟨texts, hs⟩ => hn (Pattern.splitsAs_hole.mp hs).2
  · intro hs failure hf
    obtain ⟨texts, htexts, hread⟩ := hsome ⟨[t], Pattern.splitsAs_hole.mpr ⟨rfl, hs⟩⟩
    rw [(Pattern.splitsAs_hole.mp htexts).1] at hread
    have hconvert : (BuiltIn.int.fieldType.handedOn Argument.raising).convert (.value (.text t)) =
        .error failure := by
      change (BuiltIn.int.convert (.text t)).map _ = _
      rw [hf]
      rfl
    have heach : Template.convertEach ((namesIn [Phrase.Piece.hole BuiltIn.int.name]).map fun name =>
        builtIn.fieldType (TypeName.ofName name)) ([t].map fun c => Argument.ofCapture (some c)) =
          .error failure := by
      simp only [Phrase.namesIn_hole, Phrase.namesIn_nil, List.map_cons, List.map_nil,
        fieldType_builtIn_int, Template.convertEach, Argument.ofCapture, hconvert]
    rw [heach] at hread
    exact eq_error_of_map hread

theorem steps_counting : ((none : Hosts Unit).after counting).registry.steps = [integerStep] := by
  have hpieces : Phrase.pieces integerPhrase = [.hole BuiltIn.int.name] := by decide +kernel
  have hformat : Format.ofExpression builtInTypes.names.contains integerPhrase =
      .ok ([Phrase.Piece.hole BuiltIn.int.name].flatMap Format.written) := by
    rw [Format.ofExpression, hpieces]
    exact Format.ofPieces_eq fun name hn => List.mem_singleton.mp hn ▸ by decide +kernel
  have hempty : ¬ (Pattern.row (Pattern.builtInItems .int)).Spells [] := by
    intro h
    obtain ⟨sign, u, he, -, hu⟩ := Pattern.integer_of_spells h
    exact hu.nonempty (List.append_eq_nil_iff.mp he.symm).2
  have hadd : builtIn.addStep integerStep = .ok { builtIn with steps := [integerStep] } := by
    rw [StepRegistry.addStep, (read_integerStep []).1 hempty]
    rfl
  have hstep : StepHost.defineStep integerPhrase () (SharedHost.on (.empty : StepRegistry Unit)) =
      .ok (⟨{ builtIn with steps := [integerStep] }, builtInTypes.names⟩,
        [.sharedStepDefined integerPhrase
          ([Phrase.Piece.hole BuiltIn.int.name].flatMap Format.written)]) := by
    change SharedHost.defineStep integerPhrase () (.on .empty) = _
    rw [SharedHost.defineStep]
    simp only [SharedHost.on, hformat]
    exact congrArg (Except.map _) hadd
  have hmake : (Call.make (.defineStep integerPhrase ())
      (((none : Hosts Unit).make .newHost).2.deskOf builtInTypes.names)).2.host.registry.steps =
        [integerStep] := by
    have hhost : StepHost.defineStep integerPhrase ()
        (((none : Hosts Unit).make .newHost).2.deskOf builtInTypes.names).host = _ := hstep
    rw [Call.make, Registrar.defineExpression, hhost]
    rfl
  exact hmake

/-- A long row of digits is taken for an integer, and then the look-up fails. -/
theorem find_long_integer {t : Text} (h : Numeral.Digits Text.isDigit t)
    (hl : Numeral.digitLimit < t.length) :
    ((none : Hosts Unit).after counting).registry.find t = .unreadable (.integerTooLong t.length) := by
  have hspells : (Pattern.row (Pattern.builtInItems .int)).Spells t :=
    Pattern.spells_integer (.inl rfl) h
  have hall : t.filter Text.isDigit = t := List.filter_eq_self.mpr h.all
  have hfail : BuiltIn.int.convert (.text t) = .error (.integerTooLong t.length) := by
    rcases BuiltIn.convert_int hspells with ⟨-, herror⟩ | ⟨hshort, -⟩
    · rw [herror, hall]
    · rw [hall] at hshort
      omega
  have hread := (read_integerStep t).2 hspells _ hfail
  rw [StepRegistry.find, steps_counting, StepRegistry.firstOf, hread]

/-- A host is made, and told of a type that rejects all values and of a step with it. -/
def denying : List (Move Unit) :=
  [.newHost, .on 0 (.defineType ⟨['t'], ['x'], Option.none, fun value => .error (.rejected value)⟩),
    .on 0 (.defineStep ['{', 't', '}'] ())]

theorem find_denying : ∃ step readings failure,
    ((none : Hosts Unit).after denying).registry.find ['x'] = .step step readings ∧
      .failed failure ∈ readings.map (·.value) := by
  have hdeferred : (match ((none : Hosts Unit).after denying).registry.find ['x'] with
      | .step _ readings => readings.any fun reading =>
        match reading.value with
        | .failed _ => true
        | .value _ => false
      | _ => false) = true := by decide +kernel
  split at hdeferred
  · next step readings hfind =>
    obtain ⟨reading, hm, hfailed⟩ := List.any_eq_true.mp hdeferred
    split at hfailed
    · next failure hvalue =>
      exact ⟨step, readings, failure, hfind, List.mem_map.mpr ⟨reading, hm, hvalue⟩⟩
    · cases hfailed
  · cases hdeferred

/-- Every type that the first host is told of says rightly how many groups it has, and still a
look-up fails, with the integer of the text. With the other host the look-up succeeds, and the
run fails. -/
theorem find_failures_counting :
    (∀ move ∈ counting, move.Regular) ∧
      ((none : Hosts Unit).after counting).registry.find (List.replicate 4301 '1') =
        .unreadable (.integerTooLong 4301) ∧
      (∃ step, step ∈ ((none : Hosts Unit).after counting).registry.steps ∧
        step.TooLong (List.replicate 4301 '1') (.integerTooLong 4301)) ∧
      ∃ step readings argument failure,
        ((none : Hosts Unit).after denying).registry.find ['x'] = .step step readings ∧
          argument ∈ readings.map (·.value) ∧ argument.settle = .error failure ∧
          SharedHost.call ⟨((none : Hosts Unit).after denying).registry, []⟩ ['x'] = .error failure := by
  have hregular : ∀ move ∈ counting, move.Regular := by
    intro move hm
    rcases List.mem_pair.mp hm with rfl | rfl
    · trivial
    · trivial
  have hlength : (List.replicate 4301 '1').length = 4301 := List.length_replicate
  have hdigits : Numeral.Digits Text.isDigit (List.replicate 4301 '1') :=
    ⟨fun c hc => List.eq_of_mem_replicate hc ▸ by decide, fun he => by
      rw [he] at hlength
      cases hlength⟩
  have hfind := find_long_integer hdigits (by rw [hlength]; decide)
  rw [hlength] at hfind
  obtain ⟨step, hm, -, -, hlong⟩ := (find_failures counting (List.replicate 4301 '1')).1 _ hfind
  obtain ⟨other, readings, failure, hdenied, hfailed⟩ := find_denying
  obtain ⟨vs, first, raised, rest, hall, -, hfirst, hcall⟩ :=
    (find_failures denying ['x']).2 other readings _ failure [] hdenied hfailed rfl
  have hmem : first ∈ readings.map (·.value) := hall ▸ by simp
  exact ⟨hregular, hfind, ⟨step, hm, hlong hregular⟩, other, readings, first, raised, hdenied, hmem,
    hfirst, hcall⟩

end Hosts

end Phrasebook
