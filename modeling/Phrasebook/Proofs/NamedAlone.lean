import Phrasebook.Proofs.Matching
import Phrasebook.Proofs.Numeral
import Phrasebook.Proofs.Template.Groups

/-!
# A type that stands alone in a step

A type may be registered under a name of its own, and a step may consist of its placeholder alone.
Type names keep nearly all names from meaning anything in a format. The exceptions are names that
are a piece of the letters for numbers: before a field with such a type one sign or blank may stand,
and it belongs to the text that the type is given.
-/

namespace Phrasebook

open Phrase (namesIn)

/-- The name is its own type name, and a piece of the letters for numbers. -/
def TypeName.NumberLike (name : Text) : Prop :=
  isPlain name = true ∧ Text.mentions name Template.numberTypes = true

instance (name : Text) : Decidable (TypeName.NumberLike name) :=
  inferInstanceAs (Decidable (_ ∧ _))

theorem TypeName.not_numberLike_of_reserved {rest : Text} : ¬ NumberLike (reserved ++ rest) := by
  rintro ⟨-, hm⟩
  have hunderscore : '_' ∈ reserved ++ rest := List.mem_append_left _ underscore_mem_reserved
  rw [Template.not_mentions_of_underscore hunderscore] at hm
  cases hm

/-- Something may stand before a field exactly if the name of its type looks like a number. -/
theorem Template.signPattern_ofName_eq {name : Text} (hb : isBuiltIn name = false) :
    signPattern (TypeName.ofName name) =
      if TypeName.NumberLike name then "[-+ ]?".toList else [] := by
  by_cases hp : (TypeName.isPlain name && !TypeName.reserved.isPrefixOf name) = true
  · have hof : TypeName.ofName name = name := by
      rw [TypeName.ofName, if_neg (by simp [hb]), if_pos hp]
    have hplain : TypeName.isPlain name = true := (Bool.and_eq_true _ _ ▸ hp).1
    have hne : name.isEmpty = false := by
      cases name with
      | nil => cases hplain
      | cons c rest => rfl
    have hlike : (!name.isEmpty && Text.mentions name numberTypes) = true ↔
        TypeName.NumberLike name := by
      rw [hne, Bool.not_false, Bool.true_and]
      exact ⟨fun hm => ⟨hplain, hm⟩, fun hn => hn.2⟩
    rw [hof, signPattern]
    exact if_congr hlike rfl rfl
  · have hof : TypeName.ofName name = TypeName.reserved ++ 'x' :: TypeName.spelledOut name := by
      rw [TypeName.ofName, if_neg (by simp [hb]), if_neg hp]
    have hunderscore : '_' ∈ TypeName.ofName name :=
      hof ▸ List.mem_append_left _ TypeName.underscore_mem_reserved
    have hnumber : ¬ TypeName.NumberLike name := by
      intro hn
      rw [hn.1, Bool.true_and, Bool.not_eq_true, Bool.not_eq_false'] at hp
      obtain ⟨rest, rfl⟩ := List.isPrefixOf_iff_prefix.mp hp
      exact TypeName.not_numberLike_of_reserved hn
    rw [if_neg hnumber, signPattern, not_mentions_of_underscore hunderscore, Bool.and_false]
    rfl

namespace Definition

/-- Nothing, or one of the characters that may stand before a number. -/
def Prefixed (name before : Text) : Prop :=
  before = [] ∨ TypeName.NumberLike name ∧ ∃ c, c ∈ ['-', '+', ' '] ∧ before = [c]

/-- A text of the definition, with what may stand before it. -/
def Taken (definition : Definition) (name text : Text) : Prop :=
  ∃ before t, text = before ++ t ∧ Prefixed name before ∧ Pattern.Fits definition.pattern t

def fieldItems (definition : Definition) (name : Text) : List Pattern.Item :=
  (if TypeName.NumberLike name then
    [Pattern.loopItem (0, some 1) (Pattern.oneOfItem ['-', '+', ' '] false).pattern] else []) ++
    [⟨.ordinary, Pattern.row definition.items⟩]

theorem taken_iff_of_not_numberLike {definition : Definition} {name : Text}
    (h : ¬ TypeName.NumberLike name) (text : Text) :
    definition.Taken name text ↔ Pattern.Fits definition.pattern text := by
  constructor
  · rintro ⟨before, t, rfl, hbefore, ht⟩
    rcases hbefore with rfl | ⟨hn, -⟩
    · exact ht
    · exact absurd hn h
  · intro ht
    exact ⟨[], text, rfl, .inl rfl, ht⟩

theorem spells_signOrBlank {u : Text} :
    (Pattern.loopItem (0, some 1) (Pattern.oneOfItem ['-', '+', ' '] false).pattern).pattern.Spells u ↔
      u = [] ∨ ∃ c, c ∈ ['-', '+', ' '] ∧ u = [c] := by
  constructor
  · intro h
    exact (Pattern.spells_optional h).imp_right Pattern.spells_oneOf
  · rintro (rfl | ⟨c, hc, rfl⟩)
    · exact ⟨[], Nat.zero_le _, fun _ _ => Nat.zero_le _, by simp, rfl⟩
    · refine ⟨[[c]], Nat.zero_le _, fun most hm => ?_, fun v hv => ?_, rfl⟩
      · cases hm
        exact Nat.le_refl 1
      · rw [List.mem_singleton.mp hv]
        refine ⟨c, ?_, rfl⟩
        simp only [List.mem_cons, List.not_mem_nil, or_false] at hc
        rcases hc with rfl | rfl | rfl <;> decide

theorem spells_fieldItems {definition : Definition} (hg : definition.Generated) (name text : Text) :
    (Pattern.row (definition.fieldItems name)).Spells text ↔ definition.Taken name text := by
  have hfits := Pattern.fits_iff_spells (reads_pattern hg) definition.plain_items
  rw [fieldItems, Pattern.spells_row_append]
  constructor
  · rintro ⟨before, t, hbefore, ht, rfl⟩
    refine ⟨before, t, rfl, ?_, (hfits t).mpr (Pattern.spells_row_singleton.mp ht)⟩
    split at hbefore
    · next hn =>
      rcases spells_signOrBlank.mp (Pattern.spells_row_singleton.mp hbefore) with hnil | hone
      · exact .inl hnil
      · exact .inr ⟨hn, hone⟩
    · exact .inl hbefore
  · rintro ⟨before, t, rfl, hbefore, ht⟩
    refine ⟨before, t, ?_, Pattern.spells_row_singleton.mpr ((hfits t).mp ht), rfl⟩
    split
    · next hn =>
      exact Pattern.spells_row_singleton.mpr
        (spells_signOrBlank.mpr (hbefore.imp_right fun hone => hone.2))
    · next hn =>
      rcases hbefore with rfl | ⟨hnumber, -⟩
      · rfl
      · exact absurd hnumber hn

/-- The pattern of the field, with what may stand before it, is read as its items. -/
theorem readsAs_signed {definition : Definition} (hg : definition.Generated) {name : Text}
    (hb : isBuiltIn name = false) :
    FieldType.ReadsAs { definition.fieldType with
      pattern := Template.signPattern (TypeName.ofName name) ++ definition.fieldType.pattern }
      (definition.fieldItems name) := by
  have hreads := readsAs_fieldType hg
  rw [Template.signPattern_ofName_eq hb, fieldItems]
  split
  · have hpattern : definition.fieldType.pattern.take 2 = ['(', '?'] := by
      cases definition with
      | string | sum | list => rfl
      | raw | unknown => exact hg.elim
    have hne : definition.fieldType.pattern ≠ [] := fun he => by rw [he] at hpattern; cases hpattern
    have hquantifier : Pattern.Unquantified definition.fieldType.pattern := by
      cases hw : definition.fieldType.pattern with
      | nil => exact absurd hw hne
      | cons c rest =>
        rw [hw] at hpattern
        rw [(List.cons.inj hpattern).1]
        exact ⟨by decide, by decide⟩
    have hplain : (Pattern.loopItem (0, some 1)
        (Pattern.oneOfItem ['-', '+', ' '] false).pattern).pattern.Plain :=
      ⟨fun most _ => Nat.zero_le most, trivial⟩
    exact ⟨Pattern.reads_signOrBlank.append hreads.reads hne hquantifier, by simp,
      ⟨hplain, hreads.plain⟩, hreads.groups⟩
  · exact hreads

end Definition

namespace Standalone

variable {H : Type}

def registered (definition : Definition) (name : Text) : Outcome (Desk (Standalone H)) Decoder :=
  Registrar.registerType definition name Request.newDesk

def standing (definition : Definition) (name : Text) (handler : H) :
    Outcome (Desk (Standalone H)) Unit :=
  Registrar.defineExpression (Phrase.braced name) handler (registered definition name).2

theorem exists_registered {name : Text} (hb : isBuiltIn name = false) {definition : Definition}
    (hg : definition.Generated) :
    ∃ (type : ParameterType) (decoder : Decoder) (host : Standalone H) (events : List Event),
      definition.compile name = .ok (type, decoder) ∧ type.fieldType = definition.fieldType ∧
      registered definition name = (.ok decoder, ⟨host, 0, events⟩) ∧
      host.converters.find? (TypeName.ofName name) = some definition.fieldType ∧ host.steps = [] := by
  obtain ⟨type, decoder, hc⟩ : ∃ type decoder, definition.compile name = .ok (type, decoder) := by
    cases definition with
    | string | sum | list => exact ⟨_, _, rfl⟩
    | raw | unknown => exact hg.elim
  have hname := Registrar.compile_name hc
  have htype := Definition.fieldType_of_compile hc
  have hhost : StepHost.defineType type (empty : Standalone H) = .ok (⟨[(name, type)],
      builtInTypes.put (TypeName.ofName name) type.fieldType, []⟩ : Standalone H) := by
    change defineType type empty = _
    rw [defineType, hname, hb]
    rfl
  refine ⟨type, decoder, ⟨[(name, type)], builtInTypes.put (TypeName.ofName name) type.fieldType, []⟩,
    [.typeRegistered name type.pattern], hc, htype, ?_, ?_, rfl⟩
  · rw [registered, Registrar.registerType, hc]
    simp only [Request.newDesk, hhost]
    rfl
  · rw [Table.find?_put, if_pos rfl, htype]

/-- The step that consists of a placeholder with a known type. -/
theorem exists_defined {name : Text} (hn : Phrase.IsName name) {host : Standalone H}
    {type : FieldType Value} (hfind : host.converters.find? (TypeName.ofName name) = some type)
    (handler : H) :
    ∃ step events, StepHost.defineStep (Phrase.braced name) handler host =
        .ok ({ host with steps := host.steps ++ [step] }, events) ∧ step.handler = handler ∧
      step.template = .ofFormat host.fieldType ([Phrase.Piece.hole name].flatMap Format.written) := by
  have hpieces : Phrase.pieces (Phrase.braced name) = [.hole name] := by
    have h := Phrase.pieces_braced hn []
    rwa [List.append_nil] at h
  have hformat : Format.ofExpression host.converters.has (Phrase.braced name) =
      .ok ([Phrase.Piece.hole name].flatMap Format.written) := by
    rw [Format.ofExpression, hpieces]
    refine Format.ofPieces_eq fun other ho => ?_
    rw [List.mem_singleton.mp ho, Table.has, hfind]
    rfl
  have hstep : host.stepOf (Phrase.braced name) handler = .ok ⟨Phrase.braced name,
      .ofFormat host.fieldType ([Phrase.Piece.hole name].flatMap Format.written), handler⟩ := by
    rw [stepOf, hformat]
    rfl
  refine ⟨⟨Phrase.braced name, .ofFormat host.fieldType
    ([Phrase.Piece.hole name].flatMap Format.written), handler⟩,
    [.stepDefined (Phrase.braced name) ([Phrase.Piece.hole name].flatMap Format.written)], ?_, rfl,
    rfl⟩
  change (host.stepOf (Phrase.braced name) handler).map _ = _
  rw [hstep]
  rfl

/-- A definition that is registered under a name can stand alone in a step, whatever the name is. The
step takes the texts of the definition, and its conversion is given the whole text. Only if the
name looks like a number, it also takes them behind a sign or a blank, which the conversion is then
given as well. -/
theorem find_standing {name : Text} (hn : Phrase.IsName name) (hb : isBuiltIn name = false)
    {definition : Definition} (hg : definition.Generated) (handler : H) :
    ∃ type decoder step, definition.compile name = .ok (type, decoder) ∧
      (registered definition name : Outcome (Desk (Standalone H)) Decoder).1 = .ok decoder ∧
      (standing definition name handler).1 = .ok () ∧ step.handler = handler ∧
      ∀ text,
        (¬ definition.Taken name text →
          (standing definition name handler).2.host.find text = .ok none) ∧
        (definition.Taken name text → (standing definition name handler).2.host.find text =
          (type.transform (.text text)).map fun value => some (step, [value])) ∧
        (¬ TypeName.NumberLike name →
          (definition.Taken name text ↔ Pattern.Fits definition.pattern text)) := by
  obtain ⟨type, decoder, host, events, hc, htype, hregistered, hfind, hsteps⟩ :=
    exists_registered (H := H) hb hg
  obtain ⟨step, reports, hdefined, hhandler, htemplate⟩ := exists_defined hn hfind handler
  have hstanding : standing definition name handler =
      (.ok (), ⟨{ host with steps := [step] }, 0, events ++ reports⟩) := by
    rw [standing, hregistered, Registrar.defineExpression]
    simp only [hdefined, hsteps, List.nil_append]
    rfl
  have hstepType : host.fieldType (TypeName.ofName name) = definition.fieldType := by
    rw [fieldType, hfind, Option.getD_some]
  rw [Template.ofFormat_pieces] at htemplate
  have hreads : ∀ other ∈ namesIn [Phrase.Piece.hole name],
      (Template.signedType host.fieldType other).ReadsAs (definition.fieldItems other) := by
    intro other ho
    rw [List.mem_singleton.mp ho, Template.signedType, hstepType]
    exact definition.readsAs_signed hg hb
  have hread := Template.read_of_pieces (congrArg Template.fields htemplate)
    (congrArg Template.compiled htemplate) hreads (fun _ _ => rfl) Value.ofCapture
  have hsplits : ∀ {text texts}, Pattern.SplitsAs definition.fieldItems [.hole name] text texts ↔
      texts = [text] ∧ definition.Taken name text := by
    intro text texts
    rw [Pattern.splitsAs_hole, Definition.spells_fieldItems hg]
  refine ⟨type, decoder, step, hc, by rw [hregistered], by rw [hstanding], hhandler, fun text =>
    ⟨fun hno => ?_, fun hyes => ?_, fun hnumber =>
      Definition.taken_iff_of_not_numberLike hnumber text⟩⟩
  · have hrefused : ¬ ∃ texts, Pattern.SplitsAs definition.fieldItems [.hole name] text texts := by
      rintro ⟨texts, hs⟩
      exact hno (hsplits.mp hs).2
    have hnone := (hread text).1 hrefused
    rw [hstanding, find]
    exact firstOf_cons_none (by rw [StandaloneStep.read, hnone]; rfl) []
  · obtain ⟨texts, hs, hvalues⟩ := (hread text).2 ⟨[text], hsplits.mpr ⟨rfl, hyes⟩⟩
    have hconvert : definition.fieldType.convert = type.transform :=
      congrArg FieldType.convert htype.symm
    have heach : Template.convertEach ((namesIn [Phrase.Piece.hole name]).map fun other =>
        host.fieldType (TypeName.ofName other)) ([text].map fun c => Value.ofCapture (some c)) =
          (type.transform (.text text)).map ([·]) := by
      simp only [Phrase.namesIn_hole, Phrase.namesIn_nil, List.map_cons, List.map_nil, hstepType,
        Template.convertEach, hconvert, Value.ofCapture]
      cases type.transform (.text text) with
      | error failure => rfl
      | ok value => rfl
    rw [(hsplits.mp hs).1, heach] at hvalues
    rw [hstanding, find]
    refine (firstOf_cons_some (show step.read text = _ from hvalues) []).trans ?_
    cases type.transform (.text text) with
    | error failure => rfl
    | ok value => rfl

def letter : Definition := .sum ⟨['a'], []⟩

theorem generated_letter : letter.Generated := trivial

theorem fits_letter {text : Text} : Pattern.Fits letter.pattern text ↔ text = ['a'] := by
  rw [Pattern.fits_iff_spells (Definition.reads_pattern generated_letter) letter.plain_items]
  exact (Pattern.spells_row_singleton.trans (Pattern.spells_valuesItem (List.cons_ne_nil _ _))).trans
    List.mem_singleton

/-- The letter behind a sign is no text of the definition. Under a name that looks like a number it
is taken nevertheless, and the conversion is given both and fails. -/
theorem find_standing_letter :
    Phrase.IsName ['d'] ∧ isBuiltIn ['d'] = false ∧ letter.Generated ∧
      ¬ Pattern.Fits letter.pattern ['-', 'a'] ∧ letter.Taken ['d'] ['-', 'a'] ∧
      (∃ failure, (standing letter ['d'] ()).2.host.find ['-', 'a'] = .error failure) ∧
      (standing letter ['D'] ()).2.host.find ['-', 'a'] = .ok none := by
  have hname : Phrase.IsName ['d'] := by decide
  have hname' : Phrase.IsName ['D'] := by decide
  have hbuiltIn : isBuiltIn ['d'] = false := rfl
  have hbuiltIn' : isBuiltIn ['D'] = false := rfl
  have hno : ¬ Pattern.Fits letter.pattern ['-', 'a'] := fun h => by cases fits_letter.mp h
  have hnumber : TypeName.NumberLike ['d'] := by decide
  have htaken : letter.Taken ['d'] ['-', 'a'] :=
    ⟨['-'], ['a'], rfl, .inr ⟨hnumber, '-', by decide, rfl⟩, fits_letter.mpr rfl⟩
  obtain ⟨type, decoder, step, hc, -, -, -, hfind⟩ :=
    find_standing hname hbuiltIn generated_letter ()
  obtain ⟨type', decoder', step', -, -, -, -, hfind'⟩ :=
    find_standing hname' hbuiltIn' generated_letter ()
  refine ⟨hname, hbuiltIn, generated_letter, hno, htaken, ?_, ?_⟩
  · rw [(hfind _).2.1 htaken]
    cases hc
    exact ⟨_, rfl⟩
  · have hplain : ¬ TypeName.NumberLike ['D'] := by decide
    exact (hfind' _).1 fun h => hno (((hfind' _).2.2 hplain).mp h)

end Standalone

end Phrasebook
