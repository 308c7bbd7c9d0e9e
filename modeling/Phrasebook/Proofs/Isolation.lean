import Phrasebook.Proofs.Requests

/-!
# Steps do not depend on each other

What a step takes and reads is settled by its phrase and the definitions of its placeholders. Other
registrations leave no trace in it, even if they use the same names with other definitions, and
neither do the tokens and the separator that its own placeholders were renamed with.
-/

namespace Phrasebook

/-- A template reads with its fields and its pattern only. -/
theorem Template.read_congr {α : Type} {t u : Template α} (hf : t.fields = u.fields)
    (hc : t.compiled = u.compiled) (inject : Option Text → α) (text : Text) :
    t.read inject text = u.read inject text := by
  rw [read, read, hf, hc]

/-- The type of a placeholder is that of its own definition. -/
theorem Definitions.typeOf_congr {definitions others : Definitions} {phrase name : Text}
    (hd : ∀ n ∈ Phrase.definedNames phrase, definitions.find? n = others.find? n)
    (hn : name ∈ Phrase.names phrase) : definitions.typeOf name = others.typeOf name := by
  rw [typeOf, typeOf]
  cases hb : BuiltIn.ofName? name with
  | some b => rfl
  | none =>
    have hplain : isBuiltIn name = false := by rw [isBuiltIn, hb]; rfl
    have hdefined : name ∈ Phrase.definedNames phrase :=
      List.mem_filter.mpr ⟨hn, by rw [hplain]; rfl⟩
    rw [hd name hdefined]

namespace Request

variable {H H' : Type}

/-- Steps that serve one phrase with the same definitions read every text alike. -/
theorem read_eq_of_servedBy {q : Request H} {q' : Request H'} (hp : q.phrase = q'.phrase)
    (hd : ∀ name ∈ Phrase.definedNames q.phrase,
      q.definitions.find? name = q'.definitions.find? name)
    {step : StandaloneStep H} {step' : StandaloneStep H'} (h : q.ServedBy step)
    (h' : q'.ServedBy step') (text : Text) : step.read text = step'.read text := by
  have htypes : ∀ name ∈ Phrase.names q.phrase,
      q.definitions.typeOf name = q'.definitions.typeOf name :=
    fun name hn => Definitions.typeOf_congr hd hn
  have hfields : step.template.fields = step'.template.fields := by
    rw [h.fields, h'.fields, ← hp, List.map_congr_left htypes]
  have hcompiled : step.template.compiled = step'.template.compiled := by
    rw [h.compiled, h'.compiled, ← hp,
      Template.expressionFor_congr fun name hn => congrArg FieldType.pattern (htypes name hn)]
  rw [StandaloneStep.read, StandaloneStep.read,
    Template.read_congr hfields hcompiled Value.ofCapture text]

end Request

namespace Standalone

variable {H H' : Type}

/-- Of two hosts on which a phrase has been registered with the same definitions, whatever else has
been registered on them and with whatever tokens and separators, the steps of the phrase take the
same texts, and read the same values or fail alike. -/
theorem read_isolated (requests : List (Request H)) (requests' : List (Request H'))
    (hn : ∀ p ∈ requests, p.Named) (hn' : ∀ p ∈ requests', p.Named)
    {earlier later : List (Request H)} {earlier' later' : List (Request H')} {q : Request H}
    {q' : Request H'} (h : Request.succeeded requests Request.newDesk = earlier ++ q :: later)
    (h' : Request.succeeded requests' Request.newDesk = earlier' ++ q' :: later')
    (hp : q.phrase = q'.phrase)
    (hd : ∀ name ∈ Phrase.definedNames q.phrase,
      q.definitions.find? name = q'.definitions.find? name) :
    ∃ step step',
      (Request.after requests Request.newDesk).host.steps[earlier.length]? = some step ∧
        (Request.after requests' Request.newDesk).host.steps[earlier'.length]? = some step' ∧
        ∀ text, step.read text = step'.read text := by
  have hserved := Request.servedBy_steps hn
  have hserved' := Request.servedBy_steps hn'
  rw [h] at hserved
  rw [h'] at hserved'
  obtain ⟨step, hstep, hq⟩ := exists_getElem?_right hserved
  obtain ⟨step', hstep', hq'⟩ := exists_getElem?_right hserved'
  exact ⟨step, step', hstep, hstep', Request.read_eq_of_servedBy hp hd hq hq'⟩

def drink (settings : Settings) (token : Text) : Request Unit :=
  ⟨⟨settings, fun _ => token⟩, ['a', ' ', '{', 'x', '}'], (),
    [(['x'], .sum ⟨['t', 'e', 'a'], [['m', 'i', 'l', 'k']]⟩)]⟩

def remark (settings : Settings) (token : Text) : Request Unit :=
  ⟨⟨settings, fun _ => token⟩, ['s', 'a', 'y', ' ', '{', 'x', '}'], (), [(['x'], .string)]⟩

theorem named_of_constant {settings : Settings} {token phrase : Text} {definitions : Definitions}
    (h : Phrase.IsName token) :
    (⟨⟨settings, fun _ => token⟩, phrase, (), definitions⟩ : Request Unit).Named := fun _ => h

/-- A host on which the phrase stands alone, and one on which it comes second and is renamed in
another way. -/
theorem read_isolated_drink :
    (∀ p ∈ [drink {} ['a', 'b']], p.Named) ∧
      (∀ p ∈ [remark ⟨true, ['-'], rfl⟩ ['0'], drink ⟨true, ['-'], rfl⟩ ['1']], p.Named) ∧
      ∃ step step',
        (Request.after [drink {} ['a', 'b']] Request.newDesk).host.steps[0]? = some step ∧
          (Request.after [remark ⟨true, ['-'], rfl⟩ ['0'], drink ⟨true, ['-'], rfl⟩ ['1']]
            Request.newDesk).host.steps[1]? = some step' ∧
          ∀ text, step.read text = step'.read text := by
  have hn : ∀ p ∈ [drink {} ['a', 'b']], p.Named := by
    rintro p hp
    rw [List.mem_singleton.mp hp]
    exact named_of_constant (by decide)
  have hn' : ∀ p ∈ [remark ⟨true, ['-'], rfl⟩ ['0'], drink ⟨true, ['-'], rfl⟩ ['1']], p.Named := by
    rintro p hp
    rcases List.mem_pair.mp hp with rfl | rfl
    · exact named_of_constant (by decide)
    · exact named_of_constant (by decide)
  refine ⟨hn, hn', ?_⟩
  exact @read_isolated Unit Unit _ _ hn hn' [] [] [remark ⟨true, ['-'], rfl⟩ ['0']] []
    (drink {} ['a', 'b']) (drink ⟨true, ['-'], rfl⟩ ['1']) rfl rfl rfl (fun _ _ => rfl)

end Standalone

end Phrasebook
