import Phrasebook.Proofs.Host.Shared

/-!
# Templates whose types are handed on

A host of a shared registry builds the same templates as a standalone host, but over types that were
handed on: the patterns are the same, and each conversion is in a wrapping. What the conversions give
on a standalone host is then given here as well. If every wrapping raises failures, they fail alike;
otherwise a failure may have been put off.
-/

namespace Phrasebook

/-- What is done with wrapped values follows what is done with the values. It succeeds if that does,
and, if strict, fails if that does. -/
def Follows (strict : Prop) {α β : Type} (f : α → β) : Except Failure α → Except Failure β → Prop
  | .ok a, y => y = .ok (f a)
  | .error failure, y => strict → y = .error failure

theorem Follows.of_eq {strict : Prop} {α β : Type} {f : α → β} {x : Except Failure α}
    {y : Except Failure β} (h : y = x.map f) :
    Follows strict f x y := by
  cases x with
  | ok a => exact h
  | error failure => exact fun _ => h

theorem Follows.map {strict : Prop} {α β γ δ : Type} {f : α → β} {x : Except Failure α}
    {y : Except Failure β} (h : Follows strict f x y) {after : α → γ} {after' : β → δ} {g : γ → δ}
    (hg : ∀ a, after' (f a) = g (after a)) : Follows strict g (x.map after) (y.map after') := by
  cases x with
  | ok a =>
    have hy : y = .ok (f a) := h
    rw [hy]
    exact congrArg Except.ok (hg a)
  | error failure =>
    intro hs
    rw [h hs]
    rfl

namespace Argument

theorem raising_value (convert : Convert) (v : Value) :
    raising convert (.value v) = (convert v).map .value := rfl

theorem ofCapture_eq (t : Option Text) : ofCapture t = .value (Value.ofCapture t) := by
  cases t with
  | none => rfl
  | some t => rfl

/-- The wrapping of a conversion whose failures are put off or not. -/
def wrapping : Bool → Convert → Argument → Except Failure Argument
  | true => deferring
  | false => raising

theorem follows_wrapping {strict : Prop} {deferred : Bool} (h : strict → deferred = false)
    (convert : Convert) (v : Value) :
    Follows strict value (convert v) (wrapping deferred convert (.value v)) := by
  cases deferred with
  | false => exact .of_eq (raising_value convert v)
  | true =>
    cases hc : convert v with
    | ok new => exact deferring_of_ok hc
    | error failure => exact fun hs => absurd (h hs) (by decide)

end Argument

structure HandedField where
  index : Int
  type : FieldType Value
  deferred : Bool

namespace HandedField

def plain (f : HandedField) : Field Value := ⟨f.index, f.type⟩

def handed (f : HandedField) : Field Argument :=
  ⟨f.index, f.type.handedOn (Argument.wrapping f.deferred)⟩

end HandedField

def Reading.handed (r : Reading Value) : Reading Argument := ⟨r.start, r.matched, .value r.value⟩

namespace Template

def HandsOn (strict : Prop) (type : FieldType Value) (other : FieldType Argument) : Prop :=
  ∃ deferred, (strict → deferred = false) ∧ other = type.handedOn (Argument.wrapping deferred)

section

variable {strict : Prop} {types : Text → FieldType Value} {other : Text → FieldType Argument}
  {parts : List FormatPart}
  (h : ∀ name type, .field name type ∈ parts → HandsOn strict (types type) (other type))

include h

theorem exists_handedFields (next : Int) :
    ∃ all : List HandedField, fieldsFrom types next parts = all.map HandedField.plain ∧
      fieldsFrom other next parts = all.map HandedField.handed ∧
      ∀ f ∈ all, strict → f.deferred = false := by
  induction parts generalizing next with
  | nil => exact ⟨[], rfl, rfl, fun _ hm => absurd hm List.not_mem_nil⟩
  | cons part parts ih =>
    have hrest := ih fun name type hm => h name type (List.mem_cons_of_mem _ hm)
    cases part with
    | plain c => exact hrest next
    | brace opening => exact hrest next
    | field name type =>
      obtain ⟨deferred, hd, ho⟩ := h name type List.mem_cons_self
      have hgroups : (other type).groups = (types type).groups := by rw [ho]; rfl
      obtain ⟨all, hplain, hhanded, hall⟩ := hrest (next + (types type).groups.getD 0 + 1)
      refine ⟨⟨next, types type, deferred⟩ :: all, ?_, ?_, fun f hm => ?_⟩
      · rw [fieldsFrom, hplain]
        rfl
      · rw [fieldsFrom, hgroups, hhanded, ho]
        rfl
      · cases List.mem_cons.mp hm with
        | inl he => exact he ▸ hd
        | inr hr => exact hall f hr

theorem expressionOf_handed : expressionOf other parts = expressionOf types parts := by
  have hparts : parts.flatMap (partText other) = parts.flatMap (partText types) := by
    refine List.flatMap_congr fun part hm => ?_
    cases part with
    | plain c => rfl
    | brace opening => cases opening <;> rfl
    | field name type =>
      obtain ⟨deferred, -, ho⟩ := h name type hm
      rw [partText, partText, ho]
      rfl
  rw [expressionOf, expressionOf, hparts]

end

theorem slot?_map (slots : List Value) (index : Int) :
    slot? (slots.map Argument.value) index = (slot? slots index).map fun s => (s.1, .value s.2) := by
  rw [slot?, slot?, List.length_map]
  cases Text.place? slots.length index with
  | none => rfl
  | some place =>
    simp only [Option.bind_some, List.getElem?_map]
    cases slots[place]? with
    | none => rfl
    | some value => rfl

/-- The field that decides on the conversion of a group is the same one on both sides. -/
theorem exists_typeAt? (all : List HandedField) (f : HandedField) :
    ∃ g, (g = f ∨ g ∈ all) ∧
      ((typeAt? (all.map HandedField.plain) f.index).getD f.plain.type).convert = g.type.convert ∧
      ((typeAt? (all.map HandedField.handed) f.index).getD f.handed.type).convert =
        Argument.wrapping g.deferred g.type.convert := by
  rw [typeAt?, typeAt?, List.filter_map, List.filter_map, List.getLast?_map, List.getLast?_map]
  have hsame : (fun g : Field Value => decide (g.index = f.index)) ∘ HandedField.plain =
      (fun g : Field Argument => decide (g.index = f.index)) ∘ HandedField.handed := rfl
  rw [hsame]
  cases hlast : (all.filter ((fun g : Field Argument => decide (g.index = f.index)) ∘
      HandedField.handed)).getLast? with
  | none => exact ⟨f, .inl rfl, rfl, rfl⟩
  | some g => exact ⟨g, .inr (List.mem_filter.mp (List.mem_of_getLast? hlast)).1, rfl, rfl⟩

section

variable {strict : Prop} {all : List HandedField} (hall : ∀ f ∈ all, strict → f.deferred = false)

include hall

theorem convertAt_follows {f : HandedField} (hf : f ∈ all) (slots : List Value) :
    Follows strict (List.map Argument.value) (convertAt (all.map HandedField.plain) slots f.plain)
      (convertAt (all.map HandedField.handed) (slots.map Argument.value) f.handed) := by
  have hindex : f.plain.index = f.index := rfl
  have hindex' : f.handed.index = f.index := rfl
  rw [convertAt, convertAt, hindex, hindex', slot?_map]
  cases slot? slots f.index with
  | none => exact fun _ => rfl
  | some found =>
    obtain ⟨place, value⟩ := found
    obtain ⟨g, hg, hplain, hhanded⟩ := exists_typeAt? all f
    have hstrict : strict → g.deferred = false := hg.elim (fun he => he ▸ hall f hf) (hall g)
    have hconvert := Argument.follows_wrapping hstrict g.type.convert value
    simp only [Option.map_some, hplain, hhanded]
    cases hv : g.type.convert value with
    | error failure =>
      rw [hv] at hconvert
      intro hs
      rw [hconvert hs]
      rfl
    | ok converted =>
      rw [hv] at hconvert
      have hok : Argument.wrapping g.deferred g.type.convert (.value value) = .ok (.value converted) :=
        hconvert
      rw [hok]
      exact congrArg Except.ok List.map_set.symm

theorem convertAll_follows {fields : List HandedField} (hf : ∀ f ∈ fields, f ∈ all)
    (slots : List Value) :
    Follows strict (List.map Argument.value)
      (convertAll (all.map HandedField.plain) (fields.map HandedField.plain) slots)
      (convertAll (all.map HandedField.handed) (fields.map HandedField.handed)
        (slots.map Argument.value)) := by
  induction fields generalizing slots with
  | nil => rfl
  | cons f rest ih =>
    have hfirst := convertAt_follows hall (hf f List.mem_cons_self) slots
    have hrest := ih fun g hg => hf g (List.mem_cons_of_mem _ hg)
    rw [List.map_cons, List.map_cons, convertAll, convertAll]
    cases hp : convertAt (all.map HandedField.plain) slots f.plain with
    | error failure =>
      rw [hp] at hfirst
      intro hs
      rw [hfirst hs]
    | ok converted =>
      rw [hp] at hfirst
      have hok : convertAt (all.map HandedField.handed) (slots.map Argument.value) f.handed =
          .ok (converted.map Argument.value) := hfirst
      rw [hok]
      exact hrest converted

end

theorem readingOf_handed (s : Spot) (text : Text) (slots : List Value) (f : HandedField) :
    readingOf s text (slots.map Argument.value) f.handed =
      (readingOf s text slots f.plain).map Reading.handed := by
  have hindex : f.plain.index = f.handed.index := rfl
  rw [readingOf, readingOf, hindex, slot?_map]
  cases slot? slots f.handed.index with
  | none => rfl
  | some found =>
    simp only [Option.map_some]
    cases span s text f.handed.index with
    | error failure => rfl
    | ok found => rfl

theorem mapM_readingOf_handed (s : Spot) (text : Text) (slots : List Value) (all : List HandedField) :
    (all.map HandedField.handed).mapM (readingOf s text (slots.map Argument.value)) =
      ((all.map HandedField.plain).mapM (readingOf s text slots)).map (List.map Reading.handed) := by
  induction all with
  | nil => rfl
  | cons f rest ih =>
    rw [List.map_cons, List.map_cons, List.mapM_cons, List.mapM_cons, readingOf_handed, ih]
    cases readingOf s text slots f.plain with
    | error failure => rfl
    | ok reading =>
      cases (rest.map HandedField.plain).mapM (readingOf s text slots) with
      | error failure => rfl
      | ok readings => rfl

/-- A template over types that are handed on reads what the template over the types reads. -/
theorem read_follows {strict : Prop} {types : Text → FieldType Value}
    {other : Text → FieldType Argument} {format : Text}
    (h : ∀ name type, .field name type ∈ Format.parts format →
      HandsOn strict (types type) (other type)) (text : Text) :
    Follows strict (Option.map (List.map Reading.handed))
      ((ofFormat types format).read Value.ofCapture text)
      ((ofFormat other format).read Argument.ofCapture text) := by
  obtain ⟨all, hplain, hhanded, hall⟩ := exists_handedFields h 0
  have hcompiled : (ofFormat other format).compiled = (ofFormat types format).compiled :=
    congrArg compile (expressionOf_handed h)
  have hfields : (ofFormat types format).fields = all.map HandedField.plain := hplain
  have hfields' : (ofFormat other format).fields = all.map HandedField.handed := hhanded
  rw [read, read, hcompiled, hfields, hfields']
  cases (ofFormat types format).compiled with
  | error failure => exact fun _ => rfl
  | ok found =>
    obtain ⟨pattern, groups⟩ := found
    simp only
    cases pattern.match? text with
    | none => rfl
    | some s =>
      have hslots : captured Argument.ofCapture s groups =
          (captured Value.ofCapture s groups).map Argument.value := by
        rw [captured, captured, List.map_map]
        exact List.map_congr_left fun i _ => Argument.ofCapture_eq _
      have hslots' := convertAll_follows hall (fun _ hm => hm) (captured Value.ofCapture s groups)
      simp only [hslots]
      cases hp : convertAll (all.map HandedField.plain) (all.map HandedField.plain)
          (captured Value.ofCapture s groups) with
      | error failure =>
        rw [hp] at hslots'
        intro hs
        rw [hslots' hs]
      | ok slots =>
        rw [hp] at hslots'
        have hok : convertAll (all.map HandedField.handed) (all.map HandedField.handed)
            ((captured Value.ofCapture s groups).map Argument.value) =
              .ok (slots.map Argument.value) := hslots'
        rw [hok]
        refine .of_eq ?_
        simp only [mapM_readingOf_handed]
        cases (all.map HandedField.plain).mapM (readingOf s text slots) with
        | error failure => rfl
        | ok readings => rfl

end Template

end Phrasebook
