import Phrasebook.Proofs.Format
import Phrasebook.Proofs.Template.Fields

/-!
# The template of an expression

What the template of a registered phrase has for a piece depends on the character, or on the type
of the placeholder, and on nothing else: type names leave no trace in the pattern. So renaming the
placeholders of a phrase changes neither the pattern nor the fields.
-/

namespace Phrasebook.Template

open Phrase (Piece namesIn relabel)

variable {α : Type}

def pieceText (typeOf : Text → FieldType α) : Piece → Text
  | .plain c => if c = '{' || c = '}' then ['\\', c] else plainText c
  | .hole name => '(' :: (typeOf name).pattern ++ [')']

def expressionFor (typeOf : Text → FieldType α) (ps : List Piece) : Text :=
  "\\A".toList ++ ps.flatMap (pieceText typeOf) ++ "\\Z".toList

theorem not_mentions_of_underscore {type : Text} (h : '_' ∈ type) :
    Text.mentions type numberTypes = false := by
  have hcut : ∀ t : Text, '_' ∉ t → Text.cut? type t = none := by
    intro t
    induction t with
    | nil =>
      intro _
      cases type with
      | nil => cases h
      | cons c rest => rfl
    | cons d t ih =>
      intro hd
      rw [Text.cut?]
      cases hp : type.isPrefixOf? (d :: t) with
      | none => rw [ih fun hm => hd (List.mem_cons_of_mem _ hm)]; rfl
      | some after =>
        have he := List.isPrefixOf?_eq_some_iff_append_eq.mp hp
        exact absurd (he ▸ List.mem_append_left after h) hd
  rw [Text.mentions, hcut numberTypes (by decide)]
  rfl

/-- Neither a sign nor a blank is allowed for before a field of a registered phrase. -/
theorem signPattern_ofName {name : Text} (h : isBuiltIn name = true ∨ '_' ∈ name) :
    signPattern (TypeName.ofName name) = [] := by
  rw [signPattern, not_mentions_of_underscore (TypeName.underscore_mem_ofName h), Bool.and_false]
  rfl

def signedType (types : Text → FieldType α) (name : Text) : FieldType α :=
  { types (TypeName.ofName name) with
    pattern := signPattern (TypeName.ofName name) ++ (types (TypeName.ofName name)).pattern }

theorem partText_partOf (types : Text → FieldType α) (p : Piece) :
    partText types (Format.partOf p) = pieceText (signedType types) p := by
  cases p with
  | plain c =>
    by_cases ho : c = '{'
    · subst ho
      rfl
    · by_cases hc : c = '}'
      · subst hc
        rfl
      · simp [Format.partOf, pieceText, ho, hc, partText]
  | hole name => simp [Format.partOf, partText, fieldText, pieceText, signedType]

theorem fieldsFrom_partOf (types : Text → FieldType α) (next : Int) (ps : List Piece) :
    fieldsFrom types next (ps.map Format.partOf) =
      numbered next ((namesIn ps).map fun name => types (TypeName.ofName name)) := by
  induction ps generalizing next with
  | nil => rfl
  | cons p ps ih =>
    cases p with
    | plain c =>
      rw [List.map_cons, Format.partOf]
      split
      · exact ih next
      · split
        · exact ih next
        · exact ih next
    | hole name =>
      rw [List.map_cons, Format.partOf, fieldsFrom, ih]
      rfl

/-- Of the types of placeholders only the patterns are written. -/
theorem expressionFor_congr {β : Type} {typeOf : Text → FieldType α} {other : Text → FieldType β}
    {ps : List Piece} (h : ∀ name ∈ namesIn ps, (typeOf name).pattern = (other name).pattern) :
    expressionFor typeOf ps = expressionFor other ps := by
  have htexts : ps.flatMap (pieceText typeOf) = ps.flatMap (pieceText other) := by
    refine List.flatMap_congr fun p hp => ?_
    cases p with
    | plain c => rfl
    | hole name => rw [pieceText, pieceText, h name (List.mem_filterMap.mpr ⟨_, hp, rfl⟩)]
  rw [expressionFor, expressionFor, htexts]

/-- The template of a format that was written for pieces. -/
theorem ofFormat_pieces (types : Text → FieldType α) (ps : List Piece) :
    ofFormat types (ps.flatMap Format.written) =
      ⟨ps.flatMap Format.written, expressionFor (signedType types) ps,
        numbered 0 ((namesIn ps).map fun name => types (TypeName.ofName name)),
        compile (expressionFor (signedType types) ps)⟩ := by
  have htexts : (ps.map Format.partOf).flatMap (partText types) =
      ps.flatMap (pieceText (signedType types)) := by
    rw [List.flatMap_map]
    exact List.flatMap_congr fun p _ => partText_partOf types p
  rw [ofFormat, Format.parts_written, fieldsFrom_partOf, expressionOf, htexts]
  rfl

/-- The template of a format that was written for pieces of a registered phrase. -/
theorem ofFormat_written (types : Text → FieldType α) {ps : List Piece}
    (h : ∀ name ∈ namesIn ps, isBuiltIn name = true ∨ '_' ∈ name) :
    ofFormat types (ps.flatMap Format.written) =
      ⟨ps.flatMap Format.written,
        expressionFor (fun name => types (TypeName.ofName name)) ps,
        numbered 0 ((namesIn ps).map fun name => types (TypeName.ofName name)),
        compile (expressionFor (fun name => types (TypeName.ofName name)) ps)⟩ := by
  have hunsigned : expressionFor (signedType types) ps =
      expressionFor (fun name => types (TypeName.ofName name)) ps := by
    refine expressionFor_congr fun name hn => ?_
    rw [signedType, signPattern_ofName (h name hn), List.nil_append]
  rw [ofFormat_pieces, hunsigned]

/-- A field has the type that its part of the format names. -/
theorem type_of_mem_fieldsFrom {types : Text → FieldType α} {parts : List FormatPart} {next : Int}
    {f : Field α} (h : f ∈ fieldsFrom types next parts) :
    ∃ name type, .field name type ∈ parts ∧ f.type = types type := by
  induction parts generalizing next with
  | nil => cases h
  | cons part parts ih =>
    have hrest : ∀ {next}, f ∈ fieldsFrom types next parts → ∃ name type,
        .field name type ∈ part :: parts ∧ f.type = types type := by
      intro next hf
      obtain ⟨name, type, hm, he⟩ := ih hf
      exact ⟨name, type, List.mem_cons_of_mem _ hm, he⟩
    cases part with
    | plain c => exact hrest h
    | brace opening => exact hrest h
    | field name type =>
      cases List.mem_cons.mp h with
      | inl he => exact ⟨name, type, List.mem_cons_self, congrArg Field.type he⟩
      | inr hr => exact hrest hr

theorem fieldsFrom_congr {types types' : Text → FieldType α} {parts : List FormatPart}
    (h : ∀ name type, .field name type ∈ parts → types type = types' type) (next : Int) :
    fieldsFrom types next parts = fieldsFrom types' next parts := by
  induction parts generalizing next with
  | nil => rfl
  | cons part parts ih =>
    have hrest := ih fun name type hm => h name type (List.mem_cons_of_mem _ hm)
    cases part with
    | plain c => exact hrest next
    | brace opening => exact hrest next
    | field name type =>
      rw [fieldsFrom, fieldsFrom, h name type List.mem_cons_self, hrest]

/-- The template of a format depends on the types of its own fields only. -/
theorem ofFormat_congr {types types' : Text → FieldType α} {format : Text}
    (h : ∀ name type, .field name type ∈ Format.parts format → types type = types' type) :
    ofFormat types format = ofFormat types' format := by
  have hparts : (Format.parts format).flatMap (partText types) =
      (Format.parts format).flatMap (partText types') := by
    refine List.flatMap_congr fun part hp => ?_
    cases part with
    | plain c => rfl
    | brace opening => cases opening <;> rfl
    | field name type => rw [partText, partText, h name type hp]
  rw [ofFormat, ofFormat, expressionOf, expressionOf, hparts, fieldsFrom_congr h]

variable {typeOf typeOf' : Text → FieldType α}

/-- Whatever the new names are, a placeholder stays one. -/
theorem relabel_hole (name : Text) (ps : List Piece) (fresh : List Text) :
    ∃ other rest, relabel (.hole name :: ps) fresh = .hole other :: relabel ps rest := by
  simp only [relabel]
  split
  · exact ⟨name, fresh, rfl⟩
  · cases fresh with
    | nil => exact ⟨name, [], rfl⟩
    | cons next fresh => exact ⟨next, fresh, rfl⟩

theorem expressionFor_relabel {ps : List Piece} {fresh : List Text}
    (h : (namesIn (relabel ps fresh)).map typeOf' = (namesIn ps).map typeOf) :
    expressionFor typeOf' (relabel ps fresh) = expressionFor typeOf ps := by
  have htexts : (relabel ps fresh).flatMap (pieceText typeOf') = ps.flatMap (pieceText typeOf) := by
    induction ps generalizing fresh with
    | nil => rfl
    | cons p ps ih =>
      cases p with
      | plain c =>
        rw [relabel, List.flatMap_cons, List.flatMap_cons, ih h]
        rfl
      | hole name =>
        obtain ⟨other, rest, hr⟩ := relabel_hole name ps fresh
        rw [hr, Phrase.namesIn_hole, Phrase.namesIn_hole, List.map_cons, List.map_cons] at h
        obtain ⟨htype, hmore⟩ := List.cons.inj h
        rw [hr, List.flatMap_cons, List.flatMap_cons, ih hmore, pieceText, pieceText, htype]
  rw [expressionFor, expressionFor, htexts]

end Phrasebook.Template
