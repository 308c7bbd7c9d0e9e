import Phrasebook.Conversion
import Phrasebook.Format
import Phrasebook.Pattern.Syntax

/-!
# Templates

A template is a format that is ready to read step texts. Its fields become groups of one pattern,
and each field knows by a number which group it reads: it counts the groups of the fields before it
as their conversions state them. A wrong count makes later fields read other groups. Conversions
take place where the groups are, in the order of the fields, and a group that several fields read is
converted as the last of them says, once for each.
-/

namespace Phrasebook

/-- How a field of some type is taken from a text and converted. -/
structure FieldType (α : Type) where
  pattern : Text
  /-- How many groups the pattern numbers, if that is said. -/
  groups : Option Int
  convert : α → Except Failure α

structure Field (α : Type) where
  /-- The group that the field reads, counted from zero, or from the end. -/
  index : Int
  type : FieldType α

/-- A format that is ready to read step texts. Its rules are those of the package `parse`, version
1.22.4. Text is escaped. A field is a group around the pattern of its type, with a sign in front if
the type is named by letters for numbers. The pattern has to take the whole text. The group that a
field reads is counted from the fields before it, each of which counts for one and for as many more
as its type states. Conversions take place in the list of the groups, in the order of the fields. -/
structure Template (α : Type) where
  format : Text
  /-- The pattern as it is written. -/
  expression : Text
  fields : List (Field α)
  /-- The pattern and the number of its groups. -/
  compiled : Except Failure (Pattern × Nat)

/-- What a field read. -/
structure Reading (α : Type) where
  /-- Where the group begins that the field reports, or -1 if it took no part. -/
  start : Int
  matched : Text
  value : α

namespace Template

variable {α : Type}

/-- The characters that stand for themselves only when escaped. -/
def escapedChars : Text := "?\\.[]()*+^$!|".toList

def plainText (c : Char) : Text := if escapedChars.contains c then ['\\', c] else [c]

/-- The letters of the types of numbers. -/
def numberTypes : Text := "n%fFegdobxEGX".toList

/-- Before a field whose type is named by some of the letters for numbers, one sign or blank may
stand. -/
def signPattern (type : Text) : Text :=
  if !type.isEmpty && Text.mentions type numberTypes then "[-+ ]?".toList else []

def fieldText (name type pattern : Text) : Text :=
  let label := if name.isEmpty then [] else "?P<".toList ++ name ++ ['>']
  '(' :: label ++ signPattern type ++ pattern ++ [')']

def partText (types : Text → FieldType α) : FormatPart → Text
  | .plain c => plainText c
  | .brace true => ['\\', '{']
  | .brace false => ['\\', '}']
  | .field name type => fieldText name type (types type).pattern

def expressionOf (types : Text → FieldType α) (parts : List FormatPart) : Text :=
  "\\A".toList ++ parts.flatMap (partText types) ++ "\\Z".toList

def fieldsFrom (types : Text → FieldType α) : Int → List FormatPart → List (Field α)
  | _, [] => []
  | next, .field _ type :: rest =>
    ⟨next, types type⟩ :: fieldsFrom types (next + (types type).groups.getD 0 + 1) rest
  | next, .plain _ :: rest => fieldsFrom types next rest
  | next, .brace _ :: rest => fieldsFrom types next rest

/-- The pattern that an expression writes. A flaw anywhere makes it unusable. -/
def compile (expression : Text) : Except Failure (Pattern × Nat) :=
  match Pattern.read .stepText expression with
  | .ok found => .ok found
  | .error ⟨.repeatTooLarge, _⟩ => .error .repetitionTooLarge
  | .error _ => .error (.uncompilable expression)

def ofFormat (types : Text → FieldType α) (format : Text) : Template α :=
  let parts := Format.parts format
  let expression := expressionOf types parts
  ⟨format, expression, fieldsFrom types 0 parts, compile expression⟩

/-- The type of the last field that reads a group. -/
def typeAt? (fields : List (Field α)) (index : Int) : Option (FieldType α) :=
  ((fields.filter (·.index = index)).getLast?).map (·.type)

def slot? (slots : List α) (index : Int) : Option (Nat × α) :=
  (Text.place? slots.length index).bind fun place => slots[place]?.map fun value => (place, value)

def convertAt (all : List (Field α)) (slots : List α) (f : Field α) : Except Failure (List α) :=
  match slot? slots f.index with
  | none => .error .captureMissing
  | some (place, value) =>
    (((typeAt? all f.index).getD f.type).convert value).map fun converted =>
      slots.set place converted

def convertAll (all : List (Field α)) : List (Field α) → List α → Except Failure (List α)
  | [], slots => .ok slots
  | f :: rest, slots =>
    match convertAt all slots f with
    | .error failure => .error failure
    | .ok slots => convertAll all rest slots

/-- Where the group that a field reports begins, and what it took. -/
def span (s : Spot) (text : Text) (index : Int) : Except Failure (Int × Text) :=
  if index = -1 then .ok (0, text)
  else if index < -1 then .error .groupMissing
  else
    match s.capture? (index + 1).toNat with
    | some capture => .ok (capture.start, capture.text)
    | none => .ok (-1, [])

def readingOf (s : Spot) (text : Text) (slots : List α) (f : Field α) :
    Except Failure (Reading α) :=
  match slot? slots f.index with
  | none => .error .captureMissing
  | some (_, value) => (span s text f.index).map fun found => ⟨found.1, found.2, value⟩

def captured (inject : Option Text → α) (s : Spot) (groups : Nat) : List α :=
  (List.range groups).map fun i => inject ((s.capture? (i + 1)).map (·.text))

def read (inject : Option Text → α) (t : Template α) (text : Text) :
    Except Failure (Option (List (Reading α))) :=
  match t.compiled with
  | .error failure => .error failure
  | .ok (pattern, groups) =>
    match pattern.match? text with
    | none => .ok none
    | some s =>
      match convertAll t.fields t.fields (captured inject s groups) with
      | .error failure => .error failure
      | .ok slots => (t.fields.mapM (readingOf s text slots)).map some

end Template

end Phrasebook
