import Phrasebook.Pattern.Syntax
import Phrasebook.Transformer

/-!
# Definitions

A definition says what a placeholder may hold: any text, one of some declared texts, a list of such,
or whatever a pattern of one's own takes. Anything else that stands where a definition is expected
is carried along until it is needed.
-/

namespace Phrasebook

/-- A pattern and a conversion of one's own. -/
structure RawDefinition where
  pattern : Text
  /-- For a pattern that was checked on its own, whether it then ignored case. -/
  compiled? : Option Bool
  transformer : Transformer
  /-- How many groups the pattern numbers, if that is said. -/
  groups : Option Int

/-- What a placeholder may hold. -/
inductive Definition where
  | string
  | sum (choices : Choices)
  | list (choices : Choices) (nonEmpty : Bool)
  | raw (definition : RawDefinition)
  | unknown (value : Value)

namespace Definition

def ofSum (values : List Text) : Except Failure Definition :=
  match Choices.ofList? values with
  | some choices => .ok (sum choices)
  | none => .error .emptySum

def ofListValues (values : List Text) (nonEmpty : Bool) : Except Failure Definition :=
  match Choices.ofList? values with
  | some choices => .ok (list choices nonEmpty)
  | none => .error .emptyList

/-- A pattern that is checked on its own has to be one. -/
def ofRaw (d : RawDefinition) : Except Failure Definition :=
  match d.compiled? with
  | none => .ok (raw d)
  | some ignoreCase =>
    match Pattern.read (.standalone ignoreCase) d.pattern with
    | .ok _ => .ok (raw d)
    | .error ⟨.repeatTooLarge, _⟩ => .error .repetitionTooLarge
    | .error fault => .error (.patternFlawed d.pattern fault)

/-- Whether two definitions are equal, part by part. Transformers are equal if their names are. -/
def same : Definition → Definition → Bool
  | string, string => true
  | sum a, sum b => a = b
  | list a nonEmpty, list b nonEmpty' => a = b && nonEmpty == nonEmpty'
  | raw a, raw b =>
    a.pattern = b.pattern && a.compiled? == b.compiled? &&
      a.transformer.name = b.transformer.name && a.groups == b.groups
  | unknown a, unknown b => a.same b
  | _, _ => false

end Definition

end Phrasebook
