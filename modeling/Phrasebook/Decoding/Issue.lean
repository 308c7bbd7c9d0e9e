import Phrasebook.Decoding.Choices
import Phrasebook.Value

/-!
# Issues of a decoding

A decoder that refuses a value says why, issue by issue, as a JSON document.
-/

namespace Phrasebook

/-- One reason to refuse a value. -/
inductive Issue where
  /-- Not a declared text; inside a list, with the index of the element. -/
  | undeclared (index? : Option Nat) (choices : Choices) (input : Value)
  /-- Neither a list nor a text that writes one. -/
  | notList (input : Value)
  /-- The empty list where an element is required. -/
  | tooShort
  /-- Not a text. -/
  | notText (input : Value)

namespace Issue

def textMember (name : String) (value : Text) : Text × Json := (name.toList, .string value)

def numberMember (name : String) (value : Nat) : Text × Json :=
  (name.toList, .number (Text.decimal value))

/-- The kind of issue, the place in the value, the reason in words, the refused value, and what the
reason refers to, as version 2.14.3 of `pydantic` lists and words them. -/
def toJson : Issue → Json
  | undeclared index? choices input =>
    .object
      [textMember "type" "literal_error".toList,
       ("loc".toList, .array (index?.toList.map fun i => .number (Text.decimal i))),
       textMember "msg" ("Input should be ".toList ++ choices.expected),
       ("input".toList, input.toJson),
       ("ctx".toList, .object [textMember "expected" choices.expected])]
  | notList input =>
    .object
      [textMember "type" "list_type".toList,
       ("loc".toList, .array []),
       textMember "msg" "Input should be a valid list".toList,
       ("input".toList, input.toJson)]
  | tooShort =>
    .object
      [textMember "type" "too_short".toList,
       ("loc".toList, .array []),
       textMember "msg" "List should have at least 1 item after validation, not 0".toList,
       ("input".toList, .array []),
       ("ctx".toList, .object
         [textMember "field_type" "List".toList, numberMember "min_length" 1,
          numberMember "actual_length" 0])]
  | notText input =>
    .object
      [textMember "type" "string_type".toList,
       ("loc".toList, .array []),
       textMember "msg" "Input should be a valid string".toList,
       ("input".toList, input.toJson)]

def report (issues : List Issue) : Text := (Json.array (issues.map toJson)).render

end Issue

end Phrasebook
