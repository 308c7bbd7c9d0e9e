import Phrasebook.Failure
import Phrasebook.Text.Basic

/-!
# Decoders

A decoder checks a value and gives it back in its proper form. A list is decoded from a text that
writes it or from a list of values; every element that is not declared is an issue.
-/

namespace Phrasebook

/-- What a value has to be. -/
inductive Decoder where
  | text
  | anything
  | choice (choices : Choices)
  | list (choices : Choices) (nonEmpty : Bool)
  deriving DecidableEq

/-- The list that a text writes; other values are left alone. -/
def Value.splitListText : Value → Value
  | .text t => .list ((ListText.elements t).map .text)
  | value => value

namespace Decoder

def declares (choices : Choices) : Value → Bool
  | .text t => choices.values.contains t
  | _ => false

def elementIssues (choices : Choices) : Nat → List Value → List Issue
  | _, [] => []
  | index, item :: rest =>
    if declares choices item then elementIssues choices (index + 1) rest
    else .undeclared (some index) choices item :: elementIssues choices (index + 1) rest

def elements? : Value → Option (List Value)
  | .list items | .tuple items => some items
  | _ => none

/-- The value in its proper form, or why it is refused. These are the rules of the package
`pydantic`, version 2.14.3, for texts, literals and lists: only a text is a text, a literal has to be
equal to a declared text, a tuple serves as a list, and all elements that are refused are reported. -/
def check : Decoder → Value → Except (List Issue) Value
  | text, .text t => .ok (.text t)
  | text, value => .error [.notText value]
  | anything, value => .ok value
  | choice choices, value =>
    if declares choices value then .ok value else .error [.undeclared none choices value]
  | list choices nonEmpty, value =>
    match elements? value.splitListText with
    | none => .error [.notList value]
    | some items =>
      if items.isEmpty && nonEmpty then .error [.tooShort]
      else
        match elementIssues choices 0 items with
        | [] => .ok (.list items)
        | issues => .error issues

def decode (d : Decoder) (value : Value) : Except Failure Value :=
  match d.check value with
  | .ok value => .ok value
  | .error issues => .error (.undecodable issues)

end Decoder

end Phrasebook
