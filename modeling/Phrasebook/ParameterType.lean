import Phrasebook.Decoding.Decoder
import Phrasebook.Definition

/-!
# Parameter types

Hosts know nothing of definitions. They are told parameter types: a name, a pattern, and what
becomes of the texts that it takes. A definition compiles to a parameter type and the decoder
behind it.

In patterns that take given texts every character that has a meaning of its own is escaped,
alternatives stand in a silent group, and a list repeats the separator and an alternative.
-/

namespace Phrasebook

namespace Pattern

def specialChars : Text := "()[]\x7b\x7d?*+-|^$\\.&~# \t\n\r\x0b\x0c".toList

def escapedChar (c : Char) : Text := if specialChars.contains c then ['\\', c] else [c]

def escape (t : Text) : Text := t.flatMap escapedChar

def alternation (values : List Text) : Text :=
  "(?:".toList ++ Text.join ['|'] (values.map escape) ++ [')']

/-- The pattern that takes one or more of some texts with separators between them, or nothing,
unless that is excluded. -/
def listOf (values : List Text) (nonEmpty : Bool) : Text :=
  let element := alternation values
  "(?:".toList ++ element ++ "(?:".toList ++ escape ListText.separator ++ element ++ ")*)".toList ++
    (if nonEmpty then [] else ['?'])

def anyText : Text := ['.', '*']

end Pattern

/-- What a host is told of a placeholder. -/
structure ParameterType where
  name : Text
  pattern : Text
  /-- How many groups the pattern numbers, if that is said. -/
  groups : Option Int
  transform : Convert

def Definition.compile (name : Text) : Definition → Except Failure (ParameterType × Decoder)
  | string => .ok (⟨name, Pattern.anyText, none, .ok⟩, .text)
  | raw d => .ok (⟨name, d.pattern, d.groups, d.transformer.apply⟩, .anything)
  | sum choices =>
    let decoder := Decoder.choice choices
    .ok (⟨name, Pattern.alternation choices.values, none, decoder.decode⟩, decoder)
  | list choices nonEmpty =>
    let decoder := Decoder.list choices nonEmpty
    .ok (⟨name, Pattern.listOf choices.values nonEmpty, none, decoder.decode⟩, decoder)
  | unknown value => .error (.unknownDefinition value)

end Phrasebook
