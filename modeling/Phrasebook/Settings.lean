import Phrasebook.Failure
import Phrasebook.Table
import Phrasebook.Text.Classes

/-!
# Settings

Two things can be set: whether definitions that a phrase does not use are let pass, and the
separator in unique names. The separator is a run of letters, digits, underscores and hyphens, which
is part of the type. Settings come from the environment, and an option can override the first.
-/

namespace Phrasebook

namespace Separator

def isLegalChar (c : Char) : Bool := Text.isAsciiWord c || c = '-'

def isLegal (t : Text) : Bool := !t.isEmpty && t.all isLegalChar

def default : Text := ['_', '_']

theorem isLegal_default : isLegal default = true := by decide

end Separator

structure Settings where
  /-- Whether definitions that a phrase does not use are let pass. -/
  allowUnused : Bool := false
  /-- What stands between a name and the token in unique names. -/
  separator : Text := Separator.default
  legal : Separator.isLegal separator = true := by exact Separator.isLegal_default

namespace Settings

/-- Settings with a separator that has to be legal. -/
def make (allowUnused : Bool) (separator : Text) : Except Failure Settings :=
  if h : Separator.isLegal separator = true then .ok ⟨allowUnused, separator, h⟩
  else .error (.badSeparator separator)

def yes : List Text := ["1".toList, "true".toList, "yes".toList, "on".toList]

/-- Whether a text means yes, whatever the case of its letters and the blanks around it. -/
def isYes (t : Text) : Bool := yes.contains ((Text.strip t).map Char.toLower)

def allowUnusedVariable : Text := "TYPED_STEPS_ALLOW_UNUSED_DEFINITIONS".toList

def separatorVariable : Text := "TYPED_STEPS_NAME_SEPARATOR".toList

/-- The settings of an environment. An empty separator counts as none. -/
def ofEnvironment (environment : Table Text) : Except Failure Settings :=
  let allowUnused := isYes ((environment.find? allowUnusedVariable).getD [])
  let separator := (environment.find? separatorVariable).getD []
  make allowUnused (if separator.isEmpty then Separator.default else separator)

/-- The settings of an environment and of an option, which wins unless it is blank. -/
def ofOption (environment : Table Text) (option : Text) : Except Failure Settings :=
  (ofEnvironment environment).map fun settings =>
    if (Text.strip option).isEmpty then settings
    else { settings with allowUnused := isYes option }

structure ConfigOption where
  name : Text
  kind : Text
  initial : Text
  help : Text

def allowUnusedOption : ConfigOption :=
  { name := "typed_steps_allow_unused_definitions".toList
    kind := "string".toList
    initial := []
    help :=
      ("Log and skip parameter definitions that a step phrase does not use instead of rejecting " ++
        "them. Overrides TYPED_STEPS_ALLOW_UNUSED_DEFINITIONS.").toList }

end Settings

end Phrasebook
