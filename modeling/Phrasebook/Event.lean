import Phrasebook.Text.Quoted

/-!
# Events

What registrations report as they go on: every type and step that was registered, and every
definition that a phrase does not use. Each event has a severity, a source and a message.
-/

namespace Phrasebook

inductive Severity where
  | debug
  | warning
  deriving DecidableEq

def Severity.name : Severity → Text
  | debug => "DEBUG".toList
  | warning => "WARNING".toList

inductive Event where
  | typeRegistered (name pattern : Text)
  /-- A host of its own has taken a step. -/
  | stepDefined (expression format : Text)
  /-- A host of a shared registry has handed a step on. -/
  | sharedStepDefined (expression format : Text)
  | phraseRegistered (phrase expression : Text)
  | definitionIgnored (name phrase : Text)
  deriving DecidableEq

namespace Event

def severity : Event → Severity
  | definitionIgnored _ _ => .warning
  | _ => .debug

def source : Event → Text
  | typeRegistered _ _ => "typed_steps.compiler".toList
  | stepDefined _ _ => "typed_steps.parse_host".toList
  | sharedStepDefined _ _ => "typed_steps.behave_host".toList
  | phraseRegistered _ _ | definitionIgnored _ _ => "typed_steps.registrar".toList

def message : Event → Text
  | typeRegistered name pattern =>
    "Registered parameter type ".toList ++ name ++ " with pattern ".toList ++ Text.quoted pattern
  | stepDefined expression format =>
    "Defined step ".toList ++ Text.quoted expression ++ " as format ".toList ++ Text.quoted format
  | sharedStepDefined expression format =>
    "Defined behave step ".toList ++ Text.quoted expression ++ " as ".toList ++ Text.quoted format
  | phraseRegistered phrase expression =>
    "Registered step ".toList ++ Text.quoted phrase ++ " as ".toList ++ Text.quoted expression
  | definitionIgnored name phrase =>
    "Ignoring unused definition ".toList ++ Text.quoted name ++ " for step ".toList ++
      Text.quoted phrase

end Event

end Phrasebook
