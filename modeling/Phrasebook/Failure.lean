import Phrasebook.Decoding.Issue
import Phrasebook.Pattern.Flaw

/-!
# Failures

Everything that can go wrong between a phrase and the step that it runs, by cause. `message?` says
it in words; `label` names the kind of failure, under which several causes may fall.
-/

namespace Phrasebook

inductive StatedKind where
  | general
  | decoding
  | undefinedStep
  deriving DecidableEq

/-- What went wrong. -/
inductive Failure where
  /-- A sum without values. -/
  | emptySum
  /-- A list without values. -/
  | emptyList
  /-- A call without the first of the values that it needs. -/
  | noFirstValue
  /-- A separator that could be taken for something else in a name. -/
  | badSeparator (separator : Text)
  /-- A braced text that the rest of a phrase does not hold. -/
  | placeholderNotFound (braced phrase : Text)
  /-- A placeholder of an expression whose type was not defined. -/
  | typeUndefined (name expression : Text)
  /-- A type name that cannot be defined again. -/
  | typeTaken (name : Text)
  /-- Definitions that do not name exactly the placeholders of a phrase. -/
  | definitionMismatch (phrase : Text) (missing unused : List Text)
  /-- Something that is no definition. -/
  | unknownDefinition (value : Value)
  /-- No step takes a text. -/
  | stepUndefined (text : Text)
  /-- A step whose format an earlier step takes. -/
  | stepAmbiguous
  /-- A captured text that could not be converted, reported when the step is run. -/
  | stepUnreadable (reason : Text)
  /-- A value that a decoder refused. -/
  | undecodable (issues : List Issue)
  | integerMalformed (text : Text)
  | integerTooLong (digits : Nat)
  | floatMalformed (text : Text)
  /-- A value that is no integer and cannot be read as one. -/
  | noInteger (kind : Text)
  /-- A value that is no number and cannot be read as one. -/
  | noFloat (kind : Text)
  | infinityAsInteger
  | nanAsInteger
  /-- An integer beyond the greatest floating point number. -/
  | integerTooLarge
  /-- An integer too far from zero to count repetitions. -/
  | countTooLarge
  /-- A list of more elements than there is room for. -/
  | noRoom
  /-- A value that has no characters. -/
  | noCharacters (kind : Text)
  /-- A quotation without its quotes. -/
  | noQuote
  /-- A placeholder that reads a group beyond the last. -/
  | captureMissing
  /-- A placeholder that reports a group before the first. -/
  | groupMissing
  /-- An expression that is no pattern. -/
  | uncompilable (expression : Text)
  | repetitionTooLarge
  /-- A pattern that is flawed on its own. -/
  | patternFlawed (written : Text) (fault : PatternFault)
  | oddNumber (value : Int)
  | rejected (value : Value)
  | keyMissing (key : Value)
  | textNeeded
  | noArguments
  | handlerFailed (name : Text) (arguments : Nat)
  /-- Something that no step has set yet. -/
  | attributeMissing (name : Text)
  /-- An expectation that did not hold. -/
  | assertion
  /-- A failure in one's own words. -/
  | stated (kind : StatedKind) (text : Text)
  /-- A failure that a value held back. -/
  | relayed (label shown message : Text)

namespace Failure

def label : Failure → Text
  | emptySum | emptyList | badSeparator _ | placeholderNotFound _ _ | typeUndefined _ _
  | typeTaken _ | integerMalformed _ | integerTooLong _ | floatMalformed _ | nanAsInteger
  | oddNumber _ | rejected _ => "ValueError".toList
  | definitionMismatch _ _ _ => "DefinitionMismatchError".toList
  | unknownDefinition _ => "UnknownParameterTypeError".toList
  | stepUndefined _ | stated .undefinedStep _ => "UndefinedStepError".toList
  | stepAmbiguous => "AmbiguousStep".toList
  | stepUnreadable _ => "StepParseError".toList
  | undecodable _ | stated .decoding _ => "DecodeError".toList
  | noFirstValue | noInteger _ | noFloat _ | noCharacters _ | textNeeded => "TypeError".toList
  | infinityAsInteger | integerTooLarge | countTooLarge | repetitionTooLarge =>
    "OverflowError".toList
  | noRoom => "MemoryError".toList
  | noQuote | captureMissing | groupMissing => "IndexError".toList
  | uncompilable _ => "NotImplementedError".toList
  | patternFlawed _ _ => "error".toList
  | keyMissing _ => "KeyError".toList
  | noArguments => "LookupError".toList
  | handlerFailed _ _ => "RuntimeError".toList
  | attributeMissing _ => "AttributeError".toList
  | assertion => "AssertionError".toList
  | stated .general _ => "TypedStepsError".toList
  | relayed label _ _ => label

def broaderKinds : Failure → List Text
  | definitionMismatch _ _ _ | stated .general _ => ["TypedStepsError".toList]
  | undecodable _ | stated .decoding _ => ["TypedStepsError".toList, "ValueError".toList]
  | unknownDefinition _ => ["TypedStepsError".toList, "TypeError".toList]
  | stepUndefined _ | stated .undefinedStep _ => ["TypedStepsError".toList, "LookupError".toList]
  | _ => []

/-- A list of names under a heading, if there are any. -/
def heading (title : String) (names : List Text) : List Text :=
  if names.isEmpty then [] else [title.toList ++ Text.join ", ".toList names]

/-- What went wrong, in words. Ambiguous steps and failed expectations have none. -/
def message? : Failure → Option Text
  | emptySum => some "SumParam requires at least one value".toList
  | emptyList => some "ListParam requires at least one value".toList
  | noFirstValue =>
    some ("define_parameter_type_with_decoder() missing 1 required positional argument: ".toList ++
      "'first'".toList)
  | badSeparator separator =>
    some ("separator must be a non-empty run of letters, digits, '_' or '-': ".toList ++
      Text.quoted separator)
  | placeholderNotFound braced phrase =>
    some ("placeholder ".toList ++ Text.quoted braced ++ " not found in ".toList ++
      Text.quoted phrase)
  | typeUndefined name expression =>
    some ("undefined parameter type ".toList ++ Text.quoted name ++ " in ".toList ++
      Text.quoted expression)
  | typeTaken name =>
    some ("parameter type ".toList ++ Text.quoted name ++ " is already defined".toList)
  | definitionMismatch phrase missing unused =>
    some (Text.join "; ".toList
        (heading "missing definitions for " missing ++ heading "unused definitions for " unused) ++
      " in step ".toList ++ Text.quoted phrase)
  | unknownDefinition value => some ("Unknown definition: ".toList ++ value.shown)
  | stepUndefined text => some ("no step matches ".toList ++ Text.quoted text)
  | stepAmbiguous => none
  | stepUnreadable reason => some reason
  | undecodable issues => some ("DecodeError: ".toList ++ Issue.report issues)
  | integerMalformed text =>
    some ("invalid literal for int() with base 10: ".toList ++ (Text.quoted text).take 200)
  | integerTooLong digits =>
    some ("Exceeds the limit (4300 digits) for integer string conversion: value has ".toList ++
      Text.decimal digits ++
      " digits; use sys.set_int_max_str_digits() to increase the limit".toList)
  | floatMalformed text => some ("could not convert string to float: ".toList ++ Text.quoted text)
  | noInteger kind =>
    some ("int() argument must be a string, a bytes-like object or a real number, not '".toList ++
      kind ++ ['\''])
  | noFloat kind =>
    some ("float() argument must be a string or a real number, not '".toList ++ kind ++ ['\''])
  | infinityAsInteger => some "cannot convert float infinity to integer".toList
  | nanAsInteger => some "cannot convert float NaN to integer".toList
  | integerTooLarge => some "int too large to convert to float".toList
  | countTooLarge => some "cannot fit 'int' into an index-sized integer".toList
  | noRoom => some []
  | noCharacters kind => some ('\'' :: kind ++ "' object is not subscriptable".toList)
  | noQuote => some "string index out of range".toList
  | captureMissing => some "list index out of range".toList
  | groupMissing => some "no such group".toList
  | uncompilable expression =>
    some ("Group names (e.g. (?P<name>) can cause failure, ".toList ++
      "as they are not escaped properly: '".toList ++ expression ++ ['\''])
  | repetitionTooLarge => some "the repetition number is too large".toList
  | patternFlawed written fault => some (fault.message written)
  | oddNumber value => some ("odd number: ".toList ++ Text.integer value)
  | rejected value => some ("rejected: ".toList ++ value.plain)
  | keyMissing key => some key.shown
  | textNeeded => some "transformer needs text".toList
  | noArguments => some "no arguments".toList
  | handlerFailed name count =>
    some ("handler failed: ".toList ++ name ++ " (".toList ++ Text.decimal count ++ " args)".toList)
  | attributeMissing name => some ("'Context' object has no attribute ".toList ++ Text.quoted name)
  | assertion => none
  | stated _ text => some text
  | relayed _ _ message => some message

def message (f : Failure) : Text := f.message?.getD []

/-- The failure as a value that stands for it. -/
def held : Failure → Value
  | relayed label shown message => .deferred label shown message
  | keyMissing key => .deferred "KeyError".toList ("KeyError(".toList ++ key.shown ++ [')']) key.shown
  | f => .deferred f.label (f.label ++ '(' :: Text.quoted f.message ++ [')']) f.message

end Failure

/-- The value, unless it stands for a failure, which comes to light here. -/
def Value.settle : Value → Except Failure Value
  | deferred label shown message => .error (.relayed label shown message)
  | value => .ok value

end Phrasebook
