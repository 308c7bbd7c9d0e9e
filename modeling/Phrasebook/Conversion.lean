import Phrasebook.Number.Numeral
import Phrasebook.Phrase

/-!
# Built-in conversions

The four placeholders that need no definition, each with the pattern of the texts it takes and what
becomes of them. A conversion is also met by values that are no texts: by nothing, where a group
took no part in a match, and by what an earlier conversion has made of the same group.
-/

namespace Phrasebook

abbrev Convert := Value → Except Failure Value

namespace BuiltIn

def integerOfText (t : Text) : Except Failure Int :=
  match Numeral.integer t with
  | .ok value => .ok value
  | .error .malformed => .error (.integerMalformed t)
  | .error (.tooLong digits) => .error (.integerTooLong digits)

/-- A text is read, and a number is cut to the integer towards zero. -/
def toInteger : Convert
  | .text t => (integerOfText t).map .int
  | .int value => .ok (.int value)
  | .bool value => .ok (.int (if value then 1 else 0))
  | .float .nan => .error .nanAsInteger
  | .float (.infinite _) => .error .infinityAsInteger
  | .float (.finite negative significand exponent) =>
    let (num, den) := Binary64.shifted significand exponent
    let whole : Int := (num / den : Nat)
    .ok (.int (if negative then -whole else whole))
  | value => .error (.noInteger value.kindName)

/-- The number nearest to an integer, which must not be beyond all numbers. -/
def floatOfInteger (i : Int) : Except Failure Value :=
  match Binary64.ofQuotient (i < 0) i.natAbs 1 with
  | .infinite _ => .error .integerTooLarge
  | value => .ok (.float (if i = 0 then Binary64.zero false else value))

/-- A text is read, and a number is taken for what it is. -/
def toFloat : Convert
  | .text t =>
    match Numeral.float? t with
    | some value => .ok (.float value)
    | none => .error (.floatMalformed t)
  | .float value => .ok (.float value)
  | .int value => floatOfInteger value
  | .bool value => floatOfInteger (if value then 1 else 0)
  | value => .error (.noFloat value.kindName)

/-- The text with every backslash before the quote left out, given whether a backslash has been
read and not yet written. -/
def unescapeFrom (quote : Char) : Bool → Text → Text
  | false, [] => []
  | true, [] => ['\\']
  | false, c :: rest =>
    if c = '\\' then unescapeFrom quote true rest else c :: unescapeFrom quote false rest
  | true, c :: rest =>
    if c = quote then quote :: unescapeFrom quote false rest
    else if c = '\\' then '\\' :: unescapeFrom quote true rest
    else '\\' :: c :: unescapeFrom quote false rest

def unescape (quote : Char) (t : Text) : Text := unescapeFrom quote false t

/-- The text between its first and its last character, the first being the quote. -/
def unquote (t : Text) : Except Failure Text :=
  match t with
  | [] => .error .noQuote
  | quote :: rest => .ok (unescape quote rest.dropLast)

def toQuoted : Convert
  | .text t => (unquote t).map .text
  | value => .error (.noCharacters value.kindName)

def pattern : BuiltIn → Text
  | int => "-?\\d+".toList
  | float => "[-+]?(?:\\d+\\.?\\d*|\\.\\d+)(?:[eE][-+]?\\d+)?".toList
  | string => "(?:\"(?:[^\"\\\\]|\\\\.)*\"|'(?:[^'\\\\]|\\\\.)*')".toList
  | word => "[^\\s]+".toList

/-- What a built-in placeholder makes of a text. A word is itself. -/
def convert : BuiltIn → Convert
  | int => toInteger
  | float => toFloat
  | string => toQuoted
  | word => .ok

end BuiltIn

end Phrasebook
