import Phrasebook.Number.Binary64
import Phrasebook.Text.Classes

/-!
# Reading numerals

A numeral may use the decimal digits of any script, single underscores between digits, and blanks
around it. `plain` brings a text to ASCII; integers and floating point numbers are read from that.
-/

namespace Phrasebook.Numeral

def asciiDigit (n : Nat) : Char := Char.ofNat ('0'.toNat + n)

/-- A character of a numeral in ASCII: blanks beyond ASCII become spaces and digits of other scripts
ASCII digits. Any other character beyond ASCII belongs to no numeral and becomes a question mark,
which belongs to none either. -/
def plainChar (c : Char) : Char :=
  if c.toNat < 0x7f then c
  else if Text.isBlank c then ' '
  else ((Text.digit? c).map asciiDigit).getD '?'

/-- The numeral in ASCII. A text within ASCII stands for itself. -/
def plain (t : Text) : Text := if t.all (·.toNat < 0x80) then t else t.map plainChar

/-- The value of a run of digits of any script, in which other characters count for nothing. -/
def digitsValue (t : Text) : Nat :=
  t.foldl (fun value c => match Text.digit? c with
    | some d => 10 * value + d
    | none => value) 0

def signed : Text → Bool × Text
  | '-' :: rest => (true, rest)
  | '+' :: rest => (false, rest)
  | rest => (false, rest)

/-- Whether every underscore stands between two digits, given whether a digit comes before. -/
def underscoresApartAfter : Bool → Text → Bool
  | _, [] => true
  | digitBefore, c :: rest =>
    if c = '_' then
      digitBefore && rest.head?.any Text.isAsciiDigit && underscoresApartAfter false rest
    else underscoresApartAfter (Text.isAsciiDigit c) rest

def underscoresApart (t : Text) : Bool := underscoresApartAfter false t

/-- Why a text is no integer. -/
inductive IntegerFault where
  | malformed
  | tooLong (digits : Nat)
  deriving DecidableEq

/-- The most digits that an integer may have. -/
def digitLimit : Nat := 4300

/-- An optional sign, digits with single underscores between them, and blanks around. Of two faults
a misplaced underscore comes first, then too many digits, then anything after the digits. -/
def integer (t : Text) : Except IntegerFault Int :=
  let (negative, body) := signed ((plain t).dropWhile Text.isAsciiBlank)
  let inRun := fun c => Text.isAsciiDigit c || c = '_'
  let run := body.takeWhile inRun
  let rest := body.dropWhile inRun
  let digits := run.filter Text.isAsciiDigit
  if !underscoresApart run then .error .malformed
  else if digitLimit < digits.length then .error (.tooLong digits.length)
  else if digits.isEmpty || !rest.all Text.isAsciiBlank then .error .malformed
  else
    let value : Int := digitsValue digits
    .ok (if negative then -value else value)

/-- The exponent after the digits of a floating point numeral, which has to end there. -/
def exponent? : Text → Option Int
  | [] => some 0
  | e :: rest =>
    let (negative, digits) := signed rest
    if (e = 'e' || e = 'E') && !digits.isEmpty && digits.all Text.isAsciiDigit then
      let value : Int := digitsValue digits
      some (if negative then -value else value)
    else none

/-- Digits with at most one point among them and an optional exponent. -/
def decimal? (negative : Bool) (t : Text) : Option Binary64 :=
  let whole := t.takeWhile Text.isAsciiDigit
  let afterWhole := t.dropWhile Text.isAsciiDigit
  let (fraction, tail) :=
    match afterWhole with
    | '.' :: rest => (rest.takeWhile Text.isAsciiDigit, rest.dropWhile Text.isAsciiDigit)
    | rest => ([], rest)
  if whole.isEmpty && fraction.isEmpty then none
  else
    (exponent? tail).map fun e =>
      Binary64.ofDecimal negative (digitsValue (whole ++ fraction)) (e - fraction.length)

def named? (negative : Bool) (t : Text) : Option Binary64 :=
  let word := t.map Char.toLower
  if word = "inf".toList || word = "infinity".toList then some (.infinite negative)
  else if word = "nan".toList then some .nan
  else none

/-- A sign and then a decimal or the name of a number, with blanks around. Digits are read however
many there are: that texts stay below the billion digits or so at which an interpreter gives up is an
assumption. -/
def float? (t : Text) : Option Binary64 :=
  let body := Text.trim Text.isAsciiBlank (plain t)
  if underscoresApart body then
    let (negative, unsigned) := signed (body.filter (· ≠ '_'))
    (named? negative unsigned).or (decimal? negative unsigned)
  else none

end Phrasebook.Numeral
