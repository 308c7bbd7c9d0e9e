import Phrasebook.Text.Classes
import Phrasebook.Text.LetterCase

/-!
# Sets of characters in patterns

The parts of a pattern that take one character each take any character of a set: single characters,
ranges and named classes, or everything outside them. A set may ignore case, and may keep its named
classes within ASCII.
-/

namespace Phrasebook

inductive CharClass where
  | digit
  | blank
  | word
  deriving DecidableEq

def CharClass.has (ascii : Bool) : CharClass → Char → Bool
  | digit, c => if ascii then Text.isAsciiDigit c else Text.isDigit c
  | blank, c => if ascii then Text.isAsciiBlank c else Text.isBlank c
  | word, c => if ascii then Text.isAsciiWord c else Text.isWord c

/-- A member of a set. Characters are given by code points, which need not be characters of a
text. -/
inductive CharRange where
  | single (code : Nat)
  | between (first last : Nat)
  | named (cls : CharClass) (outside : Bool)
  deriving DecidableEq

/-- A set of characters. -/
structure CharSet where
  ranges : List CharRange
  negated : Bool
  ignoreCase : Bool
  ascii : Bool
  deriving DecidableEq

namespace CharSet

def all : CharSet := ⟨[], true, false, false⟩

def withinLine : CharSet := ⟨[.single '\n'.toNat], true, false, false⟩

def only (c : Char) : CharSet := ⟨[.single c.toNat], false, false, false⟩

def covers (ascii : Bool) (c : Char) : CharRange → Bool
  | .single code => c.toNat == code
  | .between first last => first ≤ c.toNat && c.toNat ≤ last
  | .named cls outside => cls.has ascii c != outside

def agreeing (ascii : Bool) (c : Char) : List Nat :=
  if ascii then
    let low := Text.asciiLowerCode c.toNat
    if 'a'.toNat ≤ low && low ≤ 'z'.toNat then [low, low - 32] else [low]
  else (Text.caseFamily c.toNat).flatMap Text.codesLoweredTo

/-- Whether a range covers a character when case is ignored. Named classes look at the lower-case
form. -/
def coversFolded (ascii : Bool) (c : Char) : CharRange → Bool
  | .single code => (agreeing ascii c).contains code
  | .between first last => (agreeing ascii c).any fun code => first ≤ code && code ≤ last
  | .named cls outside =>
    let low := if ascii then Text.asciiLowerCode c.toNat else Text.lowerCode c.toNat
    cls.has ascii (Char.ofNat low) != outside

def has (set : CharSet) (c : Char) : Bool :=
  set.ranges.any (if set.ignoreCase then coversFolded set.ascii c else covers set.ascii c)
    != set.negated

@[simp] theorem has_all (c : Char) : all.has c = true := by simp [has, all]

@[simp] theorem has_only (c d : Char) : (only c).has d = (d.toNat == c.toNat) := by
  simp [has, only, covers]

end CharSet

end Phrasebook
