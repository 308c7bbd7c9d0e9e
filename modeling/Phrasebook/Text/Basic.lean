
/-!
# Texts

A text is the list of its code points. Every phrase, pattern, format and step text of this library
is one, so that rules about texts are rules about lists. This file holds joining, cutting at the
leftmost occurrence of a piece, and splitting; `Text/` holds the character classes and the two
written forms, quoted and JSON.

A list stands in a step text with a comma and a blank between its elements. Splitting undoes
joining as long as no element holds that separator.
-/

namespace Phrasebook

/-- A text is the list of its code points, which are Unicode scalar values. A lone surrogate is none,
and no encoding of a text holds one, so texts with lone surrogates are left out. -/
abbrev Text := List Char

namespace Text

def join (glue : Text) (parts : List Text) : Text := glue.intercalate parts

def cut? (piece : Text) : Text → Option (Text × Text)
  | [] => if piece.isEmpty then some ([], []) else none
  | c :: rest =>
    match piece.isPrefixOf? (c :: rest) with
    | some after => some ([], after)
    | none => (cut? piece rest).map fun found => (c :: found.1, found.2)

def mentions (piece t : Text) : Bool := (cut? piece t).isSome

def splitOn (mark : Char) : Text → List Text
  | [] => [[]]
  | c :: rest =>
    if c = mark then [] :: splitOn mark rest
    else
      match splitOn mark rest with
      | [] => [[c]]
      | part :: parts => (c :: part) :: parts

/-- Whether a text is equal to another or comes before it, in the order of code points. -/
def atMost : Text → Text → Bool
  | [], _ => true
  | _ :: _, [] => false
  | c :: t, d :: u => c < d || (c = d && atMost t u)

def isAsciiLetter (c : Char) : Bool :=
  ('a' ≤ c && c ≤ 'z') || ('A' ≤ c && c ≤ 'Z')

def isAsciiDigit (c : Char) : Bool := '0' ≤ c && c ≤ '9'

def isAsciiWord (c : Char) : Bool := c = '_' || isAsciiLetter c || isAsciiDigit c

def hexDigit? (c : Char) : Option Nat :=
  if isAsciiDigit c then some (c.toNat - '0'.toNat)
  else if 'a' ≤ c && c ≤ 'f' then some (c.toNat - 'a'.toNat + 10)
  else if 'A' ≤ c && c ≤ 'F' then some (c.toNat - 'A'.toNat + 10)
  else none

/-- The lower-case hexadecimal digits of `n`, at least `width` of them. -/
def hex (width n : Nat) : Text :=
  let digits := Nat.toDigits 16 n
  List.replicate (width - digits.length) '0' ++ digits

def decimal (n : Nat) : Text := Nat.toDigits 10 n

def integer (i : Int) : Text := if i < 0 then '-' :: decimal i.natAbs else decimal i.natAbs

/-- A position in a sequence: the number `i`, or counted from the end when it is negative. -/
def place? (length : Nat) (i : Int) : Option Nat :=
  if 0 ≤ i then
    if i < length then some i.toNat else none
  else if 0 ≤ i + length then some (i + length).toNat else none

end Text

end Phrasebook

namespace Phrasebook.ListText

def separator : Text := [',', ' ']

def join (elements : List Text) : Text := Text.join separator elements

/-- The stretches of a text between its separators, of which there is one at least. -/
def split : Text → List Text
  | [] => [[]]
  | ',' :: ' ' :: rest => [] :: split rest
  | c :: rest =>
    match split rest with
    | [] => [[c]]
    | piece :: pieces => (c :: piece) :: pieces

def elements (t : Text) : List Text := if t.isEmpty then [] else split t

@[simp] theorem elements_nil : elements [] = [] := rfl

theorem split_ne_nil (t : Text) : split t ≠ [] := by
  fun_induction split t <;> simp

theorem elements_ne_nil {t : Text} (h : t ≠ []) : elements t ≠ [] := by
  simp [elements, h, split_ne_nil]

end Phrasebook.ListText
