import Mathlib.Data.List.TakeWhile
import Phrasebook.Text.Json

/-!
# JSON texts

Which texts are JSON, and what they say. A text falls into tokens with blanks between them: marks,
strings, and words, which are the numbers and the three names. The tokens make up one document.
Strings may write their characters in any of the ways that JSON has, pairs of surrogates among them;
a surrogate that stands alone is no character.
-/

namespace Phrasebook.Json

def isDigits (t : Text) : Bool := !t.isEmpty && t.all Text.isAsciiDigit

/-- Digits of which the first is no zero, unless it is the only one. -/
def isWhole (t : Text) : Bool := isDigits t && (t.head? != some '0' || t.length == 1)

def isSigned : Text → Bool
  | '+' :: rest | '-' :: rest => isDigits rest
  | t => isDigits t

def isPower : Text → Bool
  | [] => true
  | c :: rest => (c == 'e' || c == 'E') && isSigned rest

def isFraction : Text → Bool
  | '.' :: rest =>
    isDigits (rest.takeWhile Text.isAsciiDigit) && isPower (rest.dropWhile Text.isAsciiDigit)
  | t => isPower t

def isUnsigned (t : Text) : Bool :=
  isWhole (t.takeWhile Text.isAsciiDigit) && isFraction (t.dropWhile Text.isAsciiDigit)

def isNumber : Text → Bool
  | '-' :: rest => isUnsigned rest
  | t => isUnsigned t

def escapes : List (Char × Char) :=
  [('"', '"'), ('\\', '\\'), ('/', '/'), ('b', '\x08'), ('f', '\x0c'), ('n', '\n'), ('r', '\r'),
   ('t', '\t')]

def readUnit? : Text → Option (Nat × Text)
  | a :: b :: c :: d :: rest => do
    let a ← Text.hexDigit? a
    let b ← Text.hexDigit? b
    let c ← Text.hexDigit? c
    let d ← Text.hexDigit? d
    return (((a * 16 + b) * 16 + c) * 16 + d, rest)
  | _ => none

/-- The second half of a pair of surrogates, which has a backslash and a `u` of its own, and what
follows it. -/
def readLow? : Text → Option (Nat × Text)
  | '\\' :: 'u' :: rest => (readUnit? rest).filter fun found => 0xdc00 ≤ found.1 ∧ found.1 < 0xe000
  | _ => none

def ofPair (high low : Nat) : Char :=
  Char.ofNat (0x10000 + (high - 0xd800) * 0x400 + (low - 0xdc00))

/-- The character whose code follows a backslash and a `u`, and what follows the code. -/
def readCode? (t : Text) : Option (Char × Text) :=
  (readUnit? t).bind fun found =>
    if found.1 < 0xd800 ∨ 0xe000 ≤ found.1 then some (Char.ofNat found.1, found.2)
    else if found.1 < 0xdc00 then
      (readLow? found.2).map fun low => (ofPair found.1 low.1, low.2)
    else none

/-- The first character of a string, and what follows it. Quotes, backslashes and control characters
are not written as they are. -/
def readChar? : Text → Option (Char × Text)
  | '\\' :: 'u' :: rest => readCode? rest
  | '\\' :: c :: rest => (escapes.lookup c).map (·, rest)
  | c :: rest => if c = '"' ∨ c = '\\' ∨ c.toNat < 0x20 then none else some (c, rest)
  | [] => none

theorem length_of_readUnit? {t rest : Text} {n : Nat} (h : readUnit? t = some (n, rest)) :
    rest.length < t.length := by
  unfold readUnit? at h
  split at h
  · simp only [bind, Option.bind_eq_some_iff, pure, Option.some.injEq, Prod.mk.injEq] at h
    obtain ⟨_, -, _, -, _, -, _, -, -, rfl⟩ := h
    simp only [List.length_cons]
    omega
  · cases h

theorem length_of_readLow? {t rest : Text} {n : Nat} (h : readLow? t = some (n, rest)) :
    rest.length < t.length := by
  unfold readLow? at h
  split at h
  · have hunit := length_of_readUnit? (Option.filter_eq_some_iff.mp h).1
    simp only [List.length_cons]
    omega
  · cases h

theorem length_of_readCode? {t rest : Text} {c : Char} (h : readCode? t = some (c, rest)) :
    rest.length < t.length := by
  obtain ⟨⟨unit, after⟩, hunit, hc⟩ := Option.bind_eq_some_iff.mp h
  have hafter := length_of_readUnit? hunit
  dsimp only at hc
  split at hc
  · obtain ⟨-, rfl⟩ := Prod.mk.inj (Option.some.inj hc)
    exact hafter
  · split at hc
    · obtain ⟨⟨low, last⟩, hlow, he⟩ := Option.map_eq_some_iff.mp hc
      obtain ⟨-, rfl⟩ := Prod.mk.inj he
      exact Nat.lt_trans (length_of_readLow? hlow) hafter
    · cases hc

theorem length_of_readChar? {t rest : Text} {c : Char} (h : readChar? t = some (c, rest)) :
    rest.length < t.length := by
  unfold readChar? at h
  split at h
  · have hcode := length_of_readCode? h
    simp only [List.length_cons]
    omega
  · obtain ⟨_, -, he⟩ := Option.map_eq_some_iff.mp h
    obtain ⟨-, rfl⟩ := Prod.mk.inj he
    simp only [List.length_cons]
    omega
  · split at h
    · cases h
    · cases h
      exact Nat.lt_succ_self _
  · cases h

def readString? : Text → Option (Text × Text)
  | [] => none
  | c :: rest =>
    if c = '"' then some ([], rest)
    else
      match _h : readChar? (c :: rest) with
      | none => none
      | some (c, after) => (readString? after).map fun found => (c :: found.1, found.2)
termination_by t => t.length
decreasing_by exact length_of_readChar? _h

theorem length_of_readString? {t s rest : Text} (h : readString? t = some (s, rest)) :
    rest.length < t.length := by
  fun_induction readString? t generalizing s with
  | case1 => cases h
  | case2 =>
    cases h
    exact Nat.lt_succ_self _
  | case3 => cases h
  | case4 _ _ _ c after hc ih =>
    obtain ⟨⟨s, last⟩, hs, he⟩ := Option.map_eq_some_iff.mp h
    obtain ⟨-, rfl⟩ := Prod.mk.inj he
    exact Nat.lt_trans (ih hs) (length_of_readChar? hc)

/-- A part of a document: a mark, or a document that has no parts. -/
inductive Token where
  | openArray
  | closeArray
  | openObject
  | closeObject
  | comma
  | colon
  | plain (value : Json)

def Token.ofMark? : Char → Option Token
  | '[' => some openArray
  | ']' => some closeArray
  | '{' => some openObject
  | '}' => some closeObject
  | ',' => some comma
  | ':' => some colon
  | _ => none

def isBlank (c : Char) : Bool := c = ' ' || c = '\t' || c = '\n' || c = '\r'

def isWordChar (c : Char) : Bool :=
  Text.isAsciiLetter c || Text.isAsciiDigit c || c = '-' || c = '+' || c = '.'

def ofWord? (w : Text) : Option Json :=
  if w = "null".toList then some null
  else if w = "true".toList then some (bool true)
  else if w = "false".toList then some (bool false)
  else if isNumber w then some (number w)
  else none

def readToken? : Text → Option (Token × Text)
  | [] => none
  | c :: rest =>
    if c = '"' then
      (readString? rest).map fun found => (.plain (string found.1), found.2)
    else
      match Token.ofMark? c with
      | some token => some (token, rest)
      | none =>
        (ofWord? (c :: rest.takeWhile isWordChar)).map fun value =>
          (.plain value, rest.dropWhile isWordChar)

theorem length_of_readToken? {t rest : Text} {token : Token}
    (h : readToken? t = some (token, rest)) : rest.length < t.length := by
  unfold readToken? at h
  split at h
  · cases h
  · split at h
    · obtain ⟨⟨s, after⟩, hs, he⟩ := Option.map_eq_some_iff.mp h
      obtain ⟨-, rfl⟩ := Prod.mk.inj he
      exact Nat.lt_succ_of_lt (length_of_readString? hs)
    · split at h
      · cases h
        exact Nat.lt_succ_self _
      · obtain ⟨value, -, he⟩ := Option.map_eq_some_iff.mp h
        obtain ⟨-, rfl⟩ := Prod.mk.inj he
        exact Nat.lt_succ_of_le (List.dropWhile_sublist _).length_le

def tokens? : Text → Option (List Token)
  | [] => some []
  | c :: rest =>
    if isBlank c then tokens? rest
    else
      match _h : readToken? (c :: rest) with
      | none => none
      | some (token, after) => (tokens? after).map (token :: ·)
termination_by t => t.length
decreasing_by
  · exact Nat.lt_succ_self _
  · exact length_of_readToken? _h

/-- What is open around a place: an array, with the elements before the place, or an object, with
the members before it and the name of the member at it. -/
inductive Frame where
  | item (before : List Json)
  | member (before : List (Text × Json)) (name : Text)

mutual

/-- The document that tokens make up where a value has to follow. An array that has just been opened
may be closed instead. -/
def value? : List Token → List Frame → Option Json
  | .plain value :: rest, frames => next? rest value frames
  | .openArray :: rest, frames => value? rest (.item [] :: frames)
  | .closeArray :: rest, .item [] :: frames => next? rest (array []) frames
  | .openObject :: rest, frames => name? rest [] frames
  | _, _ => none
termination_by structural tokens => tokens

/-- The document that tokens make up where the name of a member has to follow. An object without
members before it may be closed instead. -/
def name? : List Token → List (Text × Json) → List Frame → Option Json
  | .plain (string name) :: .colon :: rest, before, frames =>
    value? rest (.member before name :: frames)
  | .closeObject :: rest, [], frames => next? rest (object []) frames
  | _, _, _ => none
termination_by structural tokens => tokens

def next? : List Token → Json → List Frame → Option Json
  | [], value, [] => some value
  | .comma :: rest, value, .item before :: frames =>
    value? rest (.item (before ++ [value]) :: frames)
  | .closeArray :: rest, value, .item before :: frames =>
    next? rest (array (before ++ [value])) frames
  | .comma :: rest, value, .member before name :: frames =>
    name? rest (before ++ [(name, value)]) frames
  | .closeObject :: rest, value, .member before name :: frames =>
    next? rest (object (before ++ [(name, value)])) frames
  | _, _, _ => none
termination_by structural tokens => tokens

end

def read? (t : Text) : Option Json := (tokens? t).bind (value? · [])

end Phrasebook.Json
