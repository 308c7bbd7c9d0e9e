import Phrasebook.Pattern.CharSet

/-!
# Patterns

A pattern says which texts a placeholder takes. Trying one goes through its possibilities in order
of preference: of alternatives the left one first, of repetitions the longest or, for lazy ones, the
shortest first. `Pattern.run` hands each place that the pattern can reach to what has to follow, and
the first success decides.
-/

namespace Phrasebook

/-- A condition on a place in the text that takes no characters. -/
inductive Anchor where
  /-- The beginning of the text, or of a line. -/
  | start (ofLine : Bool)
  /-- The end of the text. -/
  | finish
  /-- The end of the text or before the line end that is its last character; or the end of a
  line. -/
  | lineFinish (ofLine : Bool)
  /-- Between a word character and anything else, or not so. -/
  | wordEdge (ascii inside : Bool)
  deriving DecidableEq

/-- How many times a repetition is tried first. -/
inductive Preference where
  | most
  | fewest
  deriving DecidableEq

inductive Pattern where
  | empty
  | one (set : CharSet)
  | anchor (place : Anchor)
  | seq (first second : Pattern)
  | alt (left right : Pattern)
  /-- At least `least` and at most `most?` times. -/
  | loop (least : Nat) (most? : Option Nat) (preference : Preference) (body : Pattern)
  /-- Remembers what the body took, under a number. -/
  | group (number : Nat) (body : Pattern)
  /-- Takes again what a group took. -/
  | again (number : Nat) (ignoreCase : Bool)
  /-- The body matches from here; or, for `some back`, from `back` characters before. -/
  | look (back? : Option Nat) (negated : Bool) (body : Pattern)
  /-- Only the first possibility of the body. -/
  | atomic (body : Pattern)
  /-- One of two patterns, by whether a group took part. -/
  | given (number : Nat) (present absent : Pattern)
  deriving DecidableEq

/-- What a group took, and where that begins. -/
structure Capture where
  start : Nat
  text : Text
  deriving DecidableEq

/-- A place in a text, with what the groups have taken on the way to it. -/
structure Spot where
  /-- The characters before the place, the nearest first. -/
  before : Text
  /-- The characters after the place. -/
  after : Text
  /-- The latest capture of a group comes first. -/
  captures : List (Nat × Capture)
  deriving DecidableEq

namespace Spot

def ofText (t : Text) : Spot := ⟨[], t, []⟩

def capture? (s : Spot) (number : Nat) : Option Capture := s.captures.lookup number

def advance? (s : Spot) (set : CharSet) : Option Spot :=
  match s.after with
  | c :: rest => if set.has c then some { s with before := c :: s.before, after := rest } else none
  | [] => none

def skip (s : Spot) (n : Nat) : Spot :=
  { s with before := (s.after.take n).reverse ++ s.before, after := s.after.drop n }

def back? (s : Spot) (n : Nat) : Option Spot :=
  if n ≤ s.before.length then
    some { s with before := s.before.drop n, after := (s.before.take n).reverse ++ s.after }
  else none

def remember (s : Spot) (number : Nat) (since : Spot) : Spot :=
  let taken := s.before.length - since.before.length
  { s with captures := (number, ⟨since.before.length, (s.before.take taken).reverse⟩)
                        :: s.captures }

/-- Whether a word character stands next to the place on either side: before it, and after it. -/
def wordsBeside (s : Spot) (ascii : Bool) : Bool × Bool :=
  (s.before.head?.any (CharClass.word.has ascii), s.after.head?.any (CharClass.word.has ascii))

/-- Whether a condition holds of the place. Neither condition on words holds in an empty text. -/
def satisfies (s : Spot) : Anchor → Bool
  | .start ofLine => s.before.isEmpty || (ofLine && s.before.head? == some '\n')
  | .finish => s.after.isEmpty
  | .lineFinish ofLine =>
    s.after.isEmpty || s.after == ['\n'] || (ofLine && s.after.head? == some '\n')
  | .wordEdge ascii inside =>
    let (left, right) := s.wordsBeside ascii
    !(s.before.isEmpty && s.after.isEmpty) && ((left == right) == inside)

def repeated? (s : Spot) (ignoreCase : Bool) (t : Text) : Option Spot :=
  let agree := fun (a b : Char) =>
    if ignoreCase then Text.lowerCode a.toNat == Text.lowerCode b.toNat else a == b
  let next := s.after.take t.length
  if next.length == t.length && (List.zipWith agree next t).all id then some (s.skip t.length)
  else none

end Spot

namespace Pattern

/-- What has to follow: the answer for a place that the pattern reached. -/
abbrev Follow := Spot → Option Spot

/-- A way of trying a pattern at a place, given what has to follow. -/
abbrev Trial := Spot → Follow → Option Spot

def times (trial : Trial) : Nat → Trial
  | 0, s, k => k s
  | n + 1, s, k => trial s fun t => times trial n t k

/-- The trial repeated at most `n` times, as often as possible. A repetition that takes nothing is
the last one. -/
def atMost (trial : Trial) : Nat → Trial
  | 0, s, k => k s
  | n + 1, s, k =>
    (trial s fun t => if t.after.length < s.after.length then atMost trial n t k else k t) <|> k s

/-- The trial repeated at most `n` times, as rarely as possible. A repetition that takes nothing is
the last one. -/
def asFew (trial : Trial) : Nat → Trial
  | 0, s, k => k s
  | n + 1, s, k =>
    k s <|> trial s fun t => if t.after.length < s.after.length then asFew trial n t k else k t

/-- How many repetitions can follow the required ones. As each but the last takes a character, a
repetition without a bound has one more than there are characters left. -/
def spare (least : Nat) (most? : Option Nat) (s : Spot) : Nat :=
  match most? with
  | some most => most - least
  | none => s.after.length + 1

/-- Tries a pattern at a place: the answer of what has to follow at the first place, in order of
preference, where there is one. -/
def run : Pattern → Trial
  | empty, s, k => k s
  | one set, s, k => (s.advance? set).bind k
  | anchor place, s, k => if s.satisfies place then k s else none
  | seq first second, s, k => first.run s fun t => second.run t k
  | alt left right, s, k => left.run s k <|> right.run s k
  | loop least most? .most body, s, k =>
    times body.run least s fun t => atMost body.run (spare least most? t) t k
  | loop least most? .fewest body, s, k =>
    times body.run least s fun t => asFew body.run (spare least most? t) t k
  | group number body, s, k => body.run s fun t => k (t.remember number s)
  | again number ignoreCase, s, k =>
    (s.capture? number).bind fun taken => (s.repeated? ignoreCase taken.text).bind k
  | look back? negated body, s, k =>
    let found := (match back? with | some n => s.back? n | none => some s).bind (body.run · some)
    match found, negated with
    | some t, false => k { s with captures := t.captures }
    | none, true => k s
    | _, _ => none
  | atomic body, s, k => (body.run s some).bind k
  | given number present absent, s, k =>
    if (s.capture? number).isSome then present.run s k else absent.run s k

/-- The first way in which the pattern takes characters from the beginning of a text. -/
def match? (p : Pattern) (t : Text) : Option Spot := p.run (Spot.ofText t) some

def takes (p : Pattern) (t : Text) : Bool :=
  (p.run (Spot.ofText t) fun s => if s.after.isEmpty then some s else none).isSome

end Pattern

end Phrasebook
