import Phrasebook.Proofs.Pattern.Raised
import Phrasebook.Proofs.Pattern.Reading

/-!
# Regular and portable patterns

A written pattern is regular if it holds nothing but characters, sets of characters, alternatives,
repetitions, and groups, silent or with a number. A portable one may also hold comments, groups that
switch flags or have a name, and what refers to groups by their names, but it keeps nothing that a
repetition took. But for the numbers of groups, what either is read as does not depend on where it
stands, as long as the names are new there, and what a portable one takes does not depend on that
either.
-/

namespace Phrasebook.Pattern

/-- Whether a backslash and a digit other than zero refer to a group. Three octal digits do not. -/
def refers (digit : Char) : Text → Bool
  | second :: third :: _ => !(isOctalDigit digit && isOctalDigit second && isOctalDigit third)
  | _ => true

/-- Whether a regular pattern may have what a text begins with. It may have neither conditions on
places nor references to groups, and of the groups that begin with a question mark only silent
ones. -/
def isRegularAt : Text → Bool
  | '^' :: _ | '$' :: _ => false
  | '\\' :: c :: rest =>
    (anchorEscape? c false).isNone && !(Text.isAsciiDigit c && c ≠ '0' && refers c rest)
  | '(' :: '?' :: c :: _ => c = ':'
  | _ => true

/-- In some state of reading, a text is the rest of a regular pattern that has `n` groups. -/
inductive RegularFrom : Reader → Text → Nat → Prop where
  | done {r : Reader} {p : Pattern} {n : Nat} (h : r.finish = .ok (p, n)) : RegularFrom r [] n
  | step {r next : Reader} {c : Char} {rest after : Text} {n : Nat}
      (hc : isRegularAt (c :: rest) = true) (h : readStep r c rest = .ok (next, after))
      (hl : after.length ≤ rest.length) (hn : RegularFrom next after n) : RegularFrom r (c :: rest) n

/-- A text writes a regular pattern that has `n` groups. -/
def Regular (t : Text) (n : Nat) : Prop := RegularFrom (.start .stepText) t n

/-- Whether a text begins with a comment, or with a group that switches flags for its body. -/
def switchesAt : Text → Bool
  | '(' :: '?' :: '#' :: _ => true
  | '(' :: '?' :: rest =>
    match readFlagsOn .off rest with
    | .ok (_, stop, _) => stop ≠ ')'
    | .error _ => false
  | _ => false

/-- Whether a text begins with a reference to a group by its name, or with a condition on one. -/
def mentionsAt : Text → Bool
  | '(' :: '?' :: 'P' :: '=' :: _ => true
  | '(' :: '?' :: '(' :: rest =>
    match nameUntil ')' "group name".toList rest with
    | .ok (name, _) => Text.isIdentifier name
    | .error _ => false
  | _ => false

def isPortableAt (t : Text) : Bool := isRegularAt t || switchesAt t || mentionsAt t

/-- In some state of reading, a text is the rest of a pattern that is written portably, and gives
groups the names that are listed. -/
inductive PortableFrom : Reader → Text → Pattern → Nat → List Text → Prop where
  | done {r : Reader} {p : Pattern} {n : Nat} (h : r.finish = .ok (p, n)) : PortableFrom r [] p n []
  | step {r next : Reader} {c : Char} {rest after : Text} {p : Pattern} {n : Nat}
      {given : List Text} (hc : isPortableAt (c :: rest) = true)
      (h : readStep r c rest = .ok (next, after)) (hl : after.length ≤ rest.length)
      (hn : PortableFrom next after p n given) : PortableFrom r (c :: rest) p n given
  | named {r next : Reader} {name rest after : Text} {p : Pattern} {n : Nat} {given : List Text}
      (hname : nameUntil '>' "group name".toList rest = .ok (name, after))
      (h : readStep r '(' ('?' :: 'P' :: '<' :: rest) = .ok (next, after))
      (hl : after.length ≤ rest.length) (hn : PortableFrom next after p n given) :
      PortableFrom r ('(' :: '?' :: 'P' :: '<' :: rest) p n (name :: given)

/-- A text writes a portable pattern that has `n` groups and gives some of them names. -/
structure Portable (t : Text) (p : Pattern) (n : Nat) (given : List Text) : Prop where
  reads : PortableFrom (.start .stepText) t p n given
  /-- Nothing that a repetition took is kept. -/
  stays : p.Local

theorem PortableFrom.readFrom_eq {r : Reader} {t : Text} {p : Pattern} {n : Nat}
    {given : List Text} (h : PortableFrom r t p n given) : readFrom r t = .ok (p, n) := by
  induction h with
  | done h => rw [readFrom, h]
  | step _ h hl _ ih =>
    rw [readFrom_cons h hl]
    exact ih
  | named _ h hl _ ih =>
    rw [readFrom_cons h (by simp only [List.length_cons]; omega)]
    exact ih

/-- A portable text writes the pattern. -/
theorem Portable.read_eq {t : Text} {p : Pattern} {n : Nat} {given : List Text}
    (h : Portable t p n given) : Pattern.read .stepText t = .ok (p, n) := h.reads.readFrom_eq

/-- What is regular is written portably, and names no groups. -/
theorem RegularFrom.exists_portableFrom {r : Reader} {t : Text} {n : Nat} (h : RegularFrom r t n) :
    ∃ p, PortableFrom r t p n [] := by
  induction h with
  | @done r p n h => exact ⟨p, .done h⟩
  | step hc h hl _ ih =>
    obtain ⟨p, hp⟩ := ih
    exact ⟨p, .step (by rw [isPortableAt, hc, Bool.true_or, Bool.true_or]) h hl hp⟩

end Phrasebook.Pattern
