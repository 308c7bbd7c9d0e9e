import Phrasebook.Failure

/-!
# Phrases

A phrase is a step text in which names in braces stand for what varies. A name may hold anything
but braces, the caret and the point, so placeholders never overlap: in `{a{b}}` only `{b}` is one.
`Phrase.pieces` takes a phrase apart; the pieces written one after another are the phrase again.
-/

namespace Phrasebook

/-- The placeholders that need no definition. -/
inductive BuiltIn where
  | int
  | float
  | string
  | word
  deriving DecidableEq

namespace BuiltIn

/-- All of them, in the order in which hosts list them. -/
def all : List BuiltIn := [int, float, string, word]

def name : BuiltIn → Text
  | int => "int".toList
  | float => "float".toList
  | string => "string".toList
  | word => "word".toList

def ofName? (name : Text) : Option BuiltIn := all.find? (·.name = name)

end BuiltIn

def isBuiltIn (name : Text) : Bool := (BuiltIn.ofName? name).isSome

namespace Phrase

def isNameChar (c : Char) : Bool := c ≠ '{' && c ≠ '}' && c ≠ '^' && c ≠ '.'

/-- A part of a phrase. -/
inductive Piece where
  | plain (c : Char)
  | hole (name : Text)
  deriving DecidableEq

/-- A name in braces. -/
def braced (name : Text) : Text := '{' :: name ++ ['}']

def Piece.written : Piece → Text
  | plain c => [c]
  | hole name => braced name

/-- The name that the pieces begin with, if a closing brace ends it, and the pieces after that. -/
def closing? : List Piece → Option (Text × List Piece)
  | .plain c :: rest =>
    if c = '}' then some ([], rest)
    else if isNameChar c then (closing? rest).map fun found => (c :: found.1, found.2)
    else none
  | _ => none

/-- A character in front of pieces. An opening brace makes a placeholder of a name that follows. -/
def attach (c : Char) (rest : List Piece) : List Piece :=
  if c = '{' then
    match closing? rest with
    | some (name, after) => .hole name :: after
    | none => .plain c :: rest
  else .plain c :: rest

def pieces (phrase : Text) : List Piece := phrase.foldr attach []

def ofPieces (ps : List Piece) : Text := ps.flatMap Piece.written

@[simp] theorem pieces_nil : pieces [] = [] := rfl

@[simp] theorem pieces_cons (c : Char) (rest : Text) :
    pieces (c :: rest) = attach c (pieces rest) := rfl

@[simp] theorem ofPieces_nil : ofPieces [] = [] := rfl

@[simp] theorem ofPieces_cons (p : Piece) (ps : List Piece) :
    ofPieces (p :: ps) = p.written ++ ofPieces ps := by simp [ofPieces]

theorem ofPieces_of_closing? {ps : List Piece} {name : Text} {rest : List Piece}
    (h : closing? ps = some (name, rest)) : ofPieces ps = name ++ '}' :: ofPieces rest := by
  induction ps generalizing name with
  | nil => simp [closing?] at h
  | cons p ps ih =>
    cases p with
    | hole n => simp [closing?] at h
    | plain c =>
      simp only [closing?] at h
      split at h
      · next hc =>
        obtain ⟨rfl, rfl⟩ := Prod.mk.injEq .. ▸ Option.some.injEq .. ▸ h
        simp [Piece.written, hc]
      · split at h
        · obtain ⟨⟨n, r⟩, hn, heq⟩ := Option.map_eq_some_iff.1 h
          obtain ⟨rfl, rfl⟩ := Prod.mk.injEq .. ▸ heq
          simp [Piece.written, ih hn]
        · simp at h

theorem ofPieces_attach (c : Char) (ps : List Piece) :
    ofPieces (attach c ps) = c :: ofPieces ps := by
  unfold attach
  split
  · next hc =>
    split
    · next name after h => simp [Piece.written, braced, ofPieces_of_closing? h, hc]
    · simp [Piece.written]
  · simp [Piece.written]

/-- The pieces of a phrase write the phrase. -/
@[simp] theorem ofPieces_pieces (phrase : Text) : ofPieces (pieces phrase) = phrase := by
  induction phrase with
  | nil => rfl
  | cons c rest ih => rw [pieces_cons, ofPieces_attach, ih]

def Piece.name? : Piece → Option Text
  | plain _ => none
  | hole name => some name

def names (phrase : Text) : List Text := (pieces phrase).filterMap Piece.name?

def findBraced (phrase : Text) : List (Text × Text) :=
  (names phrase).map fun name => (braced name, name)

def definedNames (phrase : Text) : List Text := (names phrase).filter (!isBuiltIn ·)

/-- The names that need a definition, each where it occurs first. -/
def requiredNames (phrase : Text) : List Text := Choices.distinct (definedNames phrase)

end Phrase

structure Placeholder where
  /-- As it stands in the phrase. -/
  braced : Text
  name : Text
  /-- The name that no other occurrence has. -/
  uniqueName : Text
  deriving DecidableEq

namespace Phrase

def uniqueName (separator token name : Text) (index : Nat) : Text :=
  name ++ separator ++ token ++ '_' :: Text.decimal index

/-- The occurrences that need a definition, numbered from left to right. -/
def placeholders (separator token phrase : Text) : List Placeholder :=
  (definedNames phrase).mapIdx fun index name =>
    ⟨braced name, name, uniqueName separator token name index⟩

/-- The phrase after a place, with each placeholder renamed where it stands next. -/
def renameFrom (phrase : Text) : Text → List Placeholder → Except Failure Text
  | rest, [] => .ok rest
  | rest, p :: ps =>
    match Text.cut? p.braced rest with
    | none => .error (.placeholderNotFound p.braced phrase)
    | some (before, after) =>
      (renameFrom phrase after ps).map fun renamed => before ++ braced p.uniqueName ++ renamed

/-- The phrase with each placeholder, in order, replaced by its unique name in braces. -/
def rename (phrase : Text) (ps : List Placeholder) : Except Failure Text :=
  renameFrom phrase phrase ps

end Phrase

end Phrasebook
