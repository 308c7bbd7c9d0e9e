import Phrasebook.Phrase

/-!
# Formats

A format is a written template. Fields stand in braces, with a name, a type after a colon, or both;
a doubled brace is a brace of the text. `Format.ofExpression` turns the placeholders of an
expression into fields of their types, and `Format.parts` takes a format apart.

The type of a placeholder needs a name of ASCII letters, digits and underscores. Plain names serve
as they are; built-in placeholders and all other names get one under a reserved prefix, the latter
spelled out byte by byte.
-/

namespace Phrasebook

namespace TypeName

def reserved : Text := "typed_steps_".toList

def ofBuiltIn (b : BuiltIn) : Text := reserved ++ b.name

/-- A letter followed by letters, digits and underscores. -/
def isPlain : Text → Bool
  | [] => false
  | c :: rest => Text.isAsciiLetter c && rest.all Text.isAsciiWord

def spelledOut (t : Text) : Text :=
  t.flatMap fun c => (String.utf8EncodeChar c).flatMap fun byte => Text.hex 2 byte.toNat

/-- The type name of a placeholder. Every name has one, since every text can be encoded. -/
def ofName (name : Text) : Text :=
  if isBuiltIn name then reserved ++ name
  else if isPlain name && !reserved.isPrefixOf name then name
  else reserved ++ 'x' :: spelledOut name

end TypeName

/-- A part of a format. -/
inductive FormatPart where
  | plain (c : Char)
  /-- A brace that was doubled. -/
  | brace (opening : Bool)
  /-- The parts of a field before and after its colon. -/
  | field (name type : Text)
  deriving DecidableEq

namespace Format

def escaped (c : Char) : Text := if c = '{' || c = '}' then [c, c] else [c]

def typedField (type : Text) : Text := '{' :: ':' :: type ++ ['}']

/-- What a format writes for a piece of an expression, if the type of a placeholder is known. -/
def ofPiece (known : Text → Bool) (expression : Text) : Phrase.Piece → Except Failure Text
  | .plain c => .ok (escaped c)
  | .hole name =>
    let type := TypeName.ofName name
    if known type then .ok (typedField type) else .error (.typeUndefined name expression)

def ofPieces (known : Text → Bool) (expression : Text) :
    List Phrase.Piece → Except Failure Text
  | [] => .ok []
  | p :: ps =>
    match ofPiece known expression p with
    | .error failure => .error failure
    | .ok written => (ofPieces known expression ps).map (written ++ ·)

/-- The format of an expression, every placeholder of which needs a known type. -/
def ofExpression (known : Text → Bool) (expression : Text) : Except Failure Text :=
  ofPieces known expression (Phrase.pieces expression)

def fieldOf (inside : Text) : FormatPart :=
  match inside.dropWhile (· ≠ ':') with
  | _ :: type => .field (inside.takeWhile (· ≠ ':')) type
  | [] => .field inside []

def partsFrom : Option Text → Text → List FormatPart
  | none, [] => []
  | none, '{' :: '{' :: rest => .brace true :: partsFrom none rest
  | none, '}' :: '}' :: rest => .brace false :: partsFrom none rest
  | none, '{' :: rest => partsFrom (some []) rest
  | none, c :: rest => .plain c :: partsFrom none rest
  | some inside, [] => ('{' :: inside.reverse).map .plain
  | some inside, c :: rest =>
    if c = '}' then fieldOf inside.reverse :: partsFrom none rest
    else partsFrom (some (c :: inside)) rest

/-- The parts of a format, as version 1.22.4 of the package `parse` takes it apart. -/
def parts (format : Text) : List FormatPart := partsFrom none format

end Format

end Phrasebook
