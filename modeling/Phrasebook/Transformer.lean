import Phrasebook.Conversion

/-!
# Named transformers

A raw definition brings its own conversion. Definitions are compared by the names of theirs; this
file has a stock of named ones.
-/

namespace Phrasebook

/-- A conversion with a name. -/
structure Transformer where
  name : Text
  apply : Convert

namespace Transformer

def ofText (f : Text → Except Failure Value) : Convert
  | .text t => f t
  | _ => .error .textNeeded

def integersBetween (mark : Char) (t : Text) : Except Failure Value :=
  ((Text.splitOn mark t).mapM BuiltIn.integerOfText).map fun values => .tuple (values.map .int)

def evenInteger (t : Text) : Except Failure Value :=
  (BuiltIn.integerOfText t).bind fun value =>
    if value % 2 = 0 then .ok (.int value) else .error (.oddNumber value)

/-- The stock of conversions. -/
def stock : List (String × Convert) :=
  [("identity", .ok),
   ("int", ofText fun t => (BuiltIn.integerOfText t).map .int),
   ("even", ofText evenInteger),
   ("fail", fun value => .error (.rejected value)),
   ("fail_key", fun value => .error (.keyMissing value)),
   ("length", ofText fun t => .ok (.int t.length)),
   ("reverse", ofText fun t => .ok (.text t.reverse)),
   ("none", fun _ => .ok .none),
   ("chars", ofText fun t => .ok (.tuple (t.map fun c => .text [c]))),
   ("ints_dash", ofText (integersBetween '-')),
   ("ints_colon", ofText (integersBetween ':')),
   ("bracket", ofText fun t => .ok (.text ('[' :: t ++ [']'])))]

/-- The transformer of a name; one that is not in stock leaves every value as it is. -/
def named (name : Text) : Transformer :=
  ⟨name, ((stock.find? fun entry => entry.1.toList = name).map (·.2)).getD .ok⟩

end Transformer

end Phrasebook
