import Phrasebook.Number.Shortest
import Phrasebook.Text.Json
import Phrasebook.Text.Quoted

/-!
# Values

A value is what a placeholder's text is converted to, and what a step hands on. This file shows
values in messages, writes them as JSON, and compares them: numbers compare by value whatever their
kind, sequences only with sequences of their own kind, dictionaries without regard to order.
-/

namespace Phrasebook

/-- A converted value. -/
inductive Value where
  | none
  | bool (value : Bool)
  | int (value : Int)
  | float (value : Binary64)
  | text (value : Text)
  | list (items : List Value)
  | tuple (items : List Value)
  | dict (entries : List (Text × Value))
  /-- A failure held back: its kind, how it is shown, and what went wrong in words. -/
  | deferred (label shown message : Text)

namespace Value

def kindName : Value → Text
  | none => "NoneType".toList
  | bool _ => "bool".toList
  | int _ => "int".toList
  | float _ => "float".toList
  | text _ => "str".toList
  | list _ => "list".toList
  | tuple _ => "tuple".toList
  | dict _ => "dict".toList
  | deferred _ _ _ => "DeferredTransformError".toList

mutual

def shown : Value → Text
  | none => "None".toList
  | bool true => "True".toList
  | bool false => "False".toList
  | int value => Text.integer value
  | float value => value.shown
  | text value => Text.quoted value
  | list items => '[' :: shownItems items ++ [']']
  | tuple [] => "()".toList
  | tuple [item] => '(' :: shown item ++ ",)".toList
  | tuple (item :: next :: rest) => '(' :: shownItems (item :: next :: rest) ++ [')']
  | dict entries => '\x7b' :: shownEntries entries ++ ['\x7d']
  | deferred _ shown _ => "DeferredTransformError(error=".toList ++ shown ++ [')']

def shownItems : List Value → Text
  | [] => []
  | [item] => shown item
  | item :: next :: rest => shown item ++ ", ".toList ++ shownItems (next :: rest)

def shownEntries : List (Text × Value) → Text
  | [] => []
  | [(key, value)] => Text.quoted key ++ ": ".toList ++ shown value
  | (key, value) :: next :: rest =>
    Text.quoted key ++ ": ".toList ++ shown value ++ ", ".toList ++ shownEntries (next :: rest)

end

/-- The value as part of a message: a text is itself, anything else as shown. -/
def plain : Value → Text
  | text value => value
  | value => value.shown

mutual

def toJson : Value → Json
  | none => .null
  | bool value => .bool value
  | int value => .number (Text.integer value)
  | float value => .number value.encoded
  | text value => .string value
  | list items => .array (itemsToJson items)
  | tuple items => .array (itemsToJson items)
  | dict entries => .object (entriesToJson entries)
  | deferred _ _ message => .object [("error".toList, .string message)]

def itemsToJson : List Value → List Json
  | [] => []
  | item :: rest => toJson item :: itemsToJson rest

def entriesToJson : List (Text × Value) → List (Text × Json)
  | [] => []
  | (key, value) :: rest => (key, toJson value) :: entriesToJson rest

end

/-- The exact number that a value stands for, as a whole number over a power of two. Truth values
count as one and zero. -/
def quotient? : Value → Option (Int × Nat)
  | bool value => some (if value then 1 else 0, 1)
  | int value => some (value, 1)
  | float value => value.toQuotient?
  | _ => .none

mutual

def same : Value → Value → Bool
  | none, none => true
  | text a, text b => a == b
  | list a, list b => sameItems a b
  | tuple a, tuple b => sameItems a b
  | dict a, dict b => a.length == b.length && sameEntries a b
  | deferred a s m, deferred b t n => a == b && s == t && m == n
  | float (.infinite a), float (.infinite b) => a == b
  | a, b =>
    match a.quotient?, b.quotient? with
    | some (m, d), some (n, e) => m * e == n * d
    | _, _ => false

def sameItems : List Value → List Value → Bool
  | [], [] => true
  | a :: rest, b :: others => same a b && sameItems rest others
  | _, _ => false

def sameEntries : List (Text × Value) → List (Text × Value) → Bool
  | [], _ => true
  | (key, value) :: rest, others =>
    (match others.lookup key with
      | some other => same value other
      | .none => false) && sameEntries rest others

end

end Value

end Phrasebook
