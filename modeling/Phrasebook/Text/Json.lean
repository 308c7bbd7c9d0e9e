import Phrasebook.Text.Basic

/-!
# Compact JSON

Reports of failed decodings are JSON documents without blanks. Inside strings only quotes,
backslashes and control characters are escaped; members of an object keep their order.
-/

namespace Phrasebook

inductive Json where
  | null
  | bool (value : Bool)
  | number (written : Text)
  | string (value : Text)
  | array (items : List Json)
  | object (members : List (Text × Json))

namespace Json

def escapedChar (c : Char) : Text :=
  if c = '"' || c = '\\' then ['\\', c]
  else if c = '\x08' then ['\\', 'b']
  else if c = '\t' then ['\\', 't']
  else if c = '\n' then ['\\', 'n']
  else if c = '\x0c' then ['\\', 'f']
  else if c = '\r' then ['\\', 'r']
  else if c.toNat < 0x20 then '\\' :: 'u' :: Text.hex 4 c.toNat
  else [c]

def renderString (t : Text) : Text := '"' :: t.flatMap escapedChar ++ ['"']

mutual

def render : Json → Text
  | null => "null".toList
  | bool true => "true".toList
  | bool false => "false".toList
  | number written => written
  | string value => renderString value
  | array items => '[' :: renderItems items ++ [']']
  | object members => '\x7b' :: renderMembers members ++ ['\x7d']

def renderItems : List Json → Text
  | [] => []
  | [item] => render item
  | item :: next :: rest => render item ++ ',' :: renderItems (next :: rest)

def renderMembers : List (Text × Json) → Text
  | [] => []
  | [(name, value)] => renderString name ++ ':' :: render value
  | (name, value) :: next :: rest =>
    renderString name ++ ':' :: render value ++ ',' :: renderMembers (next :: rest)

end

end Json

end Phrasebook
