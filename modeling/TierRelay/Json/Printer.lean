import TierRelay.Json.Number
import TierRelay.Text.Hex

namespace TierRelay.Json

open TierRelay.Text

def escape (c : Char) : List Char :=
  if c = '"' then ['\\', '"']
  else if c = '\\' then ['\\', '\\']
  else if c = '\x08' then ['\\', 'b']
  else if c = '\x0c' then ['\\', 'f']
  else if c = '\n' then ['\\', 'n']
  else if c = '\r' then ['\\', 'r']
  else if c = '\t' then ['\\', 't']
  else if c.toNat < 0x20 then
    ['\\', 'u', '0', '0', lowerHexDigit (c.toNat / 16), lowerHexDigit (c.toNat % 16)]
  else [c]

def quoted (s : String) : List Char :=
  '"' :: s.toList.flatMap escape ++ ['"']

def separated (separator : List Char) : List (List Char) → List Char
  | [] => []
  | [text] => text
  | text :: rest => text ++ separator ++ separated separator rest

mutual

def text : Json → List Char
  | .null => ['n', 'u', 'l', 'l']
  | .bool true => ['t', 'r', 'u', 'e']
  | .bool false => ['f', 'a', 'l', 's', 'e']
  | .int n => signed n
  | .float x => floatText x
  | .string s => quoted s
  | .array items => '[' :: separated [','] (itemTexts items) ++ [']']
  | .object members => '{' :: separated [','] (memberTexts members) ++ ['}']

def itemTexts : List Json → List (List Char)
  | [] => []
  | item :: rest => text item :: itemTexts rest

def memberTexts : List (String × Json) → List (List Char)
  | [] => []
  | (name, value) :: rest => (quoted name ++ ':' :: text value) :: memberTexts rest

end

def render (v : Json) : String :=
  String.ofList v.text

structure WriteError where
  message : String
  deriving DecidableEq

/-- Writing to memory does not fail, whatever the value is. -/
def write (v : Json) : Except WriteError String :=
  .ok v.render

def block (opening closing : Char) (indent : Nat) (items : List (List Char)) : List Char :=
  if items = [] then [opening, closing]
  else
    let line (depth : Nat) := '\n' :: List.replicate (2 * depth) ' '
    opening :: line (indent + 1) ++ separated (',' :: line (indent + 1)) items ++ line indent ++
      [closing]

mutual

def prettyText (indent : Nat) : Json → List Char
  | .array items => block '[' ']' indent (prettyItems (indent + 1) items)
  | .object members => block '\x7b' '\x7d' indent (prettyMembers (indent + 1) members)
  | .null => text .null
  | .bool b => text (.bool b)
  | .int n => text (.int n)
  | .float x => text (.float x)
  | .string s => text (.string s)

def prettyItems (indent : Nat) : List Json → List (List Char)
  | [] => []
  | item :: rest => prettyText indent item :: prettyItems indent rest

def prettyMembers (indent : Nat) : List (String × Json) → List (List Char)
  | [] => []
  | (name, value) :: rest =>
    (quoted name ++ ':' :: ' ' :: prettyText indent value) :: prettyMembers indent rest

end

def renderPretty (v : Json) : String :=
  String.ofList (v.prettyText 0)

end TierRelay.Json
