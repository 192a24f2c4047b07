import RequestSpans.Json
import RequestSpans.Text.Numeral

set_option autoImplicit false

namespace RequestSpans.Json

def encodeChar (c : Char) : List Char :=
  if c = '"' then ['\\', '"']
  else if c = '\\' then ['\\', '\\']
  else if c < ' ' then ['\\', 'u'] ++ Text.hex 4 c.toNat
  else [c]

def encodeText (text : String) : String :=
  String.ofList ('"' :: text.toList.flatMap encodeChar ++ ['"'])

def layout : Decimal.Layout := ⟨fun _ => true, true⟩

mutual

def render : Json → String
  | .null => "null"
  | .bool value => if value then "true" else "false"
  | .int value => toString value
  | .float negative value => (if negative then "-" else "") ++ layout.render value
  | .text value => encodeText value
  | .unpaired => encodeText ""
  | .array items => "[" ++ renderItems items ++ "]"
  | .object members => "\x7b" ++ renderMembers members ++ "\x7d"

def renderItems : List Json → String
  | [] => ""
  | [item] => render item
  | item :: rest => render item ++ "," ++ renderItems rest

def renderMembers : List (String × Json) → String
  | [] => ""
  | [(key, value)] => encodeText key ++ ":" ++ render value
  | (key, value) :: rest => encodeText key ++ ":" ++ render value ++ "," ++ renderMembers rest

end

end RequestSpans.Json
