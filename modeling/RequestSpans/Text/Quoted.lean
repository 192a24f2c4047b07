import RequestSpans.Pattern.Named
import RequestSpans.Text.Numeral

set_option autoImplicit false

namespace RequestSpans.Text.Quoted

def unprinted : Pattern.Ranges :=
  Pattern.Named.ofCategories ["cc", "cf", "cs", "co", "cn", "zl", "zp", "zs"]

def isPrinted (c : Char) : Bool := c = ' ' || !unprinted.mem c.toNat

def hexDigits (n : Nat) : List Char :=
  let digits := (hex 8 n).dropWhile (· = '0')
  if digits.isEmpty then ['0'] else digits

def encodeChar (c : Char) : List Char :=
  if c = '\x00' then ['\\', '0']
  else if c = '\t' then ['\\', 't']
  else if c = '\r' then ['\\', 'r']
  else if c = '\n' then ['\\', 'n']
  else if c = '\\' then ['\\', '\\']
  else if c = '"' then ['\\', '"']
  else if Pattern.Named.graphemeExtenders.mem c.toNat || !isPrinted c then
    ['\\', 'u', '\x7b'] ++ hexDigits c.toNat ++ ['\x7d']
  else [c]

def encode (text : String) : String :=
  String.ofList ('"' :: text.toList.flatMap encodeChar ++ ['"'])

def encodeList (texts : List String) : String :=
  "[" ++ ", ".intercalate (texts.map encode) ++ "]"

end RequestSpans.Text.Quoted
