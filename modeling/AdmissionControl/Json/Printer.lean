import AdmissionControl.Json.Value
import AdmissionControl.Text.Digits

namespace AdmissionControl.Json

open Text

-- Quotes, backslashes and control characters are escaped, the five common
-- controls by their short forms. Everything else stands for itself.
def escape (c : Char) : List Char :=
  match c with
  | '"' => ['\\', '"']
  | '\\' => ['\\', '\\']
  | '\x08' => ['\\', 'b']
  | '\t' => ['\\', 't']
  | '\n' => ['\\', 'n']
  | '\x0c' => ['\\', 'f']
  | '\r' => ['\\', 'r']
  | c =>
    if c.toNat < 0x20 then '\\' :: 'u' :: padLeft 4 '0' (hexDigits c.toNat)
    else [c]

def quote (text : String) : List Char :=
  '"' :: (text.toList.flatMap escape ++ ['"'])

mutual

def chars : Json → List Char
  | .null => "null".toList
  | .bool true => "true".toList
  | .bool false => "false".toList
  | .integer value => (toString value).toList
  | .decimal literal => literal.toList
  | .string text => quote text
  | .array items => '[' :: (itemChars items ++ [']'])
  | .object members => '\x7b' :: (memberChars members ++ ['\x7d'])

def itemChars : List Json → List Char
  | [] => []
  | [item] => chars item
  | item :: items => chars item ++ ',' :: itemChars items

def memberChars : List (String × Json) → List Char
  | [] => []
  | [(name, value)] => quote name ++ ':' :: chars value
  | (name, value) :: members => quote name ++ ':' :: (chars value ++ ',' :: memberChars members)

end

-- The compact text: no blanks between the tokens.
def print (value : Json) : String :=
  String.ofList value.chars

end AdmissionControl.Json
