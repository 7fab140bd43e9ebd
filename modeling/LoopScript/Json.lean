/-! JSON values and their compact text, for any way to write a character of a string. Fields keep
their order. -/
namespace LoopScript

inductive Json
  | string (text : String)
  | bool (value : Bool)
  | array (items : List Json)
  | object (fields : List (String × Json))

namespace Json

/-- The letter that stands after the backslash in a two-character form. -/
def shortEscape? : Char → Option Char
  | '"' => some '"'
  | '\\' => some '\\'
  | '\x08' => some 'b'
  | '\t' => some 't'
  | '\n' => some 'n'
  | '\x0c' => some 'f'
  | '\r' => some 'r'
  | _ => none

/-- Only the quote, the backslash and the controls below U+0020 are escaped. -/
def escapeChar (c : Char) : List Char :=
  match shortEscape? c with
  | some e => ['\\', e]
  | none =>
    if c.toNat < 0x20 then
      ['\\', 'u', '0', '0', Nat.digitChar (c.toNat / 16), Nat.digitChar (c.toNat % 16)]
    else [c]

section

variable (escape : Char → List Char)

def quote (text : String) : List Char := '"' :: text.toList.flatMap escape ++ ['"']

mutual

def chars : Json → List Char
  | string text => quote escape text
  | bool true => ['t', 'r', 'u', 'e']
  | bool false => ['f', 'a', 'l', 's', 'e']
  | array items => '[' :: itemChars items ++ [']']
  | object fields => '\x7b' :: fieldChars fields ++ ['\x7d']

def itemChars : List Json → List Char
  | [] => []
  | [item] => chars item
  | item :: items => chars item ++ ',' :: itemChars items

def fieldChars : List (String × Json) → List Char
  | [] => []
  | [(key, value)] => quote escape key ++ ':' :: chars value
  | (key, value) :: fields => quote escape key ++ ':' :: chars value ++ ',' :: fieldChars fields

end

def render (value : Json) : String := String.ofList (value.chars escape)

end

end Json

end LoopScript
