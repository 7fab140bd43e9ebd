import LoopScript.Text.GraphemeExtend
import LoopScript.Text.Unprintable

/-! Text made safe to show inside a message. Quotes, the backslash and the common controls have a
two-character form, and anything that would not show has its code point in hexadecimal. A
combining character is shown as it is, unless it comes first and has nothing to combine with. -/
namespace LoopScript.Text

def isPrintable (c : Char) : Bool :=
  if c.toNat < 0x80 then 0x20 ≤ c.toNat && c.toNat < 0x7F else !inSpans unprintableSpans c

def isGraphemeExtend (c : Char) : Bool := inSpans graphemeExtendSpans c

/-- The letter that stands after the backslash in a two-character form. -/
def shortEscape? : Char → Option Char
  | '\x00' => some '0'
  | '\t' => some 't'
  | '\r' => some 'r'
  | '\n' => some 'n'
  | '"' => some '"'
  | '\'' => some '\''
  | '\\' => some '\\'
  | _ => none

/-- The form is closed by a brace, so the digits need no padding. -/
def codePointEscape (c : Char) : List Char :=
  ['\\', 'u', '\x7b'] ++ Nat.toDigits 16 c.toNat ++ ['\x7d']

def escapeChar (leading : Bool) (c : Char) : List Char :=
  match shortEscape? c with
  | some e => ['\\', e]
  | none =>
    if (leading && isGraphemeExtend c) || !isPrintable c then codePointEscape c else [c]

def escapeChars : List Char → List Char
  | [] => []
  | c :: cs => escapeChar true c ++ cs.flatMap (escapeChar false)

def escape (text : String) : String := String.ofList (escapeChars text.toList)

end LoopScript.Text
