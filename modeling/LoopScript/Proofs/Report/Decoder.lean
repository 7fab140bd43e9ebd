import LoopScript.Json

/-! A decoder for JSON. It knows nothing of how reports are written: every value, every escape and
blanks in every place are read, and what is no JSON is refused. It takes one character after
another, so that a text can be read in pieces. -/
namespace LoopScript.Json

/-- What a text of JSON says. A number is kept as it is written, and fields keep their order. -/
inductive Document
  | null
  | bool (value : Bool)
  | number (text : String)
  | string (text : String)
  | array (items : List Document)
  | object (fields : List (String × Document))

namespace Decoder

def isSpace (c : Char) : Bool := c = ' ' || c = '\t' || c = '\n' || c = '\r'

/-! ### Strings -/

def hexDigit? (c : Char) : Option Nat :=
  if c.isDigit then some (c.toNat - '0'.toNat)
  else if 'a' ≤ c ∧ c ≤ 'f' then some (c.toNat - 'a'.toNat + 10)
  else if 'A' ≤ c ∧ c ≤ 'F' then some (c.toNat - 'A'.toNat + 10)
  else none

def escaped? : Char → Option Char
  | '"' => some '"'
  | '\\' => some '\\'
  | '/' => some '/'
  | 'b' => some '\x08'
  | 'f' => some '\x0c'
  | 'n' => some '\n'
  | 'r' => some '\r'
  | 't' => some '\t'
  | _ => none

/-- A character beyond four digits is written as two units, a lead and a trail. -/
def isLead (unit : Nat) : Bool := 0xD800 ≤ unit && unit < 0xDC00

def isTrail (unit : Nat) : Bool := 0xDC00 ≤ unit && unit < 0xE000

def ofPair (lead trail : Nat) : Char :=
  Char.ofNat (0x10000 + 0x400 * (lead - 0xD800) + (trail - 0xDC00))

/-- Where the reader is between two quotation marks. -/
inductive Quoted
  | plain
  | halfway (lead : Nat)
  | escape (lead : Option Nat)
  /-- Inside a unit, with some digits still to come. -/
  | digits (lead : Option Nat) (left value : Nat)

namespace Quoted

def close : Option Nat → Nat → Option (Quoted × List Char)
  | none, unit =>
    if isLead unit then some (halfway unit, [])
    else if isTrail unit then none
    else some (plain, [Char.ofNat unit])
  | some lead, unit => if isTrail unit then some (plain, [ofPair lead unit]) else none

/-- Reads one character, and says which characters of the string are known by it. -/
def step : Quoted → Char → Option (Quoted × List Char)
  | plain, c =>
    if c = '\\' then some (escape none, [])
    else if c.toNat < 0x20 then none
    else some (plain, [c])
  | halfway lead, c => if c = '\\' then some (escape (some lead), []) else none
  | escape lead, c =>
    if c = 'u' then some (digits lead 4 0, [])
    else if lead.isSome then none
    else (escaped? c).map fun c => (plain, [c])
  | digits lead left value, c =>
    match hexDigit? c with
    | none => none
    | some digit =>
      let value := 16 * value + digit
      if left ≤ 1 then close lead value else some (digits lead (left - 1) value, [])

end Quoted

/-! ### Numbers -/

def skipOne (signs : List Char) : List Char → List Char
  | [] => []
  | c :: text => if signs.contains c then text else c :: text

def isExponent : List Char → Bool
  | [] => true
  | c :: text =>
    let digits := skipOne ['+', '-'] text
    (c = 'e' || c = 'E') && !digits.isEmpty && digits.all Char.isDigit

def isFraction : List Char → Bool
  | [] => true
  | c :: text =>
    if c = '.' then text.head?.any Char.isDigit && isExponent (text.dropWhile Char.isDigit)
    else isExponent (c :: text)

/-- No zero stands in front of another digit. -/
def isNumber (text : List Char) : Bool :=
  let text := skipOne ['-'] text
  let whole := text.takeWhile Char.isDigit
  (whole = ['0'] || whole.head?.any (· ≠ '0')) && isFraction (text.dropWhile Char.isDigit)

def inNumber (c : Char) : Bool := c.isDigit || ['-', '+', '.', 'e', 'E'].contains c

/-! ### Nesting -/

inductive Symbol
  | openBrace
  | closeBrace
  | openBracket
  | closeBracket
  | colon
  | comma
  | text (value : String)
  | leaf (value : Document)

/-- An array or an object that has begun, with what it holds so far. -/
inductive Frame
  | items (front : List Document)
  /-- The key is that of the value to come. -/
  | fields (front : List (String × Document)) (key : String)

/-- What has to come next. -/
inductive Due
  | value
  /-- A first item, or the end of the array. -/
  | firstItem
  /-- A first key, or the end of the object. -/
  | firstKey
  | key (front : List (String × Document))
  | colon (front : List (String × Document)) (key : String)
  | behind (value : Document)

inductive Part
  | none
  | quoted (front : List Char) (place : Quoted)
  | word (left : List Char) (value : Document)
  | number (front : List Char)

structure Progress where
  due : Due
  stack : List Frame
  part : Part := .none

namespace Progress

/-- A value is complete, and goes into the array or the object around it. -/
def follow (value : Document) : List Frame → Symbol → Option Progress
  | .items front :: stack, .comma => some ⟨.value, .items (front ++ [value]) :: stack, .none⟩
  | .items front :: stack, .closeBracket => some ⟨.behind (.array (front ++ [value])), stack, .none⟩
  | .fields front key :: stack, .comma => some ⟨.key (front ++ [(key, value)]), stack, .none⟩
  | .fields front key :: stack, .closeBrace =>
    some ⟨.behind (.object (front ++ [(key, value)])), stack, .none⟩
  | _, _ => none

def advance (p : Progress) (symbol : Symbol) : Option Progress :=
  match p.due, symbol with
  | .value, .openBrace => some ⟨.firstKey, p.stack, .none⟩
  | .value, .openBracket => some ⟨.firstItem, p.stack, .none⟩
  | .value, .text value => some ⟨.behind (.string value), p.stack, .none⟩
  | .value, .leaf value => some ⟨.behind value, p.stack, .none⟩
  | .firstItem, .closeBracket => some ⟨.behind (.array []), p.stack, .none⟩
  | .firstKey, .closeBrace => some ⟨.behind (.object []), p.stack, .none⟩
  | .key front, .text key => some ⟨.colon front key, p.stack, .none⟩
  | .colon front key, .colon => some ⟨.value, .fields front key :: p.stack, .none⟩
  | .behind value, symbol => follow value p.stack symbol
  | _, _ => none

/-- An array or an object that does not end at once has a first member. -/
def enter (p : Progress) (c : Char) : Progress :=
  match p.due with
  | .firstItem => if c = ']' then p else { p with due := .value, stack := .items [] :: p.stack }
  | .firstKey => if c = '\x7d' then p else { p with due := .key [] }
  | _ => p

def start (p : Progress) (c : Char) : Option Progress :=
  match c with
  | '\x7b' => p.advance .openBrace
  | '\x7d' => p.advance .closeBrace
  | '[' => p.advance .openBracket
  | ']' => p.advance .closeBracket
  | ':' => p.advance .colon
  | ',' => p.advance .comma
  | '"' => some { p with part := .quoted [] .plain }
  | 't' => some { p with part := .word ['r', 'u', 'e'] (.bool true) }
  | 'f' => some { p with part := .word ['a', 'l', 's', 'e'] (.bool false) }
  | 'n' => some { p with part := .word ['u', 'l', 'l'] .null }
  | c => if inNumber c then some { p with part := .number [c] } else none

def next (p : Progress) (c : Char) : Option Progress :=
  if isSpace c then some p else (p.enter c).start c

def endNumber (p : Progress) (front : List Char) : Option Progress :=
  if isNumber front then p.advance (.leaf (.number (String.ofList front))) else none

def inQuotes (p : Progress) (front : List Char) (place : Quoted) (c : Char) : Option Progress :=
  match place, c with
  | .plain, '"' => p.advance (.text (String.ofList front))
  | _, _ =>
    (place.step c).map fun (place, known) => { p with part := .quoted (front ++ known) place }

def step (p : Progress) (c : Char) : Option Progress :=
  match p.part with
  | .none => p.next c
  | .quoted front place => p.inQuotes front place c
  | .word left value =>
    if left.head? ≠ some c then none
    else if left.tail = [] then p.advance (.leaf value)
    else some { p with part := .word left.tail value }
  | .number front =>
    if inNumber c then some { p with part := .number (front ++ [c]) }
    else (p.endNumber front).bind (·.next c)

def feed (p : Progress) (text : List Char) : Option Progress := text.foldlM step p

def finish (p : Progress) : Option Document :=
  match p.part, p.due, p.stack with
  | .none, .behind value, [] => some value
  | .number front, .value, [] =>
    if isNumber front then some (.number (String.ofList front)) else none
  | _, _, _ => none

end Progress

end Decoder

def decode (text : String) : Option Document :=
  (Decoder.Progress.feed ⟨.value, [], .none⟩ text.toList).bind Decoder.Progress.finish

/-- Blanks, numbers and pairs of units are not written in reports. -/
example : decode " [ -1.5e+3, null , \"\\u00e9\\/\",\"\\uD83D\\uDE00\"]\r\n" =
    some (.array [.number "-1.5e+3", .null, .string "é/", .string "😀"]) := by rfl

end LoopScript.Json
