/-! Tokens and their kinds. The grammar reads kinds only. A lexeme is kept for reports, exactly as
it was written. -/
namespace LoopScript

inductive Kind
  | identifier
  | leftParen
  | rightParen
  | leftBrace
  | rightBrace
  | semicolon
  | newline
  | ifWord
  | elseWord
  | whileWord
  | trueWord
  | falseWord
  | nullWord
  | undefinedWord
  | assign
  | relOp
  | addOp
  | subtractOp
  | multiplyOp
  | divideOp
  | number
  | stringLiteral
  /-- An assignment target such as `items[0]`. The grammar takes it, no source text yields it. -/
  | arrayElement
  /-- Text of no other kind. No source text yields it. -/
  | invalid
  deriving DecidableEq, Repr

namespace Kind

def all : List Kind :=
  [identifier, leftParen, rightParen, leftBrace, rightBrace, semicolon, newline, ifWord, elseWord,
   whileWord, trueWord, falseWord, nullWord, undefinedWord, assign, relOp, addOp, subtractOp,
   multiplyOp, divideOp, number, stringLiteral, arrayElement, invalid]

theorem mem_all (k : Kind) : k ∈ all := by cases k <;> decide

def name : Kind → String
  | identifier => "Identifier"
  | leftParen => "LeftParen"
  | rightParen => "RightParen"
  | leftBrace => "LeftBrace"
  | rightBrace => "RightBrace"
  | semicolon => "Semicolon"
  | newline => "Newline"
  | ifWord => "If"
  | elseWord => "Else"
  | whileWord => "While"
  | trueWord => "True"
  | falseWord => "False"
  | nullWord => "Null"
  | undefinedWord => "Undefined"
  | assign => "Assign"
  | relOp => "RelOp"
  | addOp => "AddOp"
  | subtractOp => "SubtractOp"
  | multiplyOp => "MultiplyOp"
  | divideOp => "DivideOp"
  | number => "Number"
  | stringLiteral => "StringLiteral"
  | arrayElement => "ArrayElement"
  | invalid => "Invalid"

def ofName? (text : String) : Option Kind := all.find? (·.name == text)

theorem ofName?_name (k : Kind) : ofName? k.name = some k := by cases k <;> decide

def isArithmetic (k : Kind) : Bool := [addOp, subtractOp, multiplyOp, divideOp].contains k

end Kind

structure Token where
  kind : Kind
  lexeme : String
  deriving DecidableEq, Repr

end LoopScript
