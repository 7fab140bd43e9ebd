import LoopScript.Grammar.Cursor

/-! Sequences of kinds to show the grammar with, each with the verdict that it is to get. -/
namespace LoopScript

structure Sample where
  name : String
  rule : Rule
  kinds : List Kind
  valid : Bool
  deriving DecidableEq, Repr

namespace Sample

def outcome (s : Sample) : Except GrammarError Unit := s.rule.check s.kinds

def report (s : Sample) : String :=
  let verdict := match s.outcome with
    | .ok () => "Ok"
    | .error error => error.message ++ "\nError"
  s.name ++ "\n" ++ verdict ++ "\n-----------------\n"

def asExpected (s : Sample) : Bool := s.outcome.isOk == s.valid

def all : List Sample :=
  [⟨"Parser for while statement", .whileStatement,
    [.whileWord, .leftParen, .identifier, .relOp, .number, .rightParen, .leftBrace, .identifier,
     .assign, .number, .semicolon, .rightBrace], true⟩,
   ⟨"Parser for while with invalid bool", .whileStatement,
    [.whileWord, .leftParen, .identifier, .addOp, .number, .rightParen, .leftBrace, .identifier,
     .assign, .number, .semicolon, .rightBrace], false⟩,
   ⟨"Parser for while with math", .whileStatement,
    [.whileWord, .leftParen, .number, .addOp, .number, .relOp, .identifier, .rightParen,
     .leftBrace, .identifier, .assign, .number, .semicolon, .rightBrace], true⟩,
   ⟨"Parser for math", .mathExpression,
    [.leftParen, .number, .addOp, .number, .rightParen], true⟩,
   ⟨"Parser for while with math with no closing bracket", .whileStatement,
    [.whileWord, .leftParen, .number, .addOp, .number, .relOp, .identifier, .rightParen,
     .leftBrace, .identifier, .assign, .number, .semicolon], false⟩]

theorem asExpected_of_mem_all : ∀ s ∈ all, s.asExpected = true := by decide

end Sample

end LoopScript
