import LoopScript.Token

/-! The productions of the grammar by name. Each can be asked for by itself, and a failure names the
one that was being matched. -/
namespace LoopScript

inductive Rule
  /-- A loop: `while ( BooleanExpression ) [newline] Statement [newline]`. -/
  | whileStatement
  /-- A block or an assignment. -/
  | statement
  /-- Braces around statements: `{ [newline] Statement* }`. -/
  | blockStatement
  /-- An assignment: `(identifier | array element) = MathExpression EndOfStatement`. -/
  | assignmentStatement
  /-- A terminator, `; [newline]` or a newline, or nothing in front of `}` and at the end. -/
  | endOfStatement
  /-- Boolean terms with comparison signs between them. -/
  | booleanExpression
  | booleanTerm
  /-- Math terms with arithmetic signs between them. -/
  | mathExpression
  | mathTerm
  deriving DecidableEq, Repr

namespace Rule

def all : List Rule :=
  [whileStatement, statement, blockStatement, assignmentStatement, endOfStatement,
   booleanExpression, booleanTerm, mathExpression, mathTerm]

theorem mem_all (r : Rule) : r ∈ all := by cases r <;> decide

/-- The name on the command line and in reports for machines. -/
def name : Rule → String
  | whileStatement => "while-statement"
  | statement => "statement"
  | blockStatement => "block-statement"
  | assignmentStatement => "assignment-statement"
  | endOfStatement => "end-of-statement"
  | booleanExpression => "boolean-expression"
  | booleanTerm => "boolean-term"
  | mathExpression => "math-expression"
  | mathTerm => "math-term"

def title : Rule → String
  | whileStatement => "while statement"
  | statement => "statement"
  | blockStatement => "block statement"
  | assignmentStatement => "assignment statement"
  | endOfStatement => "end of statement"
  | booleanExpression => "boolean expression"
  | booleanTerm => "boolean term"
  | mathExpression => "math expression"
  | mathTerm => "math term"

def ofName? (text : String) : Option Rule := all.find? (·.name == text)

theorem ofName?_name (r : Rule) : ofName? r.name = some r := by cases r <;> decide

end Rule

end LoopScript
