import LoopScript.Grammar.Error

/-! The grammar as a relation, with no word on how a sequence is read. Optional line breaks may be
taken or left, and repetitions may stop anywhere. -/
namespace LoopScript

/-- A production, or a repetition inside of one. -/
inductive Part
  | production (rule : Rule)
  /-- `(RelOp BooleanTerm)*` -/
  | comparisons
  /-- `(sign MathTerm)*` -/
  | operations
  /-- `Statement*` -/
  | statements
  deriving DecidableEq, Repr

/-- One `kind` stands in front of `rest`, or nothing does. -/
def Optionally (kind : Kind) (kinds rest : List Kind) : Prop := kinds = rest ∨ kinds = kind :: rest

/-- `Derives part nesting kinds rest`: the kinds in front of `rest` are a word of the part, and the
largest number of groups and blocks that are open in it at once is `nesting`. A statement may go
without a terminator in front of a closing brace and at the end. -/
inductive Derives : Part → Nat → List Kind → List Kind → Prop
  | mathOperand {kind rest}
      (operand : kind ∈ [.number, .stringLiteral, .identifier, .undefinedWord, .nullWord]) :
      Derives (.production .mathTerm) 0 (kind :: rest) rest
  | mathGroup {n kinds rest}
      (inner : Derives (.production .mathExpression) n kinds (.rightParen :: rest)) :
      Derives (.production .mathTerm) (n + 1) (.leftParen :: kinds) rest
  | mathExpression {m n kinds kinds' rest}
      (first : Derives (.production .mathTerm) m kinds kinds')
      (more : Derives .operations n kinds' rest) :
      Derives (.production .mathExpression) (max m n) kinds rest
  | noOperation {rest} : Derives .operations 0 rest rest
  | operation {sign m n kinds kinds' rest}
      (arithmetic : sign ∈ [.addOp, .subtractOp, .multiplyOp, .divideOp])
      (term : Derives (.production .mathTerm) m kinds kinds')
      (more : Derives .operations n kinds' rest) :
      Derives .operations (max m n) (sign :: kinds) rest
  | booleanOperand {kind rest}
      (operand : kind ∈
        [.stringLiteral, .identifier, .trueWord, .falseWord, .undefinedWord, .nullWord]) :
      Derives (.production .booleanTerm) 0 (kind :: rest) rest
  | arithmetic {n kinds rest}
      (expression : Derives (.production .mathExpression) n (.number :: kinds) rest) :
      Derives (.production .booleanTerm) n (.number :: kinds) rest
  | booleanGroup {n kinds rest}
      (inner : Derives (.production .booleanExpression) n kinds (.rightParen :: rest)) :
      Derives (.production .booleanTerm) (n + 1) (.leftParen :: kinds) rest
  | booleanExpression {m n kinds kinds' rest}
      (first : Derives (.production .booleanTerm) m kinds kinds')
      (more : Derives .comparisons n kinds' rest) :
      Derives (.production .booleanExpression) (max m n) kinds rest
  | noComparison {rest} : Derives .comparisons 0 rest rest
  | comparison {m n kinds kinds' rest}
      (term : Derives (.production .booleanTerm) m kinds kinds')
      (more : Derives .comparisons n kinds' rest) :
      Derives .comparisons (max m n) (.relOp :: kinds) rest
  | semicolon {kinds rest} (lineBreak : Optionally .newline kinds rest) :
      Derives (.production .endOfStatement) 0 (.semicolon :: kinds) rest
  | lineBreak {rest} : Derives (.production .endOfStatement) 0 (.newline :: rest) rest
  | beforeBrace {rest} :
      Derives (.production .endOfStatement) 0 (.rightBrace :: rest) (.rightBrace :: rest)
  | atEnd : Derives (.production .endOfStatement) 0 [] []
  | assignment {target n kinds kinds' rest}
      (assignable : target ∈ [.identifier, .arrayElement])
      (value : Derives (.production .mathExpression) n kinds kinds')
      (terminator : Derives (.production .endOfStatement) 0 kinds' rest) :
      Derives (.production .assignmentStatement) n (target :: .assign :: kinds) rest
  | noStatement {rest} : Derives .statements 0 rest rest
  | oneStatement {m n kinds kinds' rest}
      (first : Derives (.production .statement) m kinds kinds')
      (more : Derives .statements n kinds' rest) : Derives .statements (max m n) kinds rest
  | block {n kinds kinds' rest} (lineBreak : Optionally .newline kinds kinds')
      (inner : Derives .statements n kinds' (.rightBrace :: rest)) :
      Derives (.production .blockStatement) (n + 1) (.leftBrace :: kinds) rest
  | blockStatement {n kinds rest} (block : Derives (.production .blockStatement) n kinds rest) :
      Derives (.production .statement) n kinds rest
  | assignmentStatement {n kinds rest}
      (assignment : Derives (.production .assignmentStatement) n kinds rest) :
      Derives (.production .statement) n kinds rest
  | loop {m n kinds kinds₁ kinds₂ kinds₃ rest}
      (condition : Derives (.production .booleanExpression) m kinds (.rightParen :: kinds₁))
      (lineBreak : Optionally .newline kinds₁ kinds₂)
      (body : Derives (.production .statement) n kinds₂ kinds₃)
      (lineBreak' : Optionally .newline kinds₃ rest) :
      Derives (.production .whileStatement) (max m n) (.whileWord :: .leftParen :: kinds) rest

def Rule.Derives (rule : Rule) (nesting : Nat) (word : List Kind) : Prop :=
  LoopScript.Derives (.production rule) nesting word []

/-- The kinds in front of `rest` are a word of the part, and `depth` levels that are open around it
leave room for its own. -/
def Part.Within (limit depth : Nat) (part : Part) (kinds rest : List Kind) : Prop :=
  ∃ n ≤ limit - depth, Derives part n kinds rest

end LoopScript
