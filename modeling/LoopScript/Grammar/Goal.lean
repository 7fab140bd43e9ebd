import LoopScript.Grammar.Error

/-! What is still to be matched, as a list of goals. One kind of lookahead, or the end of the
sequence, decides what the first goal does: it takes the kind and leaves further goals in its
place, or it is met without taking anything, or it refuses. -/
namespace LoopScript

inductive Goal
  | oneOf (kinds : List Kind) (rule : Rule)
  | optional (kind : Kind)
  | production (rule : Rule)
  /-- More comparisons: `(RelOp BooleanTerm)*`. -/
  | comparisons
  /-- More arithmetic: `(sign MathTerm)*`. -/
  | operations
  /-- Statements up to a closing brace or the end. -/
  | statements
  /-- One more level opens, on behalf of a production. -/
  | enter (rule : Rule)
  /-- The level that was opened last closes. -/
  | leave
  deriving DecidableEq, Repr

/-- What a goal does at a lookahead. -/
inductive Answer
  | take (goals : List Goal)
  | pass
  /-- A refusal may come after the kind was taken, or only look at it. -/
  | refuse (error : GrammarError) (taken : Bool)
  deriving DecidableEq, Repr

namespace Answer

/-- The refusal of a lookahead that a production cannot go on with. -/
def reject (rule : Rule) (taken : Bool) : Option Kind → Answer
  | none => refuse (.unfinished rule) false
  | some found => refuse (.unexpected found rule) taken

def andThen : Answer → List Goal → Answer
  | take goals, more => take (goals ++ more)
  | pass, _ => pass
  | refuse error taken, _ => refuse error taken

end Answer

namespace Goal

open Answer

def one (kind : Kind) (rule : Rule) : Goal := oneOf [kind] rule

def onOneOf (kinds : List Kind) (rule : Rule) (next : Option Kind) : Answer :=
  if next.any kinds.contains then take [] else reject rule true next

def onOptional (kind : Kind) (next : Option Kind) : Answer :=
  if next = some kind then take [] else pass

/-- A number, string, name, `undefined`, `null`, or an expression in parentheses. -/
def onMathTerm : Option Kind → Answer
  | some .number | some .stringLiteral | some .identifier | some .undefinedWord
  | some .nullWord => take []
  | some .leftParen =>
    take [enter .mathTerm, production .mathExpression, one .rightParen .mathTerm, leave]
  | next => reject .mathTerm true next

def onMathExpression (next : Option Kind) : Answer := (onMathTerm next).andThen [operations]

def onOperations : Option Kind → Answer
  | some kind => if kind.isArithmetic then take [production .mathTerm, operations] else pass
  | none => pass

/-- A number begins a whole expression. Any other operand stands alone. -/
def onBooleanTerm : Option Kind → Answer
  | some .stringLiteral | some .identifier | some .trueWord | some .falseWord
  | some .undefinedWord | some .nullWord => take []
  | some .number => onMathExpression (some .number)
  | some .leftParen =>
    take [enter .booleanTerm, production .booleanExpression, one .rightParen .booleanTerm, leave]
  | next => reject .booleanTerm false next

def onBooleanExpression (next : Option Kind) : Answer :=
  (onBooleanTerm next).andThen [comparisons]

def onComparisons (next : Option Kind) : Answer :=
  if next = some .relOp then take [production .booleanTerm, comparisons] else pass

/-- A closing brace ends a statement, and is left for the block that it closes. -/
def onEndOfStatement : Option Kind → Answer
  | none | some .rightBrace => pass
  | some .semicolon => take [optional .newline]
  | some .newline => take []
  | next => reject .endOfStatement false next

def onAssignmentStatement (next : Option Kind) : Answer :=
  (onOneOf [.identifier, .arrayElement] .assignmentStatement next).andThen
    [one .assign .assignmentStatement, production .mathExpression, production .endOfStatement]

/-- The line break after the brace stands in front of the new level. -/
def onBlockStatement (next : Option Kind) : Answer :=
  (onOneOf [.leftBrace] .blockStatement next).andThen
    [optional .newline, enter .blockStatement, statements, leave,
     one .rightBrace .blockStatement]

def onStatement : Option Kind → Answer
  | some .leftBrace => onBlockStatement (some .leftBrace)
  | some .identifier => onAssignmentStatement (some .identifier)
  | some .arrayElement => onAssignmentStatement (some .arrayElement)
  | next => reject .statement false next

/-- Running out of kinds ends the statements. The missing brace is reported by its own goal. -/
def onStatements : Option Kind → Answer
  | none | some .rightBrace => pass
  | next => (onStatement next).andThen [statements]

def onWhileStatement (next : Option Kind) : Answer :=
  (onOneOf [.whileWord] .whileStatement next).andThen
    [one .leftParen .whileStatement, production .booleanExpression,
     one .rightParen .whileStatement, optional .newline, production .statement, optional .newline]

def onRule : Rule → Option Kind → Answer
  | .whileStatement => onWhileStatement
  | .statement => onStatement
  | .blockStatement => onBlockStatement
  | .assignmentStatement => onAssignmentStatement
  | .endOfStatement => onEndOfStatement
  | .booleanExpression => onBooleanExpression
  | .booleanTerm => onBooleanTerm
  | .mathExpression => onMathExpression
  | .mathTerm => onMathTerm

/-- The answer of a goal, with the depth of nesting after it. A level opens only below `limit`,
and whether it does hangs on no lookahead. -/
def respond (limit : Option Nat) (next : Option Kind) (depth : Nat) : Goal → Answer × Nat
  | oneOf kinds rule => (onOneOf kinds rule next, depth)
  | optional kind => (onOptional kind next, depth)
  | production rule => (onRule rule next, depth)
  | comparisons => (onComparisons next, depth)
  | operations => (onOperations next, depth)
  | statements => (onStatements next, depth)
  | enter rule =>
    if limit.all (depth < ·) then (pass, depth + 1) else (refuse (.tooDeep rule) false, depth)
  | leave => (pass, depth - 1)

/-- Levels that the goals are going to close. -/
def closings (goals : List Goal) : Nat := goals.count leave

/-- Levels that are open in front of a goal, and that the goals behind it are going to close. They
also close the one that an `enter` has yet to open. -/
def closingsBehind : Goal → List Goal → Nat
  | enter _, goals => closings goals - 1
  | _, goals => closings goals

theorem closingsBehind_of_ne {goal : Goal} (h : ∀ rule, goal ≠ enter rule) (goals : List Goal) :
    closingsBehind goal goals = closings goals := by
  cases goal with
  | enter rule => exact absurd rfl (h rule)
  | _ => rfl

end Goal

/-- What came of the goals at one lookahead, and the depth of nesting after it. All of them were
met, or one took the kind and these are left, or one refused. -/
inductive Settled
  | done (depth : Nat)
  | took (goals : List Goal) (depth : Nat)
  | refused (error : GrammarError) (taken : Bool) (depth : Nat)
  deriving DecidableEq, Repr

namespace Goal

/-- Goes through the goals at one lookahead until one of them takes it or refuses. A refusal drops
the goals behind it, and closes the levels that they had yet to close. -/
def settle (limit : Option Nat) (next : Option Kind) : List Goal → Nat → Settled
  | [], depth => .done depth
  | goal :: goals, depth =>
    match goal.respond limit next depth with
    | (.take more, depth) => .took (more ++ goals) depth
    | (.pass, depth) => settle limit next goals depth
    | (.refuse error taken, depth) => .refused error taken (depth - goal.closingsBehind goals)

private theorem respond_none_ne_take (limit : Option Nat) (goal : Goal) (depth : Nat)
    (more : List Goal) (depth' : Nat) : goal.respond limit none depth ≠ (.take more, depth') := by
  intro h
  cases goal with
  | production rule => cases rule <;> cases h
  | enter rule =>
    simp only [respond] at h
    split at h <;> cases h
  | _ => cases h

theorem settle_none_ne_took (limit : Option Nat) (goals : List Goal) (depth : Nat)
    (left : List Goal) (depth' : Nat) : settle limit none goals depth ≠ .took left depth' := by
  induction goals generalizing depth with
  | nil => simp [settle]
  | cons goal goals ih =>
    unfold settle
    split
    · next h => exact absurd h (respond_none_ne_take limit goal depth _ _)
    · exact ih _
    · simp

end Goal

end LoopScript
