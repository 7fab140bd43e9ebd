import LoopScript.Grammar.Goal

/-! The answers of goals. A refusal names the lookahead that it refuses, and a goal that passes over
a lookahead passes over the end as well. -/
namespace LoopScript

/-- The error names the lookahead that brought it up. -/
def GrammarError.Describes (next : Option Kind) (taken : Bool) : GrammarError → Prop
  | .unexpected found _ => next = some found
  | .unfinished _ => next = none ∧ taken = false
  | .tooDeep _ => False

def Answer.Describes (next : Option Kind) : Answer → Prop
  | .refuse error taken => error.Describes next taken
  | _ => True

namespace Goal

open Answer

/-! ### Answers to a kind -/

theorem onMathTerm_some (kind : Kind) :
    onMathTerm (some kind) =
      if kind ∈ [.number, .stringLiteral, .identifier, .undefinedWord, .nullWord] then take []
      else if kind = .leftParen then
        take [enter .mathTerm, production .mathExpression, one .rightParen .mathTerm, leave]
      else refuse (.unexpected kind .mathTerm) true := by
  cases kind <;> rfl

theorem onBooleanTerm_some (kind : Kind) :
    onBooleanTerm (some kind) =
      if kind ∈ [.stringLiteral, .identifier, .trueWord, .falseWord, .undefinedWord, .nullWord] then
        take []
      else if kind = .number then onMathExpression (some kind)
      else if kind = .leftParen then
        take [enter .booleanTerm, production .booleanExpression, one .rightParen .booleanTerm, leave]
      else refuse (.unexpected kind .booleanTerm) false := by
  cases kind <;> rfl

theorem onEndOfStatement_some (kind : Kind) :
    onEndOfStatement (some kind) =
      if kind = .rightBrace then pass
      else if kind = .semicolon then take [optional .newline]
      else if kind = .newline then take []
      else refuse (.unexpected kind .endOfStatement) false := by
  cases kind <;> rfl

theorem onStatement_some (kind : Kind) :
    onStatement (some kind) =
      if kind = .leftBrace then onBlockStatement (some kind)
      else if kind ∈ [.identifier, .arrayElement] then onAssignmentStatement (some kind)
      else refuse (.unexpected kind .statement) false := by
  cases kind <;> rfl

theorem onStatements_some (kind : Kind) :
    onStatements (some kind) =
      if kind = .rightBrace then pass else (onStatement (some kind)).andThen [statements] := by
  cases kind <;> rfl

theorem onOperations_some (kind : Kind) :
    onOperations (some kind) =
      if kind ∈ [.addOp, .subtractOp, .multiplyOp, .divideOp] then
        take [production .mathTerm, operations]
      else pass := by
  cases kind <;> rfl

/-! ### Refusals -/

private theorem describes_reject (rule : Rule) (taken : Bool) (next : Option Kind) :
    (reject rule taken next).Describes next := by
  cases next with
  | none => exact ⟨rfl, rfl⟩
  | some found => rfl

private theorem describes_andThen {answer : Answer} {next : Option Kind}
    (h : answer.Describes next) (more : List Goal) : (answer.andThen more).Describes next := by
  cases answer <;> exact h

private theorem describes_onOneOf (kinds : List Kind) (rule : Rule) (next : Option Kind) :
    (onOneOf kinds rule next).Describes next := by
  unfold onOneOf
  split
  · trivial
  · exact describes_reject rule true next

private theorem describes_onMathTerm (next : Option Kind) : (onMathTerm next).Describes next := by
  unfold onMathTerm
  split
  any_goals trivial
  exact describes_reject .mathTerm true _

private theorem describes_onBooleanTerm (next : Option Kind) :
    (onBooleanTerm next).Describes next := by
  unfold onBooleanTerm
  split
  any_goals trivial
  exact describes_reject .booleanTerm false _

private theorem describes_onBlockStatement (next : Option Kind) :
    (onBlockStatement next).Describes next :=
  describes_andThen (describes_onOneOf _ _ next) _

private theorem describes_onAssignmentStatement (next : Option Kind) :
    (onAssignmentStatement next).Describes next :=
  describes_andThen (describes_onOneOf _ _ next) _

private theorem describes_onStatement (next : Option Kind) :
    (onStatement next).Describes next := by
  unfold onStatement
  split
  · exact describes_onBlockStatement _
  · exact describes_onAssignmentStatement _
  · exact describes_onAssignmentStatement _
  · exact describes_reject .statement false _

private theorem describes_onEndOfStatement (next : Option Kind) :
    (onEndOfStatement next).Describes next := by
  unfold onEndOfStatement
  split
  any_goals trivial
  exact describes_reject .endOfStatement false _

private theorem describes_onRule (rule : Rule) (next : Option Kind) :
    (onRule rule next).Describes next := by
  cases rule with
  | whileStatement => exact describes_andThen (describes_onOneOf _ _ next) _
  | statement => exact describes_onStatement next
  | blockStatement => exact describes_onBlockStatement next
  | assignmentStatement => exact describes_onAssignmentStatement next
  | endOfStatement => exact describes_onEndOfStatement next
  | booleanExpression => exact describes_andThen (describes_onBooleanTerm next) _
  | booleanTerm => exact describes_onBooleanTerm next
  | mathExpression => exact describes_andThen (describes_onMathTerm next) _
  | mathTerm => exact describes_onMathTerm next

/-- A level that does not open is the only refusal that hangs on no lookahead. -/
theorem describes_respond (limit : Option Nat) (next : Option Kind) (depth : Nat) {goal : Goal}
    (hgoal : ∀ rule, goal ≠ enter rule) : (goal.respond limit next depth).1.Describes next := by
  cases goal with
  | oneOf kinds rule => exact describes_onOneOf kinds rule next
  | production rule => exact describes_onRule rule next
  | optional kind =>
    simp only [respond, onOptional]
    split <;> trivial
  | comparisons =>
    simp only [respond, onComparisons]
    split <;> trivial
  | operations =>
    simp only [respond, onOperations]
    split
    · split <;> trivial
    · trivial
  | statements =>
    simp only [respond, onStatements]
    split
    · trivial
    · trivial
    · exact describes_andThen (describes_onStatement _) _
  | enter rule => exact absurd rfl (hgoal rule)
  | leave => trivial

/-! ### Passing over -/

private theorem reject_ne_pass (rule : Rule) (taken : Bool) (next : Option Kind) :
    Answer.reject rule taken next ≠ .pass := by
  cases next <;> simp [Answer.reject]

private theorem andThen_eq_pass {answer : Answer} {more : List Goal}
    (h : answer.andThen more = .pass) : answer = .pass := by
  cases answer <;> first | rfl | cases h

theorem onOneOf_ne_pass (kinds : List Kind) (rule : Rule) (next : Option Kind) :
    onOneOf kinds rule next ≠ .pass := by
  unfold onOneOf
  split
  · simp
  · exact reject_ne_pass rule true next

private theorem onMathTerm_ne_pass (next : Option Kind) : onMathTerm next ≠ .pass := by
  unfold onMathTerm
  split <;> simp [reject_ne_pass]

private theorem onBooleanTerm_ne_pass (next : Option Kind) : onBooleanTerm next ≠ .pass := by
  unfold onBooleanTerm
  split <;> simp [reject_ne_pass, onMathExpression, onMathTerm, Answer.andThen]

private theorem onStatement_ne_pass (next : Option Kind) : onStatement next ≠ .pass := by
  intro h
  unfold onStatement at h
  split at h
  · exact onOneOf_ne_pass _ _ _ (andThen_eq_pass h)
  · exact onOneOf_ne_pass _ _ _ (andThen_eq_pass h)
  · exact onOneOf_ne_pass _ _ _ (andThen_eq_pass h)
  · exact reject_ne_pass _ _ _ h

theorem onRule_ne_pass (rule : Rule) (hrule : rule ≠ .endOfStatement) (next : Option Kind) :
    onRule rule next ≠ .pass := by
  cases rule with
  | endOfStatement => exact absurd rfl hrule
  | whileStatement => exact fun h => onOneOf_ne_pass _ _ _ (andThen_eq_pass h)
  | statement => exact onStatement_ne_pass next
  | blockStatement => exact fun h => onOneOf_ne_pass _ _ _ (andThen_eq_pass h)
  | assignmentStatement => exact fun h => onOneOf_ne_pass _ _ _ (andThen_eq_pass h)
  | booleanExpression => exact fun h => onBooleanTerm_ne_pass next (andThen_eq_pass h)
  | booleanTerm => exact onBooleanTerm_ne_pass next
  | mathExpression => exact fun h => onMathTerm_ne_pass next (andThen_eq_pass h)
  | mathTerm => exact onMathTerm_ne_pass next

/-- Whatever a goal passes over, it passes over the end as well. -/
theorem respond_none_of_pass {limit : Option Nat} {next : Option Kind} {depth depth' : Nat}
    {goal : Goal} (h : goal.respond limit next depth = (.pass, depth')) :
    goal.respond limit none depth = (.pass, depth') := by
  cases goal with
  | oneOf kinds rule => exact absurd (congrArg Prod.fst h) (onOneOf_ne_pass kinds rule next)
  | production rule =>
    obtain rfl : depth = depth' := congrArg Prod.snd h
    by_cases hrule : rule = .endOfStatement
    · rw [hrule]
      rfl
    · exact absurd (congrArg Prod.fst h) (onRule_ne_pass rule hrule next)
  | enter rule => exact h
  | leave => exact h
  | optional kind =>
    obtain rfl : depth = depth' := congrArg Prod.snd h
    rfl
  | comparisons =>
    obtain rfl : depth = depth' := congrArg Prod.snd h
    rfl
  | operations =>
    obtain rfl : depth = depth' := congrArg Prod.snd h
    rfl
  | statements =>
    obtain rfl : depth = depth' := congrArg Prod.snd h
    rfl

end Goal

end LoopScript
