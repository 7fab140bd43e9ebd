import LoopScript.Proofs.Grammar.Language
import LoopScript.Grammar.Goal

/-! What a list of goals demands of the kinds that are left, in the terms of the grammar. Every part
of the grammar demands what the goals demand that stand for it, so an answer at a lookahead only
rewrites the demand. -/
namespace LoopScript

/-- A condition on the depth of nesting and on the kinds that are left. -/
abbrev Demand := Nat → List Kind → Prop

/-- A word of the part comes first, and what is left behind it is as `after` asks. -/
def Part.Then (limit : Nat) (part : Part) (after : Demand) : Demand := fun depth kinds =>
  ∃ rest, part.Within limit depth kinds rest ∧ after depth rest

namespace Goal

/-- The goal is met first, and what is left behind it is as `after` asks. -/
def Then (limit : Nat) (goal : Goal) (after : Demand) : Demand := fun depth kinds =>
  match goal with
  | oneOf options _ => ∃ kind ∈ options, ∃ rest, kinds = kind :: rest ∧ after depth rest
  | optional kind => ∃ rest, Optionally kind kinds rest ∧ after depth rest
  | production rule => (Part.production rule).Then limit after depth kinds
  | comparisons => Part.comparisons.Then limit after depth kinds
  | operations => Part.operations.Then limit after depth kinds
  | statements => Part.statements.Then limit after depth kinds
  | enter _ => depth < limit ∧ after (depth + 1) kinds
  | leave => after (depth - 1) kinds

/-- The goals are met one after another, and then `after`. -/
def demand (limit : Nat) (after : Demand) (goals : List Goal) : Demand :=
  goals.foldr (Then limit) after

theorem demand_append (limit : Nat) (after : Demand) (front back : List Goal) :
    demand limit after (front ++ back) = demand limit (demand limit after back) front :=
  List.foldr_append

/-- The goals are met, and no kind is left. -/
def Accepts (limit : Nat) : List Goal → Demand := demand limit fun _ kinds => kinds = []

theorem accepts_append (limit : Nat) (front back : List Goal) :
    Accepts limit (front ++ back) = demand limit (Accepts limit back) front :=
  demand_append limit _ front back

end Goal

namespace Part

open Goal

variable {limit depth : Nat} {after : Demand} {kinds : List Kind}

theorem then_mathTerm {kind : Kind} {behind : List Kind} :
    (production .mathTerm).Then limit after depth (kind :: behind) ↔
      (kind ∈ [.number, .stringLiteral, .identifier, .undefinedWord, .nullWord] ∧
        after depth behind) ∨
      (kind = .leftParen ∧ demand limit after
        [enter .mathTerm, .production .mathExpression, one .rightParen .mathTerm, leave]
        depth behind) := by
  constructor
  · intro hthen
    obtain ⟨rest, ⟨n, hn, h⟩, ha⟩ := hthen
    cases h with
    | mathOperand operand => exact .inl ⟨operand, ha⟩
    | mathGroup inner =>
      exact .inr ⟨rfl, by omega, _, ⟨_, by omega, inner⟩, _, List.mem_singleton_self _, rest, rfl, ha⟩
  · intro hthen
    rcases hthen with ⟨operand, ha⟩ | ⟨rfl, hd, middle, ⟨n, hn, h⟩, kind, hmem, rest, rfl, ha⟩
    · exact ⟨behind, ⟨0, by omega, .mathOperand operand⟩, ha⟩
    · obtain rfl := List.mem_singleton.mp hmem
      exact ⟨rest, ⟨n + 1, by omega, .mathGroup h⟩, ha⟩

theorem then_mathExpression (limit : Nat) (after : Demand) :
    (production .mathExpression).Then limit after =
      (production .mathTerm).Then limit (operations.Then limit after) := by
  funext depth kinds
  apply propext
  constructor
  · intro hthen
    obtain ⟨rest, ⟨n, hn, h⟩, ha⟩ := hthen
    cases h with
    | mathExpression first more =>
      exact ⟨_, ⟨_, by omega, first⟩, rest, ⟨_, by omega, more⟩, ha⟩
  · intro hthen
    obtain ⟨middle, ⟨m, hm, first⟩, rest, ⟨n, hn, more⟩, ha⟩ := hthen
    exact ⟨rest, ⟨max m n, by omega, .mathExpression first more⟩, ha⟩

theorem then_operations :
    operations.Then limit after depth kinds ↔ after depth kinds ∨
      ∃ sign ∈ [.addOp, .subtractOp, .multiplyOp, .divideOp], ∃ behind, kinds = sign :: behind ∧
        (production .mathTerm).Then limit (operations.Then limit after) depth behind := by
  constructor
  · intro hthen
    obtain ⟨rest, ⟨n, hn, h⟩, ha⟩ := hthen
    cases h with
    | noOperation => exact .inl ha
    | operation arithmetic term more =>
      exact .inr ⟨_, arithmetic, _, rfl, _, ⟨_, by omega, term⟩, rest, ⟨_, by omega, more⟩, ha⟩
  · intro hthen
    rcases hthen with ha | ⟨sign, arithmetic, behind, rfl, middle, hterm, rest, hmore, ha⟩
    · exact ⟨kinds, ⟨0, by omega, .noOperation⟩, ha⟩
    · obtain ⟨m, hm, term⟩ := hterm
      obtain ⟨n, hn, more⟩ := hmore
      exact ⟨rest, ⟨max m n, by omega, .operation arithmetic term more⟩, ha⟩

theorem then_booleanTerm {kind : Kind} {behind : List Kind} :
    (production .booleanTerm).Then limit after depth (kind :: behind) ↔
      (kind ∈ [.stringLiteral, .identifier, .trueWord, .falseWord, .undefinedWord, .nullWord] ∧
        after depth behind) ∨
      (kind = .number ∧ (production .mathExpression).Then limit after depth (kind :: behind)) ∨
      (kind = .leftParen ∧ demand limit after
        [enter .booleanTerm, .production .booleanExpression, one .rightParen .booleanTerm, leave]
        depth behind) := by
  constructor
  · intro hthen
    obtain ⟨rest, ⟨n, hn, h⟩, ha⟩ := hthen
    cases h with
    | booleanOperand operand => exact .inl ⟨operand, ha⟩
    | arithmetic expression => exact .inr (.inl ⟨rfl, rest, ⟨n, hn, expression⟩, ha⟩)
    | booleanGroup inner =>
      exact .inr (.inr ⟨rfl, by omega, _, ⟨_, by omega, inner⟩, _, List.mem_singleton_self _, rest,
        rfl, ha⟩)
  · intro hthen
    rcases hthen with ⟨operand, ha⟩ | ⟨rfl, rest, ⟨n, hn, h⟩, ha⟩ |
      ⟨rfl, hd, middle, ⟨n, hn, h⟩, kind, hmem, rest, rfl, ha⟩
    · exact ⟨behind, ⟨0, by omega, .booleanOperand operand⟩, ha⟩
    · exact ⟨rest, ⟨n, hn, .arithmetic h⟩, ha⟩
    · obtain rfl := List.mem_singleton.mp hmem
      exact ⟨rest, ⟨n + 1, by omega, .booleanGroup h⟩, ha⟩

theorem then_booleanExpression (limit : Nat) (after : Demand) :
    (production .booleanExpression).Then limit after =
      (production .booleanTerm).Then limit (comparisons.Then limit after) := by
  funext depth kinds
  apply propext
  constructor
  · intro hthen
    obtain ⟨rest, ⟨n, hn, h⟩, ha⟩ := hthen
    cases h with
    | booleanExpression first more =>
      exact ⟨_, ⟨_, by omega, first⟩, rest, ⟨_, by omega, more⟩, ha⟩
  · intro hthen
    obtain ⟨middle, ⟨m, hm, first⟩, rest, ⟨n, hn, more⟩, ha⟩ := hthen
    exact ⟨rest, ⟨max m n, by omega, .booleanExpression first more⟩, ha⟩

theorem then_comparisons :
    comparisons.Then limit after depth kinds ↔ after depth kinds ∨
      ∃ behind, kinds = .relOp :: behind ∧
        (production .booleanTerm).Then limit (comparisons.Then limit after) depth behind := by
  constructor
  · intro hthen
    obtain ⟨rest, ⟨n, hn, h⟩, ha⟩ := hthen
    cases h with
    | noComparison => exact .inl ha
    | comparison term more =>
      exact .inr ⟨_, rfl, _, ⟨_, by omega, term⟩, rest, ⟨_, by omega, more⟩, ha⟩
  · intro hthen
    rcases hthen with ha | ⟨behind, rfl, middle, ⟨m, hm, term⟩, rest, ⟨n, hn, more⟩, ha⟩
    · exact ⟨kinds, ⟨0, by omega, .noComparison⟩, ha⟩
    · exact ⟨rest, ⟨max m n, by omega, .comparison term more⟩, ha⟩

theorem then_endOfStatement :
    (production .endOfStatement).Then limit after depth kinds ↔
      (∃ behind, kinds = .semicolon :: behind ∧
        ∃ rest, Optionally .newline behind rest ∧ after depth rest) ∨
      (∃ behind, kinds = .newline :: behind ∧ after depth behind) ∨
      ((kinds = [] ∨ ∃ behind, kinds = .rightBrace :: behind) ∧ after depth kinds) := by
  constructor
  · intro hthen
    obtain ⟨rest, ⟨n, hn, h⟩, ha⟩ := hthen
    cases h with
    | semicolon lineBreak => exact .inl ⟨_, rfl, rest, lineBreak, ha⟩
    | lineBreak => exact .inr (.inl ⟨rest, rfl, ha⟩)
    | beforeBrace => exact .inr (.inr ⟨.inr ⟨_, rfl⟩, ha⟩)
    | atEnd => exact .inr (.inr ⟨.inl rfl, ha⟩)
  · intro hthen
    rcases hthen with ⟨behind, rfl, rest, lineBreak, ha⟩ | ⟨behind, rfl, ha⟩ |
      ⟨rfl | ⟨behind, rfl⟩, ha⟩
    · exact ⟨rest, ⟨0, by omega, .semicolon lineBreak⟩, ha⟩
    · exact ⟨behind, ⟨0, by omega, .lineBreak⟩, ha⟩
    · exact ⟨[], ⟨0, by omega, .atEnd⟩, ha⟩
    · exact ⟨_, ⟨0, by omega, .beforeBrace⟩, ha⟩

theorem then_assignmentStatement (limit : Nat) (after : Demand) :
    (production .assignmentStatement).Then limit after =
      demand limit after [oneOf [.identifier, .arrayElement] .assignmentStatement,
        one .assign .assignmentStatement, .production .mathExpression,
        .production .endOfStatement] := by
  funext depth kinds
  apply propext
  constructor
  · intro hthen
    obtain ⟨rest, ⟨n, hn, h⟩, ha⟩ := hthen
    cases h with
    | assignment assignable value terminator =>
      exact ⟨_, assignable, _, rfl, _, List.mem_singleton_self _, _, rfl, _, ⟨n, hn, value⟩, rest,
        ⟨0, by omega, terminator⟩, ha⟩
  · intro hthen
    obtain ⟨target, assignable, _, rfl, _, hmem, behind, rfl, middle, hvalue, rest, hend, ha⟩ :=
      hthen
    obtain ⟨m, hm, value⟩ := hvalue
    obtain ⟨n, hn, terminator⟩ := hend
    obtain rfl := List.mem_singleton.mp hmem
    obtain rfl : n = 0 := by cases terminator <;> rfl
    exact ⟨rest, ⟨m, hm, .assignment assignable value terminator⟩, ha⟩

theorem then_blockStatement (limit : Nat) (after : Demand) :
    (production .blockStatement).Then limit after =
      demand limit after [one .leftBrace .blockStatement, optional .newline, enter .blockStatement,
        .statements, leave, one .rightBrace .blockStatement] := by
  funext depth kinds
  apply propext
  constructor
  · intro hthen
    obtain ⟨rest, ⟨n, hn, h⟩, ha⟩ := hthen
    cases h with
    | block lineBreak inner =>
      exact ⟨_, List.mem_singleton_self _, _, rfl, _, lineBreak, by omega, _, ⟨_, by omega, inner⟩,
        _, List.mem_singleton_self _, rest, rfl, ha⟩
  · intro hthen
    obtain ⟨_, hmem, _, rfl, inner, lineBreak, hd, middle, ⟨n, hn, h⟩, _, hmem', rest, rfl, ha⟩ :=
      hthen
    obtain rfl := List.mem_singleton.mp hmem
    obtain rfl := List.mem_singleton.mp hmem'
    exact ⟨rest, ⟨n + 1, by omega, .block lineBreak h⟩, ha⟩

theorem then_statement :
    (production .statement).Then limit after depth kinds ↔
      (production .blockStatement).Then limit after depth kinds ∨
        (production .assignmentStatement).Then limit after depth kinds := by
  constructor
  · intro hthen
    obtain ⟨rest, ⟨n, hn, h⟩, ha⟩ := hthen
    cases h with
    | blockStatement block => exact .inl ⟨rest, ⟨n, hn, block⟩, ha⟩
    | assignmentStatement assignment => exact .inr ⟨rest, ⟨n, hn, assignment⟩, ha⟩
  · intro hthen
    rcases hthen with ⟨rest, ⟨n, hn, h⟩, ha⟩ | ⟨rest, ⟨n, hn, h⟩, ha⟩
    · exact ⟨rest, ⟨n, hn, .blockStatement h⟩, ha⟩
    · exact ⟨rest, ⟨n, hn, .assignmentStatement h⟩, ha⟩

theorem then_statements :
    statements.Then limit after depth kinds ↔ after depth kinds ∨
      (production .statement).Then limit (statements.Then limit after) depth kinds := by
  constructor
  · intro hthen
    obtain ⟨rest, ⟨n, hn, h⟩, ha⟩ := hthen
    cases h with
    | noStatement => exact .inl ha
    | oneStatement first more =>
      exact .inr ⟨_, ⟨_, by omega, first⟩, rest, ⟨_, by omega, more⟩, ha⟩
  · intro hthen
    rcases hthen with ha | ⟨middle, ⟨m, hm, first⟩, rest, ⟨n, hn, more⟩, ha⟩
    · exact ⟨kinds, ⟨0, by omega, .noStatement⟩, ha⟩
    · exact ⟨rest, ⟨max m n, by omega, .oneStatement first more⟩, ha⟩

theorem then_whileStatement (limit : Nat) (after : Demand) :
    (production .whileStatement).Then limit after =
      demand limit after [one .whileWord .whileStatement, one .leftParen .whileStatement,
        .production .booleanExpression, one .rightParen .whileStatement, optional .newline,
        .production .statement, optional .newline] := by
  funext depth kinds
  apply propext
  constructor
  · intro hthen
    obtain ⟨rest, ⟨n, hn, h⟩, ha⟩ := hthen
    cases h with
    | loop condition lineBreak body lineBreak' =>
      exact ⟨_, List.mem_singleton_self _, _, rfl, _, List.mem_singleton_self _, _, rfl, _,
        ⟨_, by omega, condition⟩, _, List.mem_singleton_self _, _, rfl, _, lineBreak, _,
        ⟨_, by omega, body⟩, rest, lineBreak', ha⟩
  · intro hthen
    obtain ⟨_, hmem, _, rfl, _, hmem₁, behind, rfl, _, ⟨m, hm, condition⟩, _, hmem₂, _, rfl, _,
      lineBreak, _, ⟨n, hn, body⟩, rest, lineBreak', ha⟩ := hthen
    obtain rfl := List.mem_singleton.mp hmem
    obtain rfl := List.mem_singleton.mp hmem₁
    obtain rfl := List.mem_singleton.mp hmem₂
    exact ⟨rest, ⟨max m n, by omega, .loop condition lineBreak body lineBreak'⟩, ha⟩

theorem not_then_nil {rule : Rule} (hrule : rule ≠ .endOfStatement) :
    ¬ (production rule).Then limit after depth [] := by
  intro h
  cases rule with
  | endOfStatement => exact hrule rfl
  | mathTerm =>
    obtain ⟨rest, ⟨n, -, h⟩, -⟩ := h
    cases h
  | mathExpression =>
    obtain ⟨middle, ⟨n, -, h⟩, -⟩ := then_mathExpression limit after ▸ h
    cases h
  | booleanTerm =>
    obtain ⟨rest, ⟨n, -, h⟩, -⟩ := h
    cases h
  | booleanExpression =>
    obtain ⟨middle, ⟨n, -, h⟩, -⟩ := then_booleanExpression limit after ▸ h
    cases h
  | assignmentStatement =>
    obtain ⟨_, _, _, hk, -⟩ := then_assignmentStatement limit after ▸ h
    cases hk
  | blockStatement =>
    obtain ⟨_, _, _, hk, -⟩ := then_blockStatement limit after ▸ h
    cases hk
  | statement =>
    rcases then_statement.mp h with h | h
    · obtain ⟨_, _, _, hk, -⟩ := then_blockStatement limit after ▸ h
      cases hk
    · obtain ⟨_, _, _, hk, -⟩ := then_assignmentStatement limit after ▸ h
      cases hk
  | whileStatement =>
    obtain ⟨_, _, _, hk, -⟩ := then_whileStatement limit after ▸ h
    cases hk

end Part

end LoopScript
