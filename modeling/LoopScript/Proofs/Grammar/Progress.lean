import Mathlib.Algebra.GroupWithZero.Nat
import LoopScript.Proofs.Grammar.Expansion

/-! What goals come to between one kind and the next. A goal may turn to a production without
taking a kind, and every production but a terminator takes one before it is met. So the turns of the
goals up to one more kind can be counted, although statements come up again behind each statement
that they turn to. -/
namespace LoopScript

namespace Goal

open Answer

variable {limit : Option Nat} {next : Option Kind} {kind : Kind} {kinds : List Kind} {goal : Goal}
  {goals more : List Goal} {rule : Rule} {depth depth' : Nat}

/-! ### How many kinds a production takes -/

theorem expands_of_took (h : settle limit (some kind) [goal] depth = .took goals depth') :
    Expands kind goal goals := by
  unfold settle at h
  split at h
  · next hr =>
    cases h
    rw [List.append_nil]
    exact (expands_of_respond hr).1
  · cases h
  · cases h

theorem eq_nil_of_takes_nil (h : Takes limit kinds [] depth goals depth') : kinds = [] := by
  cases h with
  | nil => rfl
  | cons hs _ => cases hs

theorem length_le_of_takes_optional (h : Takes limit kinds [optional kind] depth goals depth') :
    kinds.length ≤ 1 := by
  cases h with
  | nil => simp
  | cons hs h =>
    cases expands_of_took hs with
    | optional => simp [eq_nil_of_takes_nil h]

theorem length_le_of_takes_endOfStatement
    (h : Takes limit kinds [production .endOfStatement] depth goals depth') : kinds.length ≤ 2 := by
  cases h with
  | nil => simp
  | cons hs h =>
    cases expands_of_took hs with
    | semicolon => exact Nat.succ_le_succ (length_le_of_takes_optional h)
    | lineBreak => simp [eq_nil_of_takes_nil h]

theorem ne_nil_of_takes {depth'' : Nat} (hrule : rule ≠ .endOfStatement)
    (h : Takes limit kinds [production rule] depth goals depth')
    (hs : settle limit next goals depth' = .done depth'') : kinds ≠ [] := by
  cases h with
  | nil =>
    unfold settle at hs
    split at hs
    · cases hs
    · next hr => exact absurd (congrArg Prod.fst hr) (onRule_ne_pass rule hrule next)
    · cases hs
  | cons => simp

/-! ### Turning to a production -/

/-- The production that the goal turns to at a lookahead without taking it, and the goals that it
leaves to be met behind that. -/
def calls? (next : Option Kind) : Goal → Option (Rule × List Goal)
  | production .statement =>
    match next with
    | some .leftBrace => some (.blockStatement, [])
    | some .identifier | some .arrayElement => some (.assignmentStatement, [])
    | _ => none
  | production .booleanExpression => some (.booleanTerm, [comparisons])
  | production .booleanTerm => if next = some .number then some (.mathExpression, []) else none
  | production .mathExpression => some (.mathTerm, [operations])
  | statements =>
    if next = none ∨ next = some .rightBrace then none else some (.statement, [statements])
  | _ => none

theorem respond_of_calls (limit : Option Nat) (depth : Nat)
    (h : goal.calls? next = some (rule, more)) :
    rule ≠ .endOfStatement ∧ closings more = 0 ∧
      goal.respond limit next depth = ((onRule rule next).andThen more, depth) := by
  unfold calls? at h
  split at h
  · split at h <;> cases h <;> exact ⟨by decide, rfl, rfl⟩
  · cases h
    exact ⟨by decide, rfl, rfl⟩
  · split at h
    · next hnext =>
      cases h
      rw [hnext]
      exact ⟨by decide, rfl, rfl⟩
    · cases h
  · cases h
    exact ⟨by decide, rfl, rfl⟩
  · split at h
    · cases h
    · next hnext =>
      cases h
      refine ⟨by decide, rfl, ?_⟩
      cases next with
      | none => simp at hnext
      | some kind =>
        have hkind : kind ≠ .rightBrace := by simpa using hnext
        simp only [respond, onStatements_some, if_neg hkind]
        rfl
  · cases h

theorem settle_of_calls (h : goal.calls? next = some (rule, more)) :
    settle limit next (goal :: goals) depth =
      settle limit next (production rule :: (more ++ goals)) depth := by
  obtain ⟨hrule, hclosings, hrespond⟩ := respond_of_calls limit depth h
  have hproduction : (production rule).respond limit next depth = (onRule rule next, depth) := rfl
  have hgoal (rule : Rule) : goal ≠ enter rule := by
    rintro rfl
    cases h
  have hbehind : (production rule).closingsBehind (more ++ goals) = goal.closingsBehind goals := by
    rw [closingsBehind_of_ne hgoal, closingsBehind, closings, List.count_append, ← closings,
      hclosings, Nat.zero_add, closings]
    nofun
  simp only [settle, hrespond, hproduction]
  cases hanswer : onRule rule next with
  | take front => simp only [Answer.andThen, List.append_assoc]
  | pass => exact absurd hanswer (onRule_ne_pass rule hrule next)
  | refuse error taken => simp only [Answer.andThen, hbehind]

/-! ### The turns of goals -/

/-- The turns of the goal, and of the productions that it turns to, up to a kind. -/
def rank : Goal → Nat
  | production .whileStatement => 12
  | production .booleanExpression => 6
  | production .booleanTerm => 4
  | production .mathExpression => 3
  | production .statement => 2
  | _ => 1

/-- The turns that a goal has in reserve because it can be met without a kind. -/
def slack : Goal → Nat
  | oneOf _ _ => 0
  | production rule => if rule = .endOfStatement then 6 else 0
  | _ => 6

/-- The turns of the goals up to one more kind. Only the first has its reserve counted. A goal
behind it comes up when a kind was taken, or when the first was met without one and leaves its
reserve. -/
def cost : List Goal → Nat
  | [] => 0
  | goal :: goals => goal.rank + goal.slack + (goals.map rank).sum

theorem rank_pos (goal : Goal) : 0 < goal.rank := by
  unfold rank
  split <;> decide

theorem slack_le (goal : Goal) : goal.slack ≤ 6 := by
  unfold slack
  split
  · decide
  · split <;> decide
  · decide

theorem cost_le (goals : List Goal) : cost goals ≤ (goals.map rank).sum + 6 := by
  cases goals with
  | nil => exact Nat.zero_le _
  | cons goal goals =>
    have hslack : goal.slack ≤ 6 := slack_le goal
    simp only [cost, List.map_cons, List.sum_cons]
    omega

theorem slack_of_pass (h : goal.respond limit next depth = (.pass, depth')) : goal.slack = 6 := by
  cases goal with
  | oneOf kinds rule => exact absurd (congrArg Prod.fst h) (onOneOf_ne_pass kinds rule next)
  | production rule =>
    by_cases hrule : rule = .endOfStatement
    · rw [hrule]
      rfl
    · exact absurd (congrArg Prod.fst h) (onRule_ne_pass rule hrule next)
  | _ => rfl

theorem cost_of_pass (h : goal.respond limit next depth = (.pass, depth')) :
    cost goals < cost (goal :: goals) := by
  have hgoals : cost goals ≤ (goals.map rank).sum + 6 := cost_le goals
  have hrank : 0 < goal.rank := rank_pos goal
  rw [cost, slack_of_pass h]
  omega

/-- Statements pay with their reserve for the statement that they turn to. -/
theorem rank_of_calls (h : goal.calls? next = some (rule, more)) :
    (production rule).rank + (production rule).slack + (more.map rank).sum <
      goal.rank + goal.slack := by
  unfold calls? at h
  split at h
  · split at h <;> cases h <;> decide
  · cases h
    decide
  · split at h <;> cases h
    decide
  · cases h
    decide
  · split at h <;> cases h
    decide
  · cases h

theorem cost_of_calls (h : goal.calls? next = some (rule, more)) :
    cost (production rule :: (more ++ goals)) < cost (goal :: goals) := by
  have hrank := rank_of_calls h
  rw [cost, cost, List.map_append, List.sum_append]
  omega

/-- A kind pays for what a goal leaves in its place. -/
theorem rank_of_expands (h : Expands kind goal more) :
    (more.map rank).sum < goal.rank + goal.slack + 6 := by
  induction h with
  -- What the first term or statement leaves, and one more turn for the chain behind it.
  | mathExpression _ ih | booleanExpression _ ih | oneStatement _ ih =>
    simp only [rank, slack, reduceCtorEq, if_false, List.map_append, List.map_cons, List.map_nil,
      List.sum_append, List.sum_cons, List.sum_nil] at ih ⊢
    omega
  | arithmetic _ ih | blockStatement _ ih | assignmentStatement _ ih =>
    simp only [rank, slack, reduceCtorEq, if_false] at ih ⊢
    omega
  | oneOf | optional => simp [rank, slack]
  | _ => decide

theorem cost_of_expands (h : Expands kind goal more) :
    cost (more ++ goals) < cost (goal :: goals) + 12 := by
  have hmore := rank_of_expands h
  have hcost : cost (more ++ goals) ≤ ((more ++ goals).map rank).sum + 6 := cost_le _
  rw [List.map_append, List.sum_append] at hcost
  rw [cost]
  omega

end Goal

namespace Cursor

theorem follow_congr {limit : Option Nat} {kinds : List Kind} {goals goals' : List Goal}
    {depth depth' : Nat}
    (h : Goal.settle limit kinds.head? goals depth = Goal.settle limit kinds.head? goals' depth')
    (position : Nat) :
    follow limit kinds goals position depth = follow limit kinds goals' position depth' := by
  cases kinds with
  | nil =>
    rw [List.head?_nil] at h
    simp only [follow, h]
  | cons kind kinds =>
    rw [List.head?_cons] at h
    simp only [follow, h]

theorem exists_of_takeIf {c c' : Cursor} {kind : Kind} (h : c.takeIf kind = (true, c')) :
    ∃ kinds, c.rest = kind :: kinds ∧ c' = ⟨kinds, c.position + 1, c.depth⟩ := by
  unfold takeIf at h
  split at h
  · cases h
  · next found kinds hrest =>
    split at h
    · next hfound =>
      cases h
      exact ⟨kinds, hfound ▸ hrest, rfl⟩
    · cases h

theorem position_of_matchWithin {limit : Option Nat} {rule : Rule} {c c' : Cursor}
    (h : c.matchWithin limit rule = (.ok (), c')) :
    if rule = .endOfStatement then c'.position ≤ c.position + 2 else c.position < c'.position := by
  obtain ⟨taken, goals, depth, -, hposition, ht, hs⟩ := exists_of_follow_ok h
  split
  · next hrule =>
    rw [hrule] at ht
    have hlength : taken.length ≤ 2 := Goal.length_le_of_takes_endOfStatement ht
    omega
  · next hrule =>
    have hlength : 0 < taken.length :=
      List.length_pos_iff.mpr (Goal.ne_nil_of_takes hrule ht hs)
    omega

end Cursor

end LoopScript
