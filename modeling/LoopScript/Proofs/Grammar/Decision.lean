import LoopScript.Proofs.Grammar.Answer
import LoopScript.Proofs.Grammar.Demand

/-! The answer of a production at a lookahead against what the grammar demands there. A production
never takes the wrong kind, and what it leaves to be met is what the grammar still demands. -/
namespace LoopScript

open Goal

/-- The answer to `kinds` leaves as much to be met as `first` demands of them. -/
def Answer.Decides (limit : Nat) (first : Demand → Demand) (kinds : List Kind) : Answer → Prop
  | .take more => ∃ kind behind, kinds = kind :: behind ∧ ∀ after depth,
      demand limit after more depth behind ↔ first after depth kinds
  | .pass => ∀ after depth, first after depth kinds ↔ after depth kinds
  | .refuse _ _ => ∀ after depth, ¬ first after depth kinds

namespace Answer.Decides

variable {limit : Nat} {first : Demand → Demand} {answer : Answer}

theorem take_iff {kind : Kind} {behind : List Kind} {more : List Goal}
    (h : answer.Decides limit first (kind :: behind)) (ha : answer = .take more) (after : Demand)
    (depth : Nat) : demand limit after more depth behind ↔ first after depth (kind :: behind) := by
  subst ha
  obtain ⟨_, _, hk, hd⟩ := h
  cases hk
  exact hd after depth

theorem pass_iff {kinds : List Kind} (h : answer.Decides limit first kinds)
    (ha : answer = .pass) (after : Demand) (depth : Nat) :
    first after depth kinds ↔ after depth kinds := by
  subst ha
  exact h after depth

theorem not_refuse {kinds : List Kind} {error : GrammarError} {taken : Bool}
    (h : answer.Decides limit first kinds) (ha : answer = .refuse error taken) (after : Demand)
    (depth : Nat) : ¬ first after depth kinds := by
  subst ha
  exact h after depth

end Answer.Decides

namespace Goal

open Answer LoopScript.Part

variable {limit : Nat}

theorem decides_andThen {answer : Answer} {first : Demand → Demand} {kinds : List Kind}
    (h : answer.Decides limit first kinds) (hpass : answer ≠ .pass) (more : List Goal) :
    (answer.andThen more).Decides limit (fun after => first (demand limit after more)) kinds := by
  cases answer with
  | take goals =>
    obtain ⟨kind, behind, rfl, hd⟩ := h
    refine ⟨kind, behind, rfl, fun after depth => ?_⟩
    rw [demand_append]
    exact hd _ depth
  | pass => exact absurd rfl hpass
  | refuse error taken => exact fun after depth => h _ depth

private theorem decides_congr {answer : Answer} {first first' : Demand → Demand}
    {kinds : List Kind} (h : ∀ after depth, first after depth kinds ↔ first' after depth kinds)
    (hd : answer.Decides limit first kinds) : answer.Decides limit first' kinds := by
  cases answer with
  | take more =>
    obtain ⟨kind, behind, rfl, hd⟩ := hd
    exact ⟨kind, behind, rfl, fun after depth => (hd after depth).trans (h after depth)⟩
  | pass => exact fun after depth => (h after depth).symm.trans (hd after depth)
  | refuse error taken => exact fun after depth => mt (h after depth).mpr (hd after depth)

theorem decides_onOneOf (options : List Kind) (rule : Rule) (kinds : List Kind) :
    (onOneOf options rule kinds.head?).Decides limit (Then limit (oneOf options rule)) kinds := by
  unfold onOneOf
  rcases kinds with _ | ⟨kind, behind⟩
  · intro after depth h
    obtain ⟨_, _, _, hk, -⟩ := h
    cases hk
  · rw [List.head?_cons, Option.any_some]
    split
    · next hmem =>
      refine ⟨kind, behind, rfl, fun after depth => ⟨fun ha => ?_, ?_⟩⟩
      · exact ⟨kind, List.contains_iff_mem.mp hmem, behind, rfl, ha⟩
      · intro h
        obtain ⟨_, _, _, hk, ha⟩ := h
        cases hk
        exact ha
    · next hmem =>
      intro after depth h
      obtain ⟨_, hoption, _, hk, -⟩ := h
      cases hk
      exact hmem (List.contains_iff_mem.mpr hoption)

theorem decides_onMathTerm (kinds : List Kind) :
    (onMathTerm kinds.head?).Decides limit ((Part.production .mathTerm).Then limit) kinds := by
  rcases kinds with _ | ⟨kind, behind⟩
  · exact fun after depth => not_then_nil (by decide)
  rw [List.head?_cons, onMathTerm_some]
  split
  · next operand =>
    refine ⟨kind, behind, rfl, fun after depth => ?_⟩
    have hparen : kind ≠ .leftParen := by rintro rfl; simp at operand
    simp only [then_mathTerm, operand, hparen, true_and, false_and, or_false]
    rfl
  · next operand =>
    split
    · next hparen =>
      subst hparen
      refine ⟨.leftParen, behind, rfl, fun after depth => ?_⟩
      simp [then_mathTerm]
    · next hparen =>
      intro after depth h
      rcases then_mathTerm.mp h with ⟨h, -⟩ | ⟨h, -⟩
      · exact operand h
      · exact hparen h

theorem decides_onMathExpression (kinds : List Kind) :
    (onMathExpression kinds.head?).Decides limit ((Part.production .mathExpression).Then limit)
      kinds := by
  have hpart : (Part.production .mathExpression).Then limit =
      fun after => (Part.production .mathTerm).Then limit (demand limit after [operations]) :=
    funext fun after => then_mathExpression limit after
  rw [hpart]
  exact decides_andThen (decides_onMathTerm kinds)
    (onRule_ne_pass .mathTerm (by decide) _) _

theorem decides_onBooleanTerm (kinds : List Kind) :
    (onBooleanTerm kinds.head?).Decides limit ((Part.production .booleanTerm).Then limit)
      kinds := by
  rcases kinds with _ | ⟨kind, behind⟩
  · exact fun after depth => not_then_nil (by decide)
  rw [List.head?_cons, onBooleanTerm_some]
  split
  · next operand =>
    refine ⟨kind, behind, rfl, fun after depth => ?_⟩
    have hnumber : kind ≠ .number := by rintro rfl; simp at operand
    have hparen : kind ≠ .leftParen := by rintro rfl; simp at operand
    simp only [then_booleanTerm, operand, hnumber, hparen, true_and, false_and, or_false]
    rfl
  · next operand =>
    split
    · next hnumber =>
      subst hnumber
      exact decides_congr (fun after depth => by simp [then_booleanTerm])
        (decides_onMathExpression (.number :: behind))
    · next hnumber =>
      split
      · next hparen =>
        subst hparen
        refine ⟨.leftParen, behind, rfl, fun after depth => ?_⟩
        simp [then_booleanTerm]
      · next hparen =>
        intro after depth h
        rcases then_booleanTerm.mp h with ⟨h, -⟩ | ⟨h, -⟩ | ⟨h, -⟩
        · exact operand h
        · exact hnumber h
        · exact hparen h

theorem decides_onBooleanExpression (kinds : List Kind) :
    (onBooleanExpression kinds.head?).Decides limit
      ((Part.production .booleanExpression).Then limit) kinds := by
  have hpart : (Part.production .booleanExpression).Then limit =
      fun after => (Part.production .booleanTerm).Then limit (demand limit after [comparisons]) :=
    funext fun after => then_booleanExpression limit after
  rw [hpart]
  exact decides_andThen (decides_onBooleanTerm kinds)
    (onRule_ne_pass .booleanTerm (by decide) _) _

theorem decides_onEndOfStatement (kinds : List Kind) :
    (onEndOfStatement kinds.head?).Decides limit ((Part.production .endOfStatement).Then limit)
      kinds := by
  rcases kinds with _ | ⟨kind, behind⟩
  · exact fun after depth => by simp [then_endOfStatement]
  rw [List.head?_cons, onEndOfStatement_some]
  split
  · next hbrace =>
    subst hbrace
    exact fun after depth => by simp [then_endOfStatement]
  · next hbrace =>
    split
    · next hsemicolon =>
      subst hsemicolon
      refine ⟨.semicolon, behind, rfl, fun after depth => ?_⟩
      simp [then_endOfStatement, demand, Then]
    · next hsemicolon =>
      split
      · next hnewline =>
        subst hnewline
        refine ⟨.newline, behind, rfl, fun after depth => ?_⟩
        simp [then_endOfStatement, demand]
      · next hnewline =>
        intro after depth h
        simp [then_endOfStatement, hbrace, hsemicolon, hnewline] at h

theorem decides_onAssignmentStatement (kinds : List Kind) :
    (onAssignmentStatement kinds.head?).Decides limit
      ((Part.production .assignmentStatement).Then limit) kinds := by
  rw [funext fun after => then_assignmentStatement limit after]
  exact decides_andThen (decides_onOneOf _ _ kinds) (onOneOf_ne_pass _ _ _) _

theorem decides_onBlockStatement (kinds : List Kind) :
    (onBlockStatement kinds.head?).Decides limit
      ((Part.production .blockStatement).Then limit) kinds := by
  rw [funext fun after => then_blockStatement limit after]
  exact decides_andThen (decides_onOneOf _ _ kinds) (onOneOf_ne_pass _ _ _) _

theorem decides_onStatement (kinds : List Kind) :
    (onStatement kinds.head?).Decides limit ((Part.production .statement).Then limit) kinds := by
  rcases kinds with _ | ⟨kind, behind⟩
  · exact fun after depth => not_then_nil (by decide)
  rw [List.head?_cons, onStatement_some]
  have hblock {after depth} (h : (Part.production .blockStatement).Then limit after depth
      (kind :: behind)) : kind = .leftBrace := by
    obtain ⟨_, hmem, _, hk, -⟩ := then_blockStatement limit _ ▸ h
    cases hk
    exact List.mem_singleton.mp hmem
  have hassignment {after depth} (h : (Part.production .assignmentStatement).Then limit after depth
      (kind :: behind)) : kind ∈ [.identifier, .arrayElement] := by
    obtain ⟨_, hmem, _, hk, -⟩ := then_assignmentStatement limit _ ▸ h
    cases hk
    exact hmem
  split
  · next hbrace =>
    refine decides_congr (fun after depth => ?_) (decides_onBlockStatement (kind :: behind))
    rw [then_statement, or_iff_left]
    intro h
    have htarget := hassignment h
    subst hbrace
    simp at htarget
  · next hbrace =>
    split
    · next htarget =>
      refine decides_congr (fun after depth => ?_) (decides_onAssignmentStatement (kind :: behind))
      rw [then_statement, or_iff_right]
      exact fun h => hbrace (hblock h)
    · next htarget =>
      intro after depth h
      rcases then_statement.mp h with h | h
      · exact hbrace (hblock h)
      · exact htarget (hassignment h)

theorem decides_onWhileStatement (kinds : List Kind) :
    (onWhileStatement kinds.head?).Decides limit
      ((Part.production .whileStatement).Then limit) kinds := by
  rw [funext fun after => then_whileStatement limit after]
  exact decides_andThen (decides_onOneOf _ _ kinds) (onOneOf_ne_pass _ _ _) _

/-- Every production answers as the grammar demands. -/
theorem decides_onRule (rule : Rule) (kinds : List Kind) :
    (onRule rule kinds.head?).Decides limit ((Part.production rule).Then limit) kinds := by
  cases rule with
  | whileStatement => exact decides_onWhileStatement kinds
  | statement => exact decides_onStatement kinds
  | blockStatement => exact decides_onBlockStatement kinds
  | assignmentStatement => exact decides_onAssignmentStatement kinds
  | endOfStatement => exact decides_onEndOfStatement kinds
  | booleanExpression => exact decides_onBooleanExpression kinds
  | booleanTerm => exact decides_onBooleanTerm kinds
  | mathExpression => exact decides_onMathExpression kinds
  | mathTerm => exact decides_onMathTerm kinds

/-- What is left to be met after a kind was taken, the goal demands in front of that kind. -/
theorem then_of_take {goal : Goal} {kind : Kind} {behind : List Kind} {more : List Goal}
    {depth depth' : Nat} {after : Demand}
    (hr : goal.respond (some limit) (some kind) depth = (take more, depth'))
    (h : demand limit after more depth' behind) : goal.Then limit after depth (kind :: behind) := by
  have ha := congrArg Prod.fst hr
  have hdepth := congrArg Prod.snd hr
  cases goal with
  | oneOf options rule =>
    obtain rfl : depth = depth' := hdepth
    exact ((decides_onOneOf options rule (kind :: behind)).take_iff ha after depth).mp h
  | production rule =>
    obtain rfl : depth = depth' := hdepth
    exact ((decides_onRule rule (kind :: behind)).take_iff ha after depth).mp h
  | optional kind' =>
    obtain rfl : depth = depth' := hdepth
    simp only [respond, onOptional] at ha
    split at ha
    · next hk =>
      cases ha
      cases hk
      exact ⟨behind, .inr rfl, h⟩
    · cases ha
  | comparisons =>
    obtain rfl : depth = depth' := hdepth
    simp only [respond, onComparisons] at ha
    split at ha
    · next hk =>
      cases ha
      cases hk
      exact then_comparisons.mpr (.inr ⟨behind, rfl, h⟩)
    · cases ha
  | operations =>
    obtain rfl : depth = depth' := hdepth
    simp only [respond, onOperations_some] at ha
    split at ha
    · next hsign =>
      cases ha
      exact then_operations.mpr (.inr ⟨kind, hsign, behind, rfl, h⟩)
    · cases ha
  | statements =>
    obtain rfl : depth = depth' := hdepth
    simp only [respond, onStatements_some] at ha
    split at ha
    · cases ha
    · have hd := decides_andThen (@decides_onStatement limit (kind :: behind))
        (onRule_ne_pass .statement (by decide) _) [statements]
      exact then_statements.mpr (.inr ((hd.take_iff ha after depth).mp h))
  | enter rule =>
    simp only [respond] at ha
    split at ha <;> cases ha
  | leave => cases ha

theorem then_of_pass {goal : Goal} (kinds : List Kind) {depth depth' : Nat} {after : Demand}
    (hr : goal.respond (some limit) kinds.head? depth = (pass, depth'))
    (h : after depth' kinds) : goal.Then limit after depth kinds := by
  have ha := congrArg Prod.fst hr
  have hdepth := congrArg Prod.snd hr
  cases goal with
  | oneOf options rule => exact absurd ha (onOneOf_ne_pass _ _ _)
  | production rule =>
    obtain rfl : depth = depth' := hdepth
    exact ((decides_onRule rule kinds).pass_iff ha after depth).mpr h
  | optional kind' =>
    obtain rfl : depth = depth' := hdepth
    exact ⟨kinds, .inl rfl, h⟩
  | comparisons =>
    obtain rfl : depth = depth' := hdepth
    exact then_comparisons.mpr (.inl h)
  | operations =>
    obtain rfl : depth = depth' := hdepth
    exact then_operations.mpr (.inl h)
  | statements =>
    obtain rfl : depth = depth' := hdepth
    exact then_statements.mpr (.inl h)
  | enter rule =>
    simp only [respond, Option.all_some, decide_eq_true_eq] at hr
    split at hr
    · next hlimit =>
      cases hr
      exact ⟨hlimit, h⟩
    · cases hr
  | leave =>
    obtain rfl : depth - 1 = depth' := hdepth
    exact h

end Goal

end LoopScript
