import LoopScript.Proofs.Grammar.Run

/-! What a goal can leave in its place when a kind is taken. All that a run preserves follows from
these cases. -/
namespace LoopScript.Goal

open Answer

/-- Taking the kind, the goal leaves `more` to be met. Which kind it is matters only where a level is
going to open. -/
inductive Expands : Kind → Goal → List Goal → Prop
  | oneOf {kind kinds rule} : Expands kind (.oneOf kinds rule) []
  | optional {kind kind'} : Expands kind (.optional kind') []
  | mathOperand {kind} : Expands kind (production .mathTerm) []
  | mathGroup : Expands .leftParen (production .mathTerm)
      [enter .mathTerm, production .mathExpression, one .rightParen .mathTerm, leave]
  | mathExpression {kind more} (first : Expands kind (production .mathTerm) more) :
      Expands kind (production .mathExpression) (more ++ [operations])
  | operation {kind} : Expands kind operations [production .mathTerm, operations]
  | booleanOperand {kind} : Expands kind (production .booleanTerm) []
  | arithmetic {kind more} (expression : Expands kind (production .mathExpression) more) :
      Expands kind (production .booleanTerm) more
  | booleanGroup : Expands .leftParen (production .booleanTerm)
      [enter .booleanTerm, production .booleanExpression, one .rightParen .booleanTerm, leave]
  | booleanExpression {kind more} (first : Expands kind (production .booleanTerm) more) :
      Expands kind (production .booleanExpression) (more ++ [comparisons])
  | comparison {kind} : Expands kind comparisons [production .booleanTerm, comparisons]
  | semicolon {kind} : Expands kind (production .endOfStatement) [.optional .newline]
  | lineBreak {kind} : Expands kind (production .endOfStatement) []
  | assignment {kind} : Expands kind (production .assignmentStatement)
      [one .assign .assignmentStatement, production .mathExpression, production .endOfStatement]
  | block : Expands .leftBrace (production .blockStatement)
      [.optional .newline, enter .blockStatement, statements, leave,
       one .rightBrace .blockStatement]
  | blockStatement {kind more} (block : Expands kind (production .blockStatement) more) :
      Expands kind (production .statement) more
  | assignmentStatement {kind more}
      (assignment : Expands kind (production .assignmentStatement) more) :
      Expands kind (production .statement) more
  | oneStatement {kind more} (first : Expands kind (production .statement) more) :
      Expands kind statements (more ++ [statements])
  | loop {kind} : Expands kind (production .whileStatement)
      [one .leftParen .whileStatement, production .booleanExpression,
       one .rightParen .whileStatement, .optional .newline, production .statement,
       .optional .newline]

private theorem exists_of_andThen {answer : Answer} {tail more : List Goal}
    (h : answer.andThen tail = take more) : ∃ front, answer = take front ∧ more = front ++ tail := by
  cases answer with
  | take front =>
    cases h
    exact ⟨front, rfl, rfl⟩
  | pass => cases h
  | refuse error taken => cases h

private theorem of_onOneOf {kinds : List Kind} {rule : Rule} {kind : Kind} {more : List Goal}
    (h : onOneOf kinds rule (some kind) = take more) : more = [] ∧ kind ∈ kinds := by
  unfold onOneOf at h
  split at h
  · next hkind =>
    cases h
    exact ⟨rfl, List.contains_iff_mem.mp hkind⟩
  · cases h

private theorem expands_onMathTerm {kind : Kind} {more : List Goal}
    (h : onMathTerm (some kind) = take more) : Expands kind (production .mathTerm) more := by
  rw [onMathTerm_some] at h
  split at h
  · cases h
    exact .mathOperand
  · split at h
    · next hparen =>
      cases h
      rw [hparen]
      exact .mathGroup
    · cases h

private theorem expands_onMathExpression {kind : Kind} {more : List Goal}
    (h : onMathExpression (some kind) = take more) :
    Expands kind (production .mathExpression) more := by
  obtain ⟨front, hfront, rfl⟩ := exists_of_andThen h
  exact .mathExpression (expands_onMathTerm hfront)

private theorem expands_onBooleanTerm {kind : Kind} {more : List Goal}
    (h : onBooleanTerm (some kind) = take more) : Expands kind (production .booleanTerm) more := by
  rw [onBooleanTerm_some] at h
  split at h
  · cases h
    exact .booleanOperand
  · split at h
    · exact .arithmetic (expands_onMathExpression h)
    · split at h
      · next hparen =>
        cases h
        rw [hparen]
        exact .booleanGroup
      · cases h

private theorem expands_onEndOfStatement {kind : Kind} {more : List Goal}
    (h : onEndOfStatement (some kind) = take more) :
    Expands kind (production .endOfStatement) more := by
  rw [onEndOfStatement_some] at h
  split at h
  · cases h
  · split at h
    · cases h
      exact .semicolon
    · split at h
      · cases h
        exact .lineBreak
      · cases h

private theorem expands_onAssignmentStatement {kind : Kind} {more : List Goal}
    (h : onAssignmentStatement (some kind) = take more) :
    Expands kind (production .assignmentStatement) more := by
  obtain ⟨front, hfront, rfl⟩ := exists_of_andThen h
  obtain ⟨rfl, _⟩ := of_onOneOf hfront
  exact .assignment

private theorem expands_onBlockStatement {kind : Kind} {more : List Goal}
    (h : onBlockStatement (some kind) = take more) :
    Expands kind (production .blockStatement) more := by
  obtain ⟨front, hfront, rfl⟩ := exists_of_andThen h
  obtain ⟨rfl, hkind⟩ := of_onOneOf hfront
  rw [List.mem_singleton.mp hkind]
  exact .block

private theorem expands_onStatement {kind : Kind} {more : List Goal}
    (h : onStatement (some kind) = take more) : Expands kind (production .statement) more := by
  rw [onStatement_some] at h
  split at h
  · exact .blockStatement (expands_onBlockStatement h)
  · split at h
    · exact .assignmentStatement (expands_onAssignmentStatement h)
    · cases h

private theorem expands_onRule {rule : Rule} {kind : Kind} {more : List Goal}
    (h : onRule rule (some kind) = take more) : Expands kind (production rule) more := by
  cases rule with
  | whileStatement =>
    obtain ⟨front, hfront, rfl⟩ := exists_of_andThen h
    obtain ⟨rfl, _⟩ := of_onOneOf hfront
    exact .loop
  | statement => exact expands_onStatement h
  | blockStatement => exact expands_onBlockStatement h
  | assignmentStatement => exact expands_onAssignmentStatement h
  | endOfStatement => exact expands_onEndOfStatement h
  | booleanExpression =>
    obtain ⟨front, hfront, rfl⟩ := exists_of_andThen h
    exact .booleanExpression (expands_onBooleanTerm hfront)
  | booleanTerm => exact expands_onBooleanTerm h
  | mathExpression => exact expands_onMathExpression h
  | mathTerm => exact expands_onMathTerm h

theorem expands_of_respond {limit : Option Nat} {kind : Kind} {goal : Goal}
    {more : List Goal} {depth depth' : Nat}
    (hr : goal.respond limit (some kind) depth = (take more, depth')) :
    Expands kind goal more ∧ depth' = depth := by
  have ha := congrArg Prod.fst hr
  have hdepth := congrArg Prod.snd hr
  cases goal with
  | oneOf kinds rule =>
    obtain ⟨rfl, _⟩ := of_onOneOf ha
    exact ⟨.oneOf, hdepth.symm⟩
  | optional kind' =>
    simp only [respond, onOptional] at ha
    split at ha <;> cases ha
    exact ⟨.optional, hdepth.symm⟩
  | production rule => exact ⟨expands_onRule ha, hdepth.symm⟩
  | comparisons =>
    simp only [respond, onComparisons] at ha
    split at ha <;> cases ha
    exact ⟨.comparison, hdepth.symm⟩
  | operations =>
    simp only [respond, onOperations_some] at ha
    split at ha <;> cases ha
    exact ⟨.operation, hdepth.symm⟩
  | statements =>
    simp only [respond, onStatements_some] at ha
    split at ha
    · cases ha
    · obtain ⟨front, hfront, rfl⟩ := exists_of_andThen ha
      exact ⟨.oneStatement (expands_onStatement hfront), hdepth.symm⟩
  | enter rule =>
    simp only [respond] at ha
    split at ha <;> cases ha
  | leave => cases ha

/-- What taking a kind preserves at the goal that takes it, and passing over preserves at every
goal in front of it, one lookahead preserves for all goals. -/
theorem preserves_of_settle {limit : Option Nat} {kind : Kind} {P : List Goal → Nat → Prop}
    (htake : ∀ goal more goals depth, Expands kind goal more → P (goal :: goals) depth →
      P (more ++ goals) depth)
    (hpass : ∀ goal goals depth depth', goal.respond limit (some kind) depth = (.pass, depth') →
      P (goal :: goals) depth → P goals depth')
    {goals goals' : List Goal} {depth depth' : Nat} (hp : P goals depth)
    (hs : settle limit (some kind) goals depth = .took goals' depth') : P goals' depth' := by
  induction goals generalizing depth with
  | nil => cases hs
  | cons goal goals ih =>
    unfold settle at hs
    split at hs
    · next more depth₁ hr =>
      cases hs
      obtain ⟨hexpands, rfl⟩ := expands_of_respond hr
      exact htake goal more goals depth' hexpands hp
    · next depth₁ hr => exact ih (hpass goal goals depth depth₁ hr hp) hs
    · cases hs

end LoopScript.Goal
