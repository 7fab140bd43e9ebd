import LoopScript.Proofs.Grammar.Expansion
import LoopScript.Proofs.Grammar.Language
import LoopScript.Proofs.Grammar.Lookahead

/-! Which production an error names, and where the kind stands that it refuses. A production that
asks for one of some kinds has taken what it refuses, and one that chooses by the lookahead has only
looked at it. -/
namespace LoopScript

namespace Rule

/-- The productions in whose name a match of this one can fail. -/
def blames : Rule → List Rule
  | mathExpression | mathTerm => [mathTerm]
  | booleanExpression | booleanTerm => [booleanTerm, mathTerm]
  | endOfStatement => [endOfStatement]
  | assignmentStatement => [assignmentStatement, mathTerm, endOfStatement]
  | statement | blockStatement =>
    [assignmentStatement, mathTerm, endOfStatement, statement, blockStatement]
  | whileStatement =>
    [assignmentStatement, mathTerm, endOfStatement, statement, blockStatement, whileStatement,
     booleanTerm]

def Begins (rule : Rule) (kind : Kind) : Prop := ∃ nesting word, rule.Derives nesting (kind :: word)

/-- Whether the production has taken a kind that it refuses. A boolean term looks at its first kind,
and takes the one at the end of a group. -/
def Refuses (found : Kind) (taken : Bool) : Rule → Prop
  | whileStatement | blockStatement | assignmentStatement | mathTerm => taken = true
  | statement | endOfStatement => taken = false
  | booleanTerm => if taken then found ≠ .rightParen else ¬ booleanTerm.Begins found
  | booleanExpression | mathExpression => False

theorem not_begins_booleanTerm {kind : Kind}
    (hoperand : kind ∉
      [.stringLiteral, .identifier, .trueWord, .falseWord, .undefinedWord, .nullWord])
    (hnumber : kind ≠ .number) (hparen : kind ≠ .leftParen) : ¬ booleanTerm.Begins kind := by
  intro h
  obtain ⟨nesting, word, h⟩ := h
  cases h with
  | booleanOperand operand => exact hoperand operand
  | arithmetic => exact hnumber rfl
  | booleanGroup => exact hparen rfl

end Rule

/-- The error is a refusal of the lookahead in the name of one of the rules. -/
def GrammarError.Fits (rules : List Rule) (next : Option Kind) (taken : Bool)
    (error : GrammarError) : Prop :=
  error.rule ∈ rules ∧ match error with
    | .unfinished rule => next = none ∧ taken = false ∧ rule ≠ .endOfStatement
    | .unexpected found rule => next = some found ∧ rule.Refuses found taken
    | .tooDeep rule => rule ∈ [.blockStatement, .booleanTerm, .mathTerm]

def Answer.Fits (rules : List Rule) (next : Option Kind) : Answer → Prop
  | refuse error taken => error.Fits rules next taken
  | take _ | pass => True

namespace Goal

open Answer

variable {rules : List Rule} {next : Option Kind}

/-! ### Answers -/

private theorem fits_andThen {answer : Answer} (h : answer.Fits rules next) (more : List Goal) :
    (answer.andThen more).Fits rules next := by
  cases answer <;> exact h

private theorem fits_reject {rule : Rule} (taken : Bool) (hrule : rule ∈ rules)
    (hend : next = none → rule ≠ .endOfStatement)
    (hfound : ∀ found ∈ next, rule.Refuses found taken) :
    (reject rule taken next).Fits rules next := by
  cases next with
  | none => exact ⟨hrule, rfl, rfl, hend rfl⟩
  | some found => exact ⟨hrule, rfl, hfound found rfl⟩

private theorem fits_onOneOf {kinds : List Kind} {rule : Rule} (hrule : rule ∈ rules)
    (hend : rule ≠ .endOfStatement) (hfound : ∀ found ∉ kinds, rule.Refuses found true) :
    (onOneOf kinds rule next).Fits rules next := by
  unfold onOneOf
  split
  · trivial
  · next hnot =>
    refine fits_reject true hrule (fun _ => hend) fun found hnext => hfound found ?_
    rw [hnext] at hnot
    simpa using hnot

private theorem fits_onMathTerm (hrule : .mathTerm ∈ rules) :
    (onMathTerm next).Fits rules next := by
  cases next with
  | none => exact fits_reject true hrule (by simp) (by simp)
  | some kind =>
    rw [onMathTerm_some]
    split
    · trivial
    · split
      · trivial
      · exact ⟨hrule, rfl, rfl⟩

private theorem fits_onBooleanTerm (hrule : .booleanTerm ∈ rules) (hmath : .mathTerm ∈ rules) :
    (onBooleanTerm next).Fits rules next := by
  cases next with
  | none => exact fits_reject false hrule (by simp) (by simp)
  | some kind =>
    rw [onBooleanTerm_some]
    split
    · trivial
    · next hoperand =>
      split
      · exact fits_andThen (fits_onMathTerm hmath) _
      · next hnumber =>
        split
        · trivial
        · next hparen =>
          exact ⟨hrule, rfl, Rule.not_begins_booleanTerm hoperand hnumber hparen⟩

private theorem fits_onEndOfStatement (hrule : .endOfStatement ∈ rules) :
    (onEndOfStatement next).Fits rules next := by
  cases next with
  | none => trivial
  | some kind =>
    rw [onEndOfStatement_some]
    split
    · trivial
    · split
      · trivial
      · split
        · trivial
        · exact ⟨hrule, rfl, rfl⟩

private theorem fits_onAssignmentStatement (hrule : .assignmentStatement ∈ rules) :
    (onAssignmentStatement next).Fits rules next :=
  fits_andThen (fits_onOneOf hrule (by simp) fun _ _ => rfl) _

private theorem fits_onBlockStatement (hrule : .blockStatement ∈ rules) :
    (onBlockStatement next).Fits rules next :=
  fits_andThen (fits_onOneOf hrule (by simp) fun _ _ => rfl) _

private theorem fits_onStatement (hrules : Rule.statement.blames ⊆ rules) :
    (onStatement next).Fits rules next := by
  have hrule : .statement ∈ rules := hrules (by simp [Rule.blames])
  cases next with
  | none => exact fits_reject false hrule (by simp) (by simp)
  | some kind =>
    rw [onStatement_some]
    split
    · exact fits_onBlockStatement (hrules (by simp [Rule.blames]))
    · split
      · exact fits_onAssignmentStatement (hrules (by simp [Rule.blames]))
      · exact ⟨hrule, rfl, rfl⟩

private theorem fits_onRule {rule : Rule} (hrules : rule.blames ⊆ rules) :
    (onRule rule next).Fits rules next := by
  cases rule with
  | whileStatement =>
    have hrule : .whileStatement ∈ rules := hrules (by simp [Rule.blames])
    exact fits_andThen (fits_onOneOf hrule (by simp) fun _ _ => rfl) _
  | statement => exact fits_onStatement hrules
  | blockStatement => exact fits_onBlockStatement (hrules (by simp [Rule.blames]))
  | assignmentStatement => exact fits_onAssignmentStatement (hrules (by simp [Rule.blames]))
  | endOfStatement => exact fits_onEndOfStatement (hrules (by simp [Rule.blames]))
  | booleanExpression =>
    exact fits_andThen (fits_onBooleanTerm (hrules (by simp [Rule.blames]))
      (hrules (by simp [Rule.blames]))) _
  | booleanTerm =>
    exact fits_onBooleanTerm (hrules (by simp [Rule.blames])) (hrules (by simp [Rule.blames]))
  | mathExpression => exact fits_andThen (fits_onMathTerm (hrules (by simp [Rule.blames]))) _
  | mathTerm => exact fits_onMathTerm (hrules (by simp [Rule.blames]))

/-! ### Goals -/

/-- The goal fails in the name of these rules only, and refuses as they do. -/
def Blames (rules : List Rule) : Goal → Prop
  | oneOf kinds rule =>
    rule ∈ rules ∧ rule ≠ .endOfStatement ∧ ∀ found ∉ kinds, rule.Refuses found true
  | production rule => rule.blames ⊆ rules
  | comparisons => Rule.booleanTerm.blames ⊆ rules
  | operations => Rule.mathTerm.blames ⊆ rules
  | statements => Rule.statement.blames ⊆ rules
  | enter rule => rule ∈ rules ∧ rule ∈ [.blockStatement, .booleanTerm, .mathTerm]
  | optional _ | leave => True

theorem fits_of_respond {limit : Option Nat} {goal : Goal} (h : goal.Blames rules) (depth : Nat) :
    (goal.respond limit next depth).1.Fits rules next := by
  cases goal with
  | oneOf kinds rule => exact fits_onOneOf h.1 h.2.1 h.2.2
  | production rule => exact fits_onRule h
  | enter rule =>
    simp only [respond]
    split
    · trivial
    · exact h
  | optional kind =>
    simp only [respond, onOptional]
    split <;> trivial
  | comparisons =>
    simp only [respond, onComparisons]
    split <;> trivial
  | operations =>
    cases next with
    | none => trivial
    | some kind =>
      simp only [respond, onOperations_some]
      split <;> trivial
  | statements =>
    cases next with
    | none => trivial
    | some kind =>
      simp only [respond, onStatements_some]
      split
      · trivial
      · exact fits_andThen (fits_onStatement h) _
  | leave => trivial

theorem blames_of_expands {kind : Kind} {goal : Goal} {more : List Goal}
    (he : Expands kind goal more) (h : goal.Blames rules) : ∀ goal ∈ more, goal.Blames rules := by
  induction he with
  | mathExpression _ ih =>
    exact List.forall_mem_append.mpr ⟨ih h, List.forall_mem_singleton.mpr h⟩
  | booleanExpression _ ih =>
    exact List.forall_mem_append.mpr ⟨ih h, List.forall_mem_singleton.mpr h⟩
  | oneStatement _ ih =>
    exact List.forall_mem_append.mpr ⟨ih h, List.forall_mem_singleton.mpr h⟩
  | arithmetic _ ih => exact ih fun rule hrule => h (List.mem_cons_of_mem _ hrule)
  | blockStatement _ ih => exact ih h
  | assignmentStatement _ ih =>
    exact ih fun rule hrule => h (List.subset_append_left Rule.assignmentStatement.blames _ hrule)
  | _ => simp_all [Blames, Rule.blames, Rule.Refuses, one]

variable {limit : Option Nat} {goals goals' : List Goal} {depth depth' : Nat}

theorem blames_of_takes {taken : List Kind} (ht : Takes limit taken goals depth goals' depth')
    (h : ∀ goal ∈ goals, goal.Blames rules) : ∀ goal ∈ goals', goal.Blames rules := by
  refine ht.preserves (P := fun goals _ => ∀ goal ∈ goals, goal.Blames rules) ?_ h
  intro kind goals depth goals' depth' h hs
  refine preserves_of_settle (P := fun goals _ => ∀ goal ∈ goals, goal.Blames rules) ?_ ?_ h hs
  · intro goal more goals depth he h
    obtain ⟨hgoal, hgoals⟩ := List.forall_mem_cons.mp h
    exact List.forall_mem_append.mpr ⟨blames_of_expands he hgoal, hgoals⟩
  · intro goal goals depth depth' _ h
    exact (List.forall_mem_cons.mp h).2

theorem fits_of_settle {error : GrammarError} {taken : Bool}
    (h : ∀ goal ∈ goals, goal.Blames rules)
    (hs : settle limit next goals depth = .refused error taken depth') :
    error.Fits rules next taken := by
  induction goals generalizing depth with
  | nil => cases hs
  | cons goal goals ih =>
    obtain ⟨hgoal, hgoals⟩ := List.forall_mem_cons.mp h
    unfold settle at hs
    split at hs
    · cases hs
    · exact ih hgoals hs
    · next hr =>
      cases hs
      have hfits : (goal.respond limit next depth).1.Fits rules next := fits_of_respond hgoal depth
      rwa [hr] at hfits

end Goal

/-- The error of a run that ended at this position stands with the kind it is about: before the
position when that kind has been taken, and at it otherwise. -/
def GrammarError.Locates (kinds : List Kind) (position : Nat) : GrammarError → Prop
  | unfinished rule => position = kinds.length ∧ rule ≠ .endOfStatement
  | tooDeep rule => rule ∈ [.blockStatement, .booleanTerm, .mathTerm]
  | unexpected found rule =>
    ∃ i taken, i + taken.toNat = position ∧ kinds[i]? = some found ∧ rule.Refuses found taken

theorem GrammarError.locates_of_fits {rules : List Rule} {taken rest : List Kind} {refused : Bool}
    {error : GrammarError} (h : error.Fits rules rest.head? refused) :
    error.Locates (taken ++ rest) (taken.length + refused.toNat) := by
  cases error with
  | unfinished rule =>
    obtain ⟨-, hend, rfl, hrule⟩ := h
    have hnil : rest = [] := List.head?_eq_none_iff.mp hend
    exact ⟨by simp [hnil], hrule⟩
  | unexpected found rule =>
    obtain ⟨-, hfound, hrefuses⟩ := h
    refine ⟨taken.length, refused, rfl, ?_, hrefuses⟩
    rw [List.getElem?_append_right (Nat.le_refl _), Nat.sub_self, ← List.head?_eq_getElem?, hfound]
  | tooDeep rule => exact h.2

namespace Rule

open Cursor Goal

/-- A failed run blames a production it can get to, and its position is that of the kind refused. -/
theorem locates_of_run {rule : Rule} {kinds : List Kind} {error : GrammarError} {position : Nat}
    (h : rule.run kinds = (.error error, position)) :
    error.rule ∈ rule.blames ∧ error.Locates kinds position := by
  obtain ⟨c, rfl, hf⟩ := exists_follow_of_run h
  obtain ⟨taken, rest, goals, depth, refused, rfl, hp, ht, hs⟩ := exists_of_follow_error hf
  have hstart : ∀ goal ∈ [production rule], goal.Blames rule.blames :=
    List.forall_mem_singleton.mpr (List.Subset.refl rule.blames)
  have hfits : error.Fits rule.blames rest.head? refused :=
    fits_of_settle (blames_of_takes ht hstart) hs
  rw [hp, Nat.zero_add]
  exact ⟨hfits.1, GrammarError.locates_of_fits hfits⟩

/-- Where the group ends, the kind refused has been taken: `while ( ( x < y ;`. -/
theorem locates_of_run_group :
    whileStatement.run [.whileWord, .leftParen, .leftParen, .identifier, .relOp, .identifier,
        .semicolon] = (.error (.unexpected .semicolon .booleanTerm), 7) ∧
      Rule.booleanTerm ∈ whileStatement.blames ∧
      (GrammarError.unexpected .semicolon .booleanTerm).Locates
        [.whileWord, .leftParen, .leftParen, .identifier, .relOp, .identifier, .semicolon] 7 :=
  have hrun : whileStatement.run [.whileWord, .leftParen, .leftParen, .identifier, .relOp,
      .identifier, .semicolon] = (.error (.unexpected .semicolon .booleanTerm), 7) := by
    decide
  ⟨hrun, locates_of_run hrun⟩

end Rule

end LoopScript
