import LoopScript.Proofs.Grammar.Expansion

/-! The levels in a run. A level opens directly behind its sign, a line break apart, so that no more
than one of them is about to open. All the others that the goals are going to close are open, and a
run closes them whatever it comes to. -/
namespace LoopScript

namespace Rule

/-- The sign behind which a level of the production opens. -/
def opener? : Rule → Option Kind
  | mathTerm | booleanTerm => some .leftParen
  | blockStatement => some .leftBrace
  | _ => none

/-- The goals between the sign and those inside of the level. A line break may stand behind a
brace. -/
def opening (rule : Rule) : List Goal :=
  if rule = blockStatement then [.optional .newline, .enter rule] else [.enter rule]

/-- How many kinds stand between the sign and the level. -/
def gap (rule : Rule) (behind : List Kind) : Nat :=
  if rule = blockStatement ∧ behind.head? = some .newline then 1 else 0

end Rule

namespace Goal

theorem closings_leave (goals : List Goal) : closings (leave :: goals) = closings goals + 1 :=
  List.count_cons_self

theorem closings_of_ne {goal : Goal} (h : goal ≠ leave) (goals : List Goal) :
    closings (goal :: goals) = closings goals :=
  List.count_cons_of_ne h

/-- No level is about to open. -/
def Flat (goals : List Goal) : Prop := ∀ rule, enter rule ∉ goals

/-- No level is about to open, and the depth counts, on top of `base`, the levels that the goals are
going to close. -/
structure Nested (base : Nat) (goals : List Goal) (depth : Nat) : Prop where
  flat : Flat goals
  depth_eq : depth = base + closings goals

variable {base : Nat} {goal : Goal} {goals goals' : List Goal} {depth depth' : Nat}

theorem Flat.tail (h : Flat (goal :: goals)) : Flat goals :=
  fun rule hmem => h rule (List.mem_cons_of_mem _ hmem)

theorem not_flat_enter {rule : Rule} : ¬ Flat (enter rule :: goals) :=
  fun h => h rule (List.mem_cons_self ..)

theorem nested_production (base : Nat) (rule : Rule) : Nested base [production rule] base :=
  ⟨by simp [Flat], rfl⟩

theorem Nested.le_depth (h : Nested base goals depth) : base ≤ depth := by
  rw [h.depth_eq]
  exact Nat.le_add_right ..

theorem Nested.cons (h : Nested base goals depth) (hleave : goal ≠ leave)
    (henter : ∀ rule, goal ≠ enter rule) : Nested base (goal :: goals) depth := by
  refine ⟨fun rule hmem => ?_, ?_⟩
  · rcases List.mem_cons.mp hmem with heq | hmem
    · exact henter rule heq.symm
    · exact h.flat rule hmem
  · rw [closings_of_ne hleave]
    exact h.depth_eq

theorem Nested.leave (h : Nested base goals depth) : Nested base (leave :: goals) (depth + 1) := by
  refine ⟨by simpa [Flat] using h.flat, ?_⟩
  rw [closings_leave, h.depth_eq, Nat.add_assoc]

/-- The kind is a sign behind which a level is about to open, and what is inside of the level keeps
to the other levels. -/
def Opens (base : Nat) (kind : Kind) (goals : List Goal) (depth : Nat) : Prop :=
  base ≤ depth ∧ ∃ rule : Rule, ∃ inner, rule.opener? = some kind ∧
    goals = rule.opening ++ inner ∧ Nested base inner (depth + 1)

private theorem opens_group {rule : Rule} (hrule : rule = .mathTerm ∨ rule = .booleanTerm)
    (inner : Rule) (h : Nested base goals depth) : Opens base .leftParen
      (enter rule :: production inner :: one .rightParen rule :: leave :: goals) depth := by
  have hclose : Nested base (one .rightParen rule :: leave :: goals) (depth + 1) :=
    h.leave.cons (by simp [one]) (by simp [one])
  have hinner : Nested base (production inner :: one .rightParen rule :: leave :: goals)
      (depth + 1) := hclose.cons (by simp) (by simp)
  refine ⟨h.le_depth, rule, _, ?_, ?_, hinner⟩ <;>
    rcases hrule with rfl | rfl <;> rfl

/-- What a kind leaves in place of a goal keeps to the levels that are open, or is about to open
one. -/
theorem nested_of_expands {kind : Kind} {more : List Goal} (he : Expands kind goal more)
    (h : Nested base goals depth) :
    Nested base (more ++ goals) depth ∨ Opens base kind (more ++ goals) depth := by
  induction he generalizing goals with
  | oneOf | optional | mathOperand | booleanOperand | lineBreak => exact .inl h
  | mathGroup => exact .inr (opens_group (.inl rfl) _ h)
  | booleanGroup => exact .inr (opens_group (.inr rfl) _ h)
  | block =>
    have hclose : Nested base (one .rightBrace .blockStatement :: goals) depth :=
      h.cons (by simp [one]) (by simp [one])
    have hinner : Nested base (statements :: leave :: one .rightBrace .blockStatement :: goals)
        (depth + 1) := hclose.leave.cons (by simp) (by simp)
    exact .inr ⟨h.le_depth, .blockStatement, _, rfl, rfl, hinner⟩
  | mathExpression _ ih =>
    rw [List.append_assoc]
    have hmore : Nested base (operations :: goals) depth := h.cons (by simp) (by simp)
    exact ih hmore
  | booleanExpression _ ih =>
    rw [List.append_assoc]
    have hmore : Nested base (comparisons :: goals) depth := h.cons (by simp) (by simp)
    exact ih hmore
  | oneStatement _ ih =>
    rw [List.append_assoc]
    have hmore : Nested base (statements :: goals) depth := h.cons (by simp) (by simp)
    exact ih hmore
  | arithmetic _ ih | blockStatement _ ih | assignmentStatement _ ih => exact ih h
  | operation | comparison | semicolon | assignment | loop =>
    left
    repeat' apply Nested.cons
    all_goals first | exact h | simp [one]

theorem nested_of_pass {limit : Option Nat} {next : Option Kind}
    (h : Nested base (goal :: goals) depth)
    (hr : goal.respond limit next depth = (.pass, depth')) : Nested base goals depth' := by
  have hsame (hleave : goal ≠ leave) (hdepth : depth = depth') : Nested base goals depth' := by
    refine ⟨h.flat.tail, ?_⟩
    rw [← hdepth, h.depth_eq, closings_of_ne hleave]
  have hdepth := congrArg Prod.snd hr
  cases goal with
  | enter rule => exact absurd h.flat not_flat_enter
  | leave =>
    obtain rfl : depth - 1 = depth' := hdepth
    refine ⟨h.flat.tail, ?_⟩
    rw [h.depth_eq, closings_leave]
    omega
  | _ => exact hsame (by simp) hdepth

theorem nested_of_took {limit : Option Nat} {kind : Kind} (h : Nested base goals depth)
    (hs : settle limit (some kind) goals depth = .took goals' depth') :
    Nested base goals' depth' ∨ Opens base kind goals' depth' := by
  induction goals generalizing depth with
  | nil => cases hs
  | cons goal goals ih =>
    unfold settle at hs
    split at hs
    · next more depth₁ hr =>
      cases hs
      obtain ⟨he, rfl⟩ := expands_of_respond hr
      have hgoals : Nested base goals depth' := by
        refine ⟨h.flat.tail, ?_⟩
        rw [h.depth_eq, closings_of_ne]
        rintro rfl
        cases he
      exact nested_of_expands he hgoals
    · next depth₁ hr => exact ih (nested_of_pass h hr) hs
    · cases hs

theorem depth_of_done {limit : Option Nat} {next : Option Kind} (h : Nested base goals depth)
    (hs : settle limit next goals depth = .done depth') : depth' = base := by
  induction goals generalizing depth with
  | nil =>
    cases hs
    exact h.depth_eq
  | cons goal goals ih =>
    unfold settle at hs
    split at hs
    · cases hs
    · next depth₁ hr => exact ih (nested_of_pass h hr) hs
    · cases hs

theorem depth_of_refused {limit : Option Nat} {next : Option Kind} {error : GrammarError}
    {taken : Bool} (h : Nested base goals depth)
    (hs : settle limit next goals depth = .refused error taken depth') : depth' = base := by
  induction goals generalizing depth with
  | nil => cases hs
  | cons goal goals ih =>
    unfold settle at hs
    split at hs
    · cases hs
    · next depth₁ hr => exact ih (nested_of_pass h hr) hs
    · next error' taken' depth₁ hr =>
      cases hs
      have hdepth : goal ≠ leave → depth = depth₁ →
          depth₁ - closingsBehind goal goals = base := by
        intro hleave heq
        have henter (rule : Rule) : goal ≠ enter rule := by
          rintro rfl
          exact not_flat_enter h.flat
        rw [closingsBehind_of_ne henter, ← heq, h.depth_eq, closings_of_ne hleave,
          Nat.add_sub_cancel]
      have hsnd := congrArg Prod.snd hr
      cases goal with
      | enter rule => exact absurd h.flat not_flat_enter
      | leave => cases hr
      | _ => exact hdepth (by simp) hsnd

end Goal

namespace Cursor

open Goal

/-- A level opens if the limit leaves room for it, and whatever comes next is not looked at. -/
theorem follow_enter (limit : Option Nat) (kinds : List Kind) (rule : Rule) (goals : List Goal)
    (position depth : Nat) : follow limit kinds (enter rule :: goals) position depth =
      if limit.all (depth < ·) then follow limit kinds goals position (depth + 1)
      else (.error (.tooDeep rule), ⟨kinds, position, depth - (closings goals - 1)⟩) := by
  by_cases hlimit : limit.all (depth < ·)
  · cases kinds <;> simp only [follow, settle, respond, if_pos hlimit]
  · cases kinds <;> simp only [follow, settle, respond, closingsBehind, if_neg hlimit]

theorem follow_optional (limit : Option Nat) (kinds : List Kind) (kind : Kind) (goals : List Goal)
    (position depth : Nat) : follow limit kinds (optional kind :: goals) position depth =
      if kinds.head? = some kind then follow limit kinds.tail goals (position + 1) depth
      else follow limit kinds goals position depth := by
  cases kinds with
  | nil => simp [follow, settle, respond, onOptional]
  | cons found kinds =>
    by_cases hfound : found = kind
    · simp [follow, settle, respond, onOptional, hfound]
    · simp [follow, settle, respond, onOptional, hfound]

theorem follow_opening (limit : Option Nat) (kinds : List Kind) (rule : Rule) (goals : List Goal)
    (position depth : Nat) : follow limit kinds (rule.opening ++ goals) position depth =
      if limit.all (depth < ·) then
        follow limit (kinds.drop (rule.gap kinds)) goals (position + rule.gap kinds) (depth + 1)
      else (.error (.tooDeep rule),
        ⟨kinds.drop (rule.gap kinds), position + rule.gap kinds, depth - (closings goals - 1)⟩) := by
  by_cases hrule : rule = .blockStatement
  · by_cases hnext : kinds.head? = some .newline
    · simp [Rule.opening, Rule.gap, hrule, hnext, follow_optional, follow_enter]
    · simp [Rule.opening, Rule.gap, hrule, hnext, follow_optional, follow_enter]
  · simp [Rule.opening, Rule.gap, hrule, follow_enter]

/-- A run closes the levels that it opens. -/
theorem depth_of_follow {limit : Option Nat} {base : Nat} {kinds : List Kind} {goals : List Goal}
    {depth : Nat} (h : Nested base goals depth) (position : Nat) :
    (follow limit kinds goals position depth).2.depth = base := by
  -- A line break behind a brace is taken in one go with it, so the kinds get shorter by two there.
  induction hlength : kinds.length using Nat.strongRecOn
    generalizing kinds goals position depth with
  | ind length ih =>
    cases kinds with
    | nil =>
      unfold follow
      cases hs : settle limit none goals depth with
      | done depth' => exact depth_of_done h hs
      | took goals' depth' => exact absurd hs (settle_none_ne_took _ _ _ _ _)
      | refused error taken depth' => exact depth_of_refused h hs
    | cons kind kinds =>
      rw [List.length_cons] at hlength
      unfold follow
      cases hs : settle limit (some kind) goals depth with
      | done depth' => exact depth_of_done h hs
      | refused error taken depth' =>
        have hdepth := depth_of_refused h hs
        cases taken <;> exact hdepth
      | took goals' depth' =>
        rcases nested_of_took h hs with hn | ⟨hbase, rule, inner, _, rfl, hn⟩
        · exact ih kinds.length (by omega) hn (position + 1) rfl
        · simp only [follow_opening]
          split
          · refine ih _ ?_ hn _ rfl
            rw [List.length_drop]
            omega
          · have hdepth := hn.depth_eq
            simp only
            omega

theorem depth_matchWithin (limit : Option Nat) (c : Cursor) (rule : Rule) :
    (c.matchWithin limit rule).2.depth = c.depth :=
  depth_of_follow (nested_production c.depth rule) c.position

end Cursor

end LoopScript
