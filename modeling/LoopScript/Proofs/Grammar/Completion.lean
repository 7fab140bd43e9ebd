import LoopScript.Proofs.Grammar.Acceptance

/-! What a run can still come to. As long as a run takes kinds, some sequence meets the goals that
are left, or else a level is about to open where none is left, and then no sequence does. -/
namespace LoopScript

/-- Levels that no word of the production can do without. -/
def Rule.levels : Rule → Nat
  | blockStatement => 1
  | _ => 0

theorem Rule.exists_derives (rule : Rule) (rest : List Kind) :
    ∃ kinds, LoopScript.Derives (.production rule) rule.levels kinds rest := by
  have operand (rest : List Kind) :
      LoopScript.Derives (.production .mathTerm) 0 (.identifier :: rest) rest :=
    .mathOperand (by simp)
  have expression (rest : List Kind) :
      LoopScript.Derives (.production .mathExpression) 0 (.identifier :: rest) rest :=
    .mathExpression (operand rest) .noOperation
  have booleanOperand (rest : List Kind) :
      LoopScript.Derives (.production .booleanTerm) 0 (.identifier :: rest) rest :=
    .booleanOperand (by simp)
  have condition (rest : List Kind) :
      LoopScript.Derives (.production .booleanExpression) 0 (.identifier :: rest) rest :=
    .booleanExpression (booleanOperand rest) .noComparison
  have terminator : LoopScript.Derives (.production .endOfStatement) 0 (.semicolon :: rest) rest :=
    .semicolon (.inl rfl)
  have assignment : LoopScript.Derives (.production .assignmentStatement) 0
      (.identifier :: .assign :: .identifier :: .semicolon :: rest) rest :=
    .assignment (by simp) (expression _) terminator
  have statement := Derives.assignmentStatement assignment
  cases rule with
  | whileStatement => exact ⟨_, .loop (condition _) (.inl rfl) statement (.inl rfl)⟩
  | statement => exact ⟨_, statement⟩
  | blockStatement => exact ⟨_, .block (.inl rfl) .noStatement⟩
  | assignmentStatement => exact ⟨_, assignment⟩
  | endOfStatement => exact ⟨_, terminator⟩
  | booleanExpression => exact ⟨_, condition rest⟩
  | booleanTerm => exact ⟨_, booleanOperand rest⟩
  | mathExpression => exact ⟨_, expression rest⟩
  | mathTerm => exact ⟨_, operand rest⟩

namespace Goal

variable {limit : Nat}

def depthBehind (depth : Nat) : Goal → Nat
  | enter _ => depth + 1
  | leave => depth - 1
  | _ => depth

theorem exists_behind {goal : Goal} {after : Demand} {depth : Nat} {kinds : List Kind}
    (h : goal.Then limit after depth kinds) : ∃ rest, after (goal.depthBehind depth) rest := by
  cases goal with
  | oneOf options rule =>
    obtain ⟨_, _, rest, _, ha⟩ := h
    exact ⟨rest, ha⟩
  | enter rule => exact ⟨kinds, h.2⟩
  | leave => exact ⟨kinds, h⟩
  | optional kind =>
    obtain ⟨rest, _, ha⟩ := h
    exact ⟨rest, ha⟩
  | production rule =>
    obtain ⟨rest, _, ha⟩ := h
    exact ⟨rest, ha⟩
  | comparisons =>
    obtain ⟨rest, _, ha⟩ := h
    exact ⟨rest, ha⟩
  | operations =>
    obtain ⟨rest, _, ha⟩ := h
    exact ⟨rest, ha⟩
  | statements =>
    obtain ⟨rest, _, ha⟩ := h
    exact ⟨rest, ha⟩

theorem depthBehind_of_pass {limit : Option Nat} {goal : Goal} {next : Option Kind}
    {depth depth' : Nat} (hr : goal.respond limit next depth = (.pass, depth')) :
    depth' = goal.depthBehind depth := by
  have hdepth := congrArg Prod.snd hr
  cases goal with
  | enter rule =>
    simp only [respond] at hr
    split at hr
    · cases hr
      rfl
    · cases hr
  | _ => exact hdepth.symm

theorem depthBehind_of_expands {kind : Kind} {goal : Goal} {more : List Goal}
    (he : Expands kind goal more) (depth : Nat) : goal.depthBehind depth = depth := by
  cases he <;> rfl

/-! ### Goals that can be met -/

/-- Some sequence meets the goals. -/
def Completable (limit : Nat) (goals : List Goal) (depth : Nat) : Prop :=
  ∃ word, Accepts limit goals depth word

/-- At this depth the goal itself can be met. -/
def Fits (limit depth : Nat) : Goal → Prop
  | oneOf options _ => options ≠ []
  | production rule => rule.levels ≤ limit - depth
  | enter _ => depth < limit
  | _ => True

theorem completable_cons {goal : Goal} {goals : List Goal} {depth : Nat}
    (hfits : goal.Fits limit depth) (h : Completable limit goals (goal.depthBehind depth)) :
    Completable limit (goal :: goals) depth := by
  obtain ⟨word, ha⟩ := h
  cases goal with
  | oneOf options rule =>
    obtain ⟨kind, hk⟩ := List.exists_mem_of_ne_nil options hfits
    exact ⟨kind :: word, kind, hk, word, rfl, ha⟩
  | optional kind => exact ⟨word, word, .inl rfl, ha⟩
  | production rule =>
    obtain ⟨kinds, hd⟩ := rule.exists_derives word
    exact ⟨kinds, word, ⟨rule.levels, hfits, hd⟩, ha⟩
  | comparisons => exact ⟨word, word, ⟨0, Nat.zero_le _, .noComparison⟩, ha⟩
  | operations => exact ⟨word, word, ⟨0, Nat.zero_le _, .noOperation⟩, ha⟩
  | statements => exact ⟨word, word, ⟨0, Nat.zero_le _, .noStatement⟩, ha⟩
  | enter rule => exact ⟨word, hfits, ha⟩
  | leave => exact ⟨word, ha⟩

theorem completable_production (hlimit : 0 < limit) (rule : Rule) :
    Completable limit [production rule] 0 := by
  have hfits : rule.levels ≤ limit - 0 := by
    cases rule <;> simp only [Rule.levels] <;> omega
  exact completable_cons hfits ⟨[], rfl⟩

/-! ### Levels that do not open -/

/-- Only a line break may come before a level opens for `rule`, and none is left to open. -/
def Blocked (limit : Nat) (rule : Rule) (goals : List Goal) (depth : Nat) : Prop :=
  limit ≤ depth ∧
    ∃ behind, goals = enter rule :: behind ∨ goals = optional .newline :: enter rule :: behind

theorem settle_enter {depth : Nat} (hdepth : limit ≤ depth) (rule : Rule) (behind : List Goal)
    (next : Option Kind) : settle (some limit) next (enter rule :: behind) depth =
      .refused (.tooDeep rule) false (depth - (closings behind - 1)) := by
  have hnot : ¬ depth < limit := by omega
  simp [settle, respond, hnot, closingsBehind]

theorem follow_of_blocked {rule : Rule} {goals : List Goal} {depth : Nat}
    (h : Blocked limit rule goals depth) (kinds : List Kind) (position : Nat) :
    ∃ c, Cursor.follow (some limit) kinds goals position depth = (.error (.tooDeep rule), c) := by
  obtain ⟨hdepth, behind, hgoals⟩ := h
  have hfollow (kinds : List Kind) (position : Nat) :
      ∃ c, Cursor.follow (some limit) kinds (enter rule :: behind) position depth =
        (.error (.tooDeep rule), c) := by
    have hs := settle_enter hdepth rule behind kinds.head?
    exact ⟨_, Cursor.follow_of_refused hs (by simp) position⟩
  rcases hgoals with hgoals | hgoals
  · rw [hgoals]
    exact hfollow kinds position
  · rw [hgoals]
    by_cases hnext : kinds.head? = some .newline
    · obtain ⟨behind, hkinds⟩ := List.head?_eq_some_iff.mp hnext
      rw [hkinds]
      exact hfollow behind (position + 1)
    · have hs : settle (some limit) kinds.head? (optional .newline :: enter rule :: behind) depth =
          .refused (.tooDeep rule) false (depth - (closings behind - 1)) := by
        rw [← settle_enter hdepth rule behind kinds.head?]
        conv_lhs => unfold settle
        simp [respond, onOptional, hnext]
      exact ⟨_, Cursor.follow_of_refused hs (by simp) position⟩

/-! ### What a run preserves -/

/-- Some sequence meets the goals, or they stand in front of a level that does not open. -/
def Pending (limit : Nat) (goals : List Goal) (depth : Nat) : Prop :=
  Completable limit goals depth ∨ ∃ rule, Blocked limit rule goals depth

theorem pending_of_opens {goals : List Goal} {depth : Nat} {rule : Rule}
    (h : depth < limit → Completable limit goals (depth + 1)) :
    Pending limit (enter rule :: goals) depth := by
  by_cases hdepth : depth < limit
  · exact .inl (completable_cons hdepth (h hdepth))
  · have hfull : limit ≤ depth := by omega
    exact .inr ⟨rule, hfull, goals, .inl rfl⟩

theorem pending_of_lineBreak {goals : List Goal} {depth : Nat} {rule : Rule}
    (h : Pending limit (enter rule :: goals) depth) :
    Pending limit (optional .newline :: enter rule :: goals) depth := by
  rcases h with hc | ⟨rule', hfull, behind, hgoals | hgoals⟩
  · exact .inl (completable_cons trivial hc)
  · exact .inr ⟨rule', hfull, behind, .inr (congrArg _ hgoals)⟩
  · cases hgoals

/-- What a goal leaves in its place can be met wherever the goals behind it can be. -/
theorem pending_of_expands {kind : Kind} {goal : Goal} {more goals : List Goal} {depth : Nat}
    (he : Expands kind goal more) (h : Completable limit goals depth) :
    Pending limit (more ++ goals) depth := by
  have hterm (rule : Rule) (hrule : rule.levels = 0) (depth : Nat) :
      (production rule).Fits limit depth := by
    simp [Fits, hrule]
  have hone (kind : Kind) (rule : Rule) (depth : Nat) : (one kind rule).Fits limit depth := by
    simp [Fits, one]
  have hgroup (rule inner : Rule) (hinner : inner.levels = 0) (goals : List Goal)
      (h : Completable limit goals depth) : Pending limit
        (enter rule :: production inner :: one .rightParen rule :: leave :: goals) depth := by
    apply pending_of_opens
    intro _
    have hleave : Completable limit (leave :: goals) (depth + 1) := completable_cons trivial h
    exact completable_cons (hterm _ hinner _) (completable_cons (hone _ _ _) hleave)
  induction he generalizing goals with
  | oneOf | optional | mathOperand | booleanOperand | lineBreak => exact .inl h
  | mathGroup => exact hgroup _ _ rfl goals h
  | booleanGroup => exact hgroup _ _ rfl goals h
  | mathExpression _ ih =>
    rw [List.append_assoc]
    have hmore : Completable limit (operations :: goals) depth := completable_cons trivial h
    exact ih hmore
  | booleanExpression _ ih =>
    rw [List.append_assoc]
    have hmore : Completable limit (comparisons :: goals) depth := completable_cons trivial h
    exact ih hmore
  | oneStatement _ ih =>
    rw [List.append_assoc]
    have hmore : Completable limit (statements :: goals) depth := completable_cons trivial h
    exact ih hmore
  | operation =>
    have hmore : Completable limit (operations :: goals) depth := completable_cons trivial h
    exact .inl (completable_cons (hterm _ rfl _) hmore)
  | comparison =>
    have hmore : Completable limit (comparisons :: goals) depth := completable_cons trivial h
    exact .inl (completable_cons (hterm _ rfl _) hmore)
  | arithmetic _ ih | blockStatement _ ih | assignmentStatement _ ih => exact ih h
  | semicolon => exact .inl (completable_cons trivial h)
  | assignment =>
    have hend : Completable limit (production .endOfStatement :: goals) depth :=
      completable_cons (hterm _ rfl _) h
    exact .inl (completable_cons (hone _ _ _) (completable_cons (hterm _ rfl _) hend))
  | block =>
    apply pending_of_lineBreak
    apply pending_of_opens
    intro _
    have hbrace : Completable limit (one .rightBrace .blockStatement :: goals) depth :=
      completable_cons (hone _ _ _) h
    have hleave : Completable limit (leave :: one .rightBrace .blockStatement :: goals)
        (depth + 1) := completable_cons trivial hbrace
    exact completable_cons trivial hleave
  | loop =>
    have hbreak : Completable limit (optional .newline :: goals) depth :=
      completable_cons trivial h
    have hbody : Completable limit
        (optional .newline :: production .statement :: optional .newline :: goals) depth :=
      completable_cons trivial (completable_cons (hterm _ rfl _) hbreak)
    have hparen : Completable limit (one .rightParen .whileStatement :: optional .newline ::
        production .statement :: optional .newline :: goals) depth :=
      completable_cons (hone _ _ _) hbody
    exact .inl (completable_cons (hone _ _ _) (completable_cons (hterm _ rfl _) hparen))

theorem pending_of_settle {kind : Kind} {goals goals' : List Goal} {depth depth' : Nat}
    (h : Pending limit goals depth)
    (hs : settle (some limit) (some kind) goals depth = .took goals' depth') :
    Pending limit goals' depth' := by
  have htake (goal : Goal) (more goals : List Goal) (depth : Nat) (he : Expands kind goal more)
      (h : Pending limit (goal :: goals) depth) : Pending limit (more ++ goals) depth := by
    rcases h with ⟨word, ha⟩ | ⟨rule, hfull, behind, hgoals | hgoals⟩
    · have hbehind : Completable limit goals depth := by
        have hrest := exists_behind ha
        rwa [depthBehind_of_expands he] at hrest
      exact pending_of_expands he hbehind
    · cases hgoals
      cases he
    · cases hgoals
      cases he
      exact .inr ⟨rule, hfull, behind, .inl rfl⟩
  have hpass (goal : Goal) (goals : List Goal) (depth depth' : Nat)
      (hr : goal.respond (some limit) (some kind) depth = (.pass, depth'))
      (h : Pending limit (goal :: goals) depth) : Pending limit goals depth' := by
    have hdepth := depthBehind_of_pass hr
    rcases h with ⟨word, ha⟩ | ⟨rule, hfull, behind, hgoals | hgoals⟩
    · rw [hdepth]
      exact .inl (exists_behind ha)
    · cases hgoals
      have hnot : ¬ depth < limit := by omega
      simp [respond, hnot] at hr
    · cases hgoals
      rw [hdepth]
      exact .inr ⟨rule, hfull, behind, .inl rfl⟩
  exact preserves_of_settle (P := Pending limit) htake hpass h hs

theorem pending_of_takes {taken : List Kind} {goals goals' : List Goal} {depth depth' : Nat}
    (h : Pending limit goals depth) (ht : Takes (some limit) taken goals depth goals' depth') :
    Pending limit goals' depth' :=
  ht.preserves (P := Pending limit) pending_of_settle h

end Goal

end LoopScript
