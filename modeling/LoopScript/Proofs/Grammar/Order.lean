import LoopScript.Proofs.Grammar.Decision
import LoopScript.Proofs.Grammar.Expansion

/-! The order in which goals come to stand behind one another. A goal takes whatever it is able to
take, and no match is lost by that as long as nothing behind it could have used the kind. -/
namespace LoopScript

namespace Demand

/-- No sequence that begins with one of these kinds is as asked. -/
def Excludes (after : Demand) (kinds : List Kind) : Prop :=
  ∀ depth, ∀ kind ∈ kinds, ∀ rest, ¬ after depth (kind :: rest)

/-- A leading kind of this sort can be left out. -/
def Absorbs (after : Demand) (kind : Kind) : Prop :=
  ∀ depth rest, after depth (kind :: rest) → after depth rest

theorem Excludes.absorbs {after : Demand} {kind : Kind} (h : after.Excludes [kind]) :
    after.Absorbs kind :=
  fun depth rest ha => absurd ha (h depth kind (List.mem_singleton_self kind) rest)

end Demand

abbrev arithmeticKinds : List Kind := [.addOp, .subtractOp, .multiplyOp, .divideOp]

/-- What a production could still take when it has been matched does not begin anything behind. -/
def Rule.Precedes (after : Demand) : Rule → Prop
  | whileStatement | statement | assignmentStatement | endOfStatement => after.Absorbs .newline
  | booleanExpression => after.Excludes (.relOp :: arithmeticKinds)
  | booleanTerm | mathExpression => after.Excludes arithmeticKinds
  | blockStatement | mathTerm => True

namespace Goal

open LoopScript.Part

/-- What a goal could still take when it has been met does not begin anything behind it. Statements
stand in front of a closing brace only. -/
def Precedes (after : Demand) : Goal → Prop
  | optional kind => after.Absorbs kind
  | production rule => rule.Precedes after
  | comparisons => after.Excludes (.relOp :: arithmeticKinds)
  | operations => after.Excludes arithmeticKinds
  | statements => ∀ depth kinds, after depth kinds → kinds.head? = some .rightBrace
  | oneOf _ _ | enter _ | leave => True

/-- Every goal may stand in front of the goals behind it. -/
def Orderly (limit : Nat) : List Goal → Prop
  | [] => True
  | goal :: goals => goal.Precedes (Accepts limit goals) ∧ Orderly limit goals


variable {limit : Nat} {goals : List Goal}

theorem excludes_one {kind : Kind} {kinds : List Kind} (hk : kind ∉ kinds) (rule : Rule) :
    (Accepts limit (one kind rule :: goals)).Excludes kinds := by
  intro depth kind' hmem rest h
  obtain ⟨option, hoption, _, heq, -⟩ := h
  obtain rfl := List.mem_singleton.mp hoption
  cases heq
  exact hk hmem

theorem excludes_comparisons (h : (Accepts limit goals).Excludes (.relOp :: arithmeticKinds)) :
    (Accepts limit (comparisons :: goals)).Excludes arithmeticKinds := by
  intro depth kind hmem rest ha
  rcases then_comparisons.mp ha with ha | ⟨_, heq, -⟩
  · exact h depth kind (List.mem_cons_of_mem _ hmem) rest ha
  · cases heq
    simp at hmem

theorem excludes_endOfStatement :
    (Accepts limit (production .endOfStatement :: goals)).Excludes arithmeticKinds := by
  intro depth kind hmem rest ha
  rcases then_endOfStatement.mp ha with ⟨_, heq, -⟩ | ⟨_, heq, -⟩ | ⟨heq | ⟨_, heq⟩, -⟩ <;>
    cases heq <;> simp at hmem

theorem excludes_statement {kind : Kind} {after : Demand}
    (hk : kind ∉ [.leftBrace, .identifier, .arrayElement]) :
    ((Part.production .statement).Then limit after).Excludes [kind] := by
  intro depth kind' hmem rest h
  obtain rfl := List.mem_singleton.mp hmem
  rcases then_statement.mp h with h | h
  · obtain ⟨_, hoption, _, heq, -⟩ := then_blockStatement limit after ▸ h
    cases heq
    simp_all
  · obtain ⟨_, hoption, _, heq, -⟩ := then_assignmentStatement limit after ▸ h
    cases heq
    simp_all

theorem excludes_statements {after : Demand}
    (h : ∀ depth kinds, after depth kinds → kinds.head? = some .rightBrace) :
    (Part.statements.Then limit after).Excludes [.newline] := by
  intro depth kind hmem rest ha
  rcases then_statements.mp ha with ha | ha
  · have hbrace := h _ _ ha
    obtain rfl := List.mem_singleton.mp hmem
    cases hbrace
  · exact excludes_statement (by simp) depth kind hmem rest ha

theorem head_of_accepts_rightBrace {depth : Nat} {kinds : List Kind} {rule : Rule}
    (h : Accepts limit (leave :: one .rightBrace rule :: goals) depth kinds) :
    kinds.head? = some .rightBrace := by
  obtain ⟨kind, hmem, rest, rfl, -⟩ := h
  rw [List.mem_singleton.mp hmem, List.head?_cons]

theorem absorbs_optional {kind : Kind} (h : (Accepts limit goals).Absorbs kind) :
    (Accepts limit (optional kind :: goals)).Absorbs kind := by
  intro depth rest h
  obtain ⟨rest', hk | hk, ha⟩ := h
  · rw [← hk] at ha
    exact ⟨rest, .inl rfl, h depth rest ha⟩
  · cases hk
    exact ⟨rest, .inl rfl, ha⟩

theorem orderly_of_expands {kind : Kind} {goal : Goal} {more : List Goal}
    (he : Expands kind goal more) (hbehind : goal.Precedes (Accepts limit goals))
    (h : Orderly limit goals) : Orderly limit (more ++ goals) := by
  induction he generalizing goals with
  | oneOf => exact h
  | optional => exact h
  | mathOperand => exact h
  | mathGroup => exact ⟨trivial, excludes_one (by simp) _, trivial, trivial, h⟩
  | mathExpression _ ih =>
    rw [List.append_assoc]
    have hmore : Orderly limit (operations :: goals) := ⟨hbehind, h⟩
    exact ih trivial hmore
  | operation => exact ⟨trivial, hbehind, h⟩
  | booleanOperand => exact h
  | arithmetic _ ih => exact ih hbehind h
  | booleanGroup => exact ⟨trivial, excludes_one (by simp) _, trivial, trivial, h⟩
  | booleanExpression _ ih =>
    rw [List.append_assoc]
    have hmore : Orderly limit (comparisons :: goals) := ⟨hbehind, h⟩
    exact ih (excludes_comparisons hbehind) hmore
  | comparison => exact ⟨excludes_comparisons hbehind, hbehind, h⟩
  | semicolon => exact ⟨hbehind, h⟩
  | lineBreak => exact h
  | assignment => exact ⟨trivial, excludes_endOfStatement, hbehind, h⟩
  | block =>
    have hinner : (Accepts limit ([enter .blockStatement, statements, leave,
        one .rightBrace .blockStatement] ++ goals)).Absorbs .newline := by
      apply Demand.Excludes.absorbs
      intro depth kind hmem rest ha
      have hbrace : (Part.statements.Then limit (Accepts limit
          (leave :: one .rightBrace .blockStatement :: goals))).Excludes [.newline] :=
        excludes_statements fun _ _ => head_of_accepts_rightBrace
      exact hbrace _ kind hmem rest ha.2
    exact ⟨hinner, trivial, fun _ _ => head_of_accepts_rightBrace, trivial, trivial, h⟩
  | blockStatement _ ih => exact ih trivial h
  | assignmentStatement _ ih => exact ih hbehind h
  | oneStatement _ ih =>
    rw [List.append_assoc]
    have hmore : Orderly limit (statements :: goals) := ⟨hbehind, h⟩
    exact ih (excludes_statements hbehind).absorbs hmore
  | loop =>
    exact ⟨trivial, excludes_one (by simp) _, trivial, (excludes_statement (by simp)).absorbs,
      absorbs_optional hbehind, hbehind, h⟩

/-- A run keeps its goals in order. -/
theorem orderly_of_settle {kind : Kind} {goals' : List Goal} {depth depth' : Nat}
    (h : Orderly limit goals)
    (hs : settle (some limit) (some kind) goals depth = .took goals' depth') :
    Orderly limit goals' := by
  have htake (goal : Goal) (more goals : List Goal) (_ : Nat) (he : Expands kind goal more)
      (h : Orderly limit (goal :: goals)) : Orderly limit (more ++ goals) :=
    orderly_of_expands he h.1 h.2
  exact preserves_of_settle (P := fun goals _ => Orderly limit goals) htake
    (fun _ _ _ _ _ h => h.2) h hs

theorem orderly_of_takes {taken : List Kind} {goals' : List Goal} {depth depth' : Nat}
    (h : Orderly limit goals) (ht : Takes (some limit) taken goals depth goals' depth') :
    Orderly limit goals' :=
  ht.preserves (P := fun goals _ => Orderly limit goals) orderly_of_settle h

theorem orderly_production (limit : Nat) (rule : Rule) : Orderly limit [production rule] := by
  have hnil : ∀ depth kind rest, ¬ Accepts limit [] depth (kind :: rest) := by
    intro depth kind rest h
    cases h
  refine ⟨?_, trivial⟩
  cases rule <;>
    first
    | trivial
    | exact fun depth rest ha => absurd ha (hnil depth _ rest)
    | exact fun depth kind _ rest => hnil depth kind rest

end Goal

end LoopScript
