import LoopScript.Proofs.Grammar.Lookahead
import LoopScript.Proofs.Grammar.Nesting

/-! Runs with a limit on nesting against runs without one. They agree for as long as no level opens
beyond the limit, and the first that would do so ends the run with the limit where it would open. -/
namespace LoopScript

structure Opening where
  rule : Rule
  /-- How many kinds were taken before. -/
  position : Nat
  /-- How many levels are open with it. -/
  level : Nat
  deriving DecidableEq, Repr

/-- The levels that open at one lookahead when there is no limit. Those that are open with one of
them are told from the goals behind it, which have yet to close them. -/
def Goal.openings (next : Option Kind) (position : Nat) : List Goal → Nat → List Opening
  | [], _ => []
  | enter rule :: goals, depth =>
    ⟨rule, position, closings goals⟩ :: openings next position goals (depth + 1)
  | goal :: goals, depth =>
    match goal.respond none next depth with
    | (.pass, depth) => openings next position goals depth
    | _ => []

/-- The levels that open in a run without a limit, in order. -/
def Cursor.openings : List Kind → List Goal → Nat → Nat → List Opening
  | [], goals, position, depth => Goal.openings none position goals depth
  | kind :: kinds, goals, position, depth =>
    Goal.openings (some kind) position goals depth ++
      match Goal.settle none (some kind) goals depth with
      | .took goals depth => openings kinds goals (position + 1) depth
      | _ => []

namespace Rule

/-- What a run within a limit comes to, and how many kinds it takes. -/
def runWithin (limit : Option Nat) (rule : Rule) (kinds : List Kind) :
    Except GrammarError Unit × Nat :=
  let (result, c) := (Cursor.ofKinds kinds).matchWithin limit rule
  (result, c.position)

def openings (rule : Rule) (kinds : List Kind) : List Opening :=
  Cursor.openings kinds [.production rule] 0 0

theorem gap_le_length (rule : Rule) (behind : List Kind) : rule.gap behind ≤ behind.length := by
  unfold gap
  cases behind with
  | nil => simp
  | cons kind behind => split <;> simp

theorem gap_append (rule : Rule) (passed front : List Kind) (sign : Kind) (behind others : List Kind) :
    rule.gap (passed ++ (front ++ sign :: others)) =
      rule.gap (passed ++ (front ++ sign :: behind)) := by
  have hhead : (passed ++ (front ++ sign :: others)).head? =
      (passed ++ (front ++ sign :: behind)).head? := by
    cases passed <;> cases front <;> rfl
  rw [gap, gap, hhead]

end Rule

namespace Goal

variable {goals goals' : List Goal} {depth depth' : Nat}

theorem openings_of_flat (next : Option Kind) (position : Nat) (hflat : Flat goals) :
    openings next position goals depth = [] := by
  induction goals generalizing depth with
  | nil => rfl
  | cons goal goals ih =>
    unfold openings
    split
    · rfl
    · next heq =>
      cases heq
      exact absurd hflat not_flat_enter
    · next heq =>
      cases heq
      split
      · exact ih hflat.tail
      · rfl

theorem settle_of_flat (limit : Option Nat) (next : Option Kind)
    (hflat : Flat goals) :
    settle limit next goals depth = settle none next goals depth := by
  induction goals generalizing depth with
  | nil => rfl
  | cons goal goals ih =>
    have hrespond : goal.respond limit next depth = goal.respond none next depth := by
      cases goal with
      | enter rule => exact absurd hflat not_flat_enter
      | _ => rfl
    unfold settle
    rw [hrespond]
    split
    · rfl
    · exact ih hflat.tail
    · rfl

theorem depth_le_of_took {limit : Option Nat} {kind : Kind} (hflat : Flat goals)
    (hs : settle limit (some kind) goals depth = .took goals' depth') : depth' ≤ depth := by
  induction goals generalizing depth with
  | nil => cases hs
  | cons goal goals ih =>
    have hdepth : (goal.respond limit (some kind) depth).2 ≤ depth := by
      cases goal with
      | enter rule => exact absurd hflat not_flat_enter
      | leave => exact Nat.sub_le depth 1
      | _ => exact Nat.le_refl depth
    unfold settle at hs
    split at hs
    · next hr =>
      rw [hr] at hdepth
      cases hs
      exact hdepth
    · next depth₁ hr =>
      rw [hr] at hdepth
      have hgoals : depth' ≤ depth₁ := ih hflat.tail hs
      exact Nat.le_trans hgoals hdepth
    · cases hs

end Goal

namespace Cursor

open Goal

variable {kinds : List Kind} {goals : List Goal} {position depth : Nat}

theorem openings_enter (kinds : List Kind) (rule : Rule) (goals : List Goal) (position depth : Nat) :
    openings kinds (enter rule :: goals) position depth =
      ⟨rule, position, closings goals⟩ :: openings kinds goals position (depth + 1) := by
  cases kinds with
  | nil => rfl
  | cons kind kinds => simp [openings, Goal.openings, settle, respond]

theorem openings_optional (kinds : List Kind) (kind : Kind) (goals : List Goal)
    (position depth : Nat) : openings kinds (optional kind :: goals) position depth =
      if kinds.head? = some kind then openings kinds.tail goals (position + 1) depth
      else openings kinds goals position depth := by
  cases kinds with
  | nil => simp [openings, Goal.openings, respond, onOptional]
  | cons found kinds =>
    by_cases hfound : found = kind
    · simp [openings, Goal.openings, settle, respond, onOptional, hfound]
    · simp [openings, Goal.openings, settle, respond, onOptional, hfound]

theorem openings_opening (kinds : List Kind) (rule : Rule) (goals : List Goal)
    (position depth : Nat) : openings kinds (rule.opening ++ goals) position depth =
      ⟨rule, position + rule.gap kinds, closings goals⟩ ::
        openings (kinds.drop (rule.gap kinds)) goals (position + rule.gap kinds) (depth + 1) := by
  by_cases hrule : rule = .blockStatement
  · by_cases hnext : kinds.head? = some .newline
    · simp [Rule.opening, Rule.gap, hrule, hnext, openings_optional, openings_enter]
    · simp [Rule.opening, Rule.gap, hrule, hnext, openings_optional, openings_enter]
  · simp [Rule.opening, Rule.gap, hrule, openings_enter]

theorem openings_of_took {base : Nat} {kind : Kind} {goals' : List Goal} {depth' : Nat}
    (h : Nested base goals depth) (hs : settle none (some kind) goals depth = .took goals' depth') :
    openings (kind :: kinds) goals position depth = openings kinds goals' (position + 1) depth' := by
  simp only [openings, openings_of_flat _ _ h.flat, hs, List.nil_append]

/-- No limit is felt that no level goes beyond. -/
theorem follow_of_openings {limit : Nat} (h : Nested 0 goals depth)
    (hlevels : ∀ o ∈ openings kinds goals position depth, o.level ≤ limit) :
    follow (some limit) kinds goals position depth = follow none kinds goals position depth := by
  induction hlength : kinds.length using Nat.strongRecOn
    generalizing kinds goals position depth with
  | ind length ih =>
    cases kinds with
    | nil => simp only [follow, settle_of_flat _ none h.flat]
    | cons kind kinds =>
      rw [List.length_cons] at hlength
      simp only [follow, settle_of_flat _ (some kind) h.flat]
      cases hs : settle none (some kind) goals depth with
      | done depth' => rfl
      | refused error taken depth' => cases taken <;> rfl
      | took goals' depth' =>
        rw [openings_of_took h hs] at hlevels
        rcases nested_of_took h hs with hn | ⟨-, rule, inner, _, rfl, hn⟩
        · exact ih kinds.length (by omega) hn hlevels rfl
        · rw [openings_opening] at hlevels
          obtain ⟨hlevel, hlevels⟩ := List.forall_mem_cons.mp hlevels
          have hdepth : depth' < limit := by
            have hlevel : closings inner ≤ limit := hlevel
            have hn := hn.depth_eq
            omega
          simp only [follow_opening, Option.all_some, hdepth, decide_true, if_true, Option.all_none]
          refine ih _ ?_ hn hlevels rfl
          rw [List.length_drop]
          omega

/-- A run from the goals ends where the level would open, whatever stands behind its sign. -/
def StopsAt (limit : Nat) (o : Opening) (kinds : List Kind) (goals : List Goal)
    (position depth : Nat) : Prop :=
  ∃ front sign behind, kinds = front ++ sign :: behind ∧ o.rule.opener? = some sign ∧
    o.position = position + front.length + 1 + o.rule.gap behind ∧
    ∀ others, follow (some limit) (front ++ sign :: others) goals position depth =
      (.error (.tooDeep o.rule), ⟨others.drop (o.rule.gap others),
        position + front.length + 1 + o.rule.gap others, 0⟩)

theorem StopsAt.cons {limit : Nat} {o : Opening} {kind : Kind} {goals' : List Goal} {depth' : Nat}
    (h : StopsAt limit o kinds goals' (position + 1) depth')
    (hfollow : ∀ kinds, follow (some limit) (kind :: kinds) goals position depth =
      follow (some limit) kinds goals' (position + 1) depth') :
    StopsAt limit o (kind :: kinds) goals position depth := by
  obtain ⟨front, sign, behind, rfl, hopener, hposition, hdeep⟩ := h
  refine ⟨kind :: front, sign, behind, rfl, hopener, ?_, fun others => ?_⟩
  · rw [hposition, List.length_cons]
    omega
  · rw [List.cons_append, hfollow, hdeep, List.length_cons]
    congr 2
    omega

theorem StopsAt.opening {limit : Nat} {o : Opening} {rule : Rule} (hroom : depth < limit)
    (h : StopsAt limit o (kinds.drop (rule.gap kinds)) goals (position + rule.gap kinds)
      (depth + 1)) : StopsAt limit o kinds (rule.opening ++ goals) position depth := by
  obtain ⟨front, sign, behind, hbehind, hopener, hposition, hdeep⟩ := h
  have hkinds : kinds = kinds.take (rule.gap kinds) ++ (front ++ sign :: behind) := by
    rw [← hbehind, List.take_append_drop]
  have hpassed : (kinds.take (rule.gap kinds)).length = rule.gap kinds :=
    List.length_take_of_le (rule.gap_le_length kinds)
  refine ⟨kinds.take (rule.gap kinds) ++ front, sign, behind, ?_, hopener, ?_, fun others => ?_⟩
  · rw [List.append_assoc, ← hkinds]
  · rw [hposition, List.length_append, hpassed]
    omega
  · have hgap : rule.gap (kinds.take (rule.gap kinds) ++ (front ++ sign :: others)) =
        rule.gap kinds := by
      rw [rule.gap_append _ front sign behind others, ← hkinds]
    rw [List.append_assoc, follow_opening, hgap, List.drop_left' hpassed, hdeep,
      List.length_append, hpassed]
    simp only [Option.all_some, hroom, decide_true, if_true]
    congr 2
    omega

/-- The first level beyond the limit is the next one above it, and does not open. -/
theorem stopsAt_of_find? {limit : Nat} {o : Opening} (h : Nested 0 goals depth)
    (hdepth : depth ≤ limit)
    (hfind : (openings kinds goals position depth).find? (limit < ·.level) = some o) :
    o.level = limit + 1 ∧ StopsAt limit o kinds goals position depth := by
  induction hlength : kinds.length using Nat.strongRecOn
    generalizing kinds goals position depth with
  | ind length ih =>
    cases kinds with
    | nil =>
      rw [openings, openings_of_flat _ _ h.flat] at hfind
      cases hfind
    | cons kind kinds =>
      rw [List.length_cons] at hlength
      cases hs : settle none (some kind) goals depth with
      | done depth' => simp [openings, openings_of_flat _ _ h.flat, hs] at hfind
      | refused error taken depth' => simp [openings, openings_of_flat _ _ h.flat, hs] at hfind
      | took goals' depth' =>
        have hdepth' : depth' ≤ limit := Nat.le_trans (depth_le_of_took h.flat hs) hdepth
        have hfollow (kinds : List Kind) : follow (some limit) (kind :: kinds) goals position depth =
            follow (some limit) kinds goals' (position + 1) depth' := by
          simp only [follow, settle_of_flat _ (some kind) h.flat, hs]
        rw [openings_of_took h hs] at hfind
        rcases nested_of_took h hs with hn | ⟨-, rule, inner, hsign, rfl, hn⟩
        · obtain ⟨hlevel, hstops⟩ := ih kinds.length (by omega) hn hdepth' hfind rfl
          exact ⟨hlevel, hstops.cons hfollow⟩
        · have hinner := hn.depth_eq
          rw [openings_opening] at hfind
          by_cases hlimit : limit < closings inner
          · rw [List.find?_cons_of_pos (by simpa using hlimit)] at hfind
            cases hfind
            have hfull : ¬ depth' < limit := by omega
            refine ⟨by simp only; omega, [], kind, kinds, rfl, hsign, rfl, fun others => ?_⟩
            rw [List.nil_append, hfollow, follow_opening]
            simp only [Option.all_some, hfull, decide_false, Bool.false_eq_true, if_false,
              List.length_nil]
            congr 2
            omega
          · rw [List.find?_cons_of_neg (by simpa using hlimit)] at hfind
            have hroom : depth' < limit := by omega
            have hshort : (kinds.drop (rule.gap kinds)).length < length := by
              rw [List.length_drop]
              omega
            obtain ⟨hlevel, hstops⟩ := ih _ hshort hn hroom hfind rfl
            exact ⟨hlevel, (hstops.opening hroom).cons hfollow⟩

theorem openings_groups (n : Nat) (h : Nested 0 goals depth) (position : Nat) :
    openings (List.replicate n .leftParen) (production .booleanExpression :: goals) position depth =
      (List.range n).map fun i => ⟨.booleanTerm, position + i + 1, depth + i + 1⟩ := by
  induction n generalizing goals position depth with
  | zero =>
    have hflat : Flat (production .booleanExpression :: goals) := (h.cons (by simp) (by simp)).flat
    exact openings_of_flat none position hflat
  | succ n ih =>
    have hmore : Nested 0 (comparisons :: goals) depth := h.cons (by simp) (by simp)
    have hinner : Nested 0 (one .rightParen .booleanTerm :: leave :: comparisons :: goals)
        (depth + 1) := hmore.leave.cons (by simp [one]) (by simp [one])
    have hs : settle none (some .leftParen) (production .booleanExpression :: goals) depth =
        .took (Rule.booleanTerm.opening ++ production .booleanExpression ::
          one .rightParen .booleanTerm :: leave :: comparisons :: goals) depth := rfl
    have hgroup : Nested 0 (production .booleanExpression :: one .rightParen .booleanTerm :: leave ::
        comparisons :: goals) (depth + 1) := hinner.cons (by simp) (by simp)
    have hclosings := hgroup.depth_eq
    rw [List.replicate_succ, openings_of_took (h.cons (by simp) (by simp)) hs, openings_opening]
    have hgap (kinds : List Kind) : Rule.booleanTerm.gap kinds = 0 := rfl
    rw [hgap, List.drop_zero, Nat.add_zero, ih hinner, List.range_succ_eq_map, List.map_cons,
      List.map_map]
    congr 1
    · congr 1
      omega
    · congr 1
      funext i
      simp only [Function.comp_apply, Opening.mk.injEq, true_and]
      omega

end Cursor

namespace Rule

open Cursor Goal

/-- The limit changes nothing as long as no level goes beyond it. The first that would do so ends the
run behind its sign, and behind a line break that follows a brace, whatever else follows. -/
theorem run_of_openings (rule : Rule) (kinds : List Kind) :
    ((∀ o ∈ rule.openings kinds, o.level ≤ maxNesting) →
      rule.run kinds = rule.runWithin none kinds) ∧
    ∀ o, (rule.openings kinds).find? (maxNesting < ·.level) = some o →
      o.level = maxNesting + 1 ∧ rule.run kinds = (.error (.tooDeep o.rule), o.position) ∧
      ∃ front sign behind, kinds = front ++ sign :: behind ∧ o.rule.opener? = some sign ∧
        o.position = front.length + 1 + o.rule.gap behind ∧
        ∀ others, rule.run (front ++ sign :: others) =
          (.error (.tooDeep o.rule), front.length + 1 + o.rule.gap others) := by
  have hstart : Nested 0 [production rule] 0 := nested_production 0 rule
  constructor
  · intro hlevels
    have hfollow := follow_of_openings hstart hlevels
    simp only [run, runWithin, matchRule, matchWithin, ofKinds, hfollow]
  · intro o hfind
    obtain ⟨hlevel, front, sign, behind, hkinds, hopener, hposition, hdeep⟩ :=
      stopsAt_of_find? hstart (Nat.zero_le _) hfind
    rw [Nat.zero_add] at hposition
    have hrun (others : List Kind) : rule.run (front ++ sign :: others) =
        (.error (.tooDeep o.rule), front.length + 1 + o.rule.gap others) := by
      rw [run_eq (hdeep others), Nat.zero_add]
    refine ⟨hlevel, ?_, front, sign, behind, hkinds, hopener, hposition, hrun⟩
    rw [hkinds, hrun, hposition]

/-- As many parentheses as the limit allows, and one more. -/
theorem run_of_openings_groups :
    ((∀ o ∈ booleanExpression.openings (List.replicate 256 .leftParen), o.level ≤ maxNesting) ∧
      booleanExpression.run (List.replicate 256 .leftParen) =
        booleanExpression.runWithin none (List.replicate 256 .leftParen)) ∧
      (booleanExpression.openings (List.replicate 257 .leftParen)).find? (maxNesting < ·.level) =
        some ⟨.booleanTerm, 257, 257⟩ ∧
      booleanExpression.run (List.replicate 257 .leftParen) =
        (.error (.tooDeep .booleanTerm), 257) := by
  have hend : Nested 0 [] 0 := ⟨by simp [Flat], rfl⟩
  have hlevels : ∀ o ∈ booleanExpression.openings (List.replicate 256 .leftParen),
      o.level ≤ maxNesting := by
    rw [openings, openings_groups 256 hend]
    intro o ho
    obtain ⟨i, hi, rfl⟩ := List.mem_map.mp ho
    have hlt : i < 256 := List.mem_range.mp hi
    simp only [maxNesting]
    omega
  have hfind : (booleanExpression.openings (List.replicate 257 .leftParen)).find?
      (maxNesting < ·.level) = some ⟨.booleanTerm, 257, 257⟩ := by
    rw [openings, openings_groups 257 hend]
    decide +kernel
  exact ⟨⟨hlevels, (run_of_openings booleanExpression _).1 hlevels⟩, hfind,
    ((run_of_openings booleanExpression _).2 _ hfind).2.1⟩

end Rule

end LoopScript
